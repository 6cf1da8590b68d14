import DocOptions.Plugin.Http.Options
import DocOptions.Proofs.Schema.Accepted

/-! The fault that a decode is refused for. The fields are visited in their order, and the table of
a composite right after the composite. The first field at fault decides, and if it has several
faults the one that ranks first. Neither the directives nor the record has a part in this. -/

namespace DocOptions

/-- The order in which the faults of one field count. -/
def SchemaError.rank : SchemaError → Nat
  | emptyPrefix => 0
  | duplicateName .. => 1
  | unknownRule .. => 2
  | nestedInline .. => 3
  | ruleOnComposite .. => 4
  | inlineOnly .. => 5

/-- A field in its place: the name of its table, how that table is read, and the names of the fields
before it in the table. -/
structure FieldVisit where
  schema : String
  mode : Mode
  earlier : List String
  spec : FieldSpec
  kind : Leaf ⊕ Composite

/-- The fields of a table in their order, each before the fields of its own table. -/
def Table.visits : {shape : Shape} → Table shape → (schema : String) → (mode : Mode) →
    (earlier : List String) → List FieldVisit
  | _, nil, _, _, _ => []
  | _, leaf spec kind next, schema, mode, earlier =>
    ⟨schema, mode, earlier, spec, .inl kind⟩ :: next.visits schema mode (spec.name :: earlier)
  | _, composite spec kind name inner next, schema, mode, earlier =>
    ⟨schema, mode, earlier, spec, .inr kind⟩ ::
      (inner.visits name kind.mode [] ++ next.visits schema mode (spec.name :: earlier))

def Schema.visits {shape : Shape} (schema : Schema shape) : List FieldVisit :=
  schema.table.visits schema.name .namespaced []

namespace FieldVisit

/-- The faults that a field has. Of the rules that are not registered only the first is a fault. -/
inductive Violates (rules : RuleRegistry) (visit : FieldVisit) : SchemaError → Prop
  | duplicateName : visit.spec.name ∈ visit.earlier →
      Violates rules visit (.duplicateName visit.schema visit.spec.name)
  | unknownRule {known others : List RuleSpec} {unknown : RuleSpec} :
      visit.spec.rules = known ++ unknown :: others →
      (∀ rule ∈ known, rules.contains rule.name = true) → rules.contains unknown.name = false →
      Violates rules visit (.unknownRule visit.schema visit.spec.ident unknown.name)
  | nestedInline {kind : Composite} : visit.kind = .inr kind → visit.mode = .inline →
      Violates rules visit (.nestedInline visit.schema visit.spec.ident)
  | ruleOnComposite {kind : Composite} : visit.kind = .inr kind → kind ≠ .inlineList →
      visit.spec.rules ≠ [] → Violates rules visit (.ruleOnComposite visit.schema visit.spec.ident)
  | inlineOnly {kind : Leaf} : visit.kind = .inl kind → visit.mode = .namespaced →
      kind.source ≠ .key →
      Violates rules visit (.inlineOnly visit.schema visit.spec.ident kind.source)

/-- The fault that a field is refused for, if it is the first field at fault. -/
def Refused (rules : RuleRegistry) (visit : FieldVisit) (error : SchemaError) : Prop :=
  visit.Violates rules error ∧ ∀ other, visit.Violates rules other → error.rank ≤ other.rank

/-- The checks of one field. -/
def check (rules : RuleRegistry) (visit : FieldVisit) : Except SchemaError Unit := do
  visit.spec.verify rules visit.schema visit.earlier
  match visit.kind with
  | .inl kind => kind.verify visit.mode visit.schema visit.spec.ident
  | .inr kind => kind.verify visit.mode visit.schema visit.spec

end FieldVisit

/-- The fault of the first field that has one. -/
def FirstFault (rules : RuleRegistry) (visits : List FieldVisit) (error : SchemaError) : Prop :=
  ∃ sound visit others, visits = sound ++ visit :: others ∧
    (∀ earlier ∈ sound, ∀ other, ¬ earlier.Violates rules other) ∧ visit.Refused rules error

theorem seq_error_iff {first second : Except SchemaError Unit} {error : SchemaError} :
    (do first; second) = .error error ↔
      first = .error error ∨ first = .ok () ∧ second = .error error := by
  cases first with
  | error e => simp [bind, Except.bind]
  | ok => simp [bind, Except.bind]

/-- Checks made one after the other fail like the first that fails. -/
theorem forM_error_iff {α : Type} {check : α → Except SchemaError Unit} {items : List α}
    {error : SchemaError} :
    forM items check = .error error ↔ ∃ passed item others, items = passed ++ item :: others ∧
      (∀ earlier ∈ passed, check earlier = .ok ()) ∧ check item = .error error := by
  induction items with
  | nil => simp [pure, Except.pure]
  | cons first rest ih =>
    rw [List.forM_cons, seq_error_iff, ih]
    constructor
    · rintro (failed | ⟨passed, before, item, others, rfl, sound, failed⟩)
      · exact ⟨[], first, rest, rfl, fun _ member => (nomatch member), failed⟩
      · exact ⟨first :: before, item, others, rfl, List.forall_mem_cons.mpr ⟨passed, sound⟩, failed⟩
    · rintro ⟨passed, item, others, split, sound, failed⟩
      cases passed with
      | nil =>
        obtain ⟨rfl, rfl⟩ := List.cons.inj split
        exact .inl failed
      | cons earlier passed =>
        obtain ⟨rfl, rfl⟩ := List.cons.inj split
        obtain ⟨firstOk, restOk⟩ := List.forall_mem_cons.mp sound
        exact .inr ⟨firstOk, passed, item, others, rfl, restOk, failed⟩

theorem forM_ok_iff {α : Type} {check : α → Except SchemaError Unit} {items : List α} :
    forM items check = .ok () ↔ ∀ item ∈ items, check item = .ok () := by
  induction items with
  | nil => simp [pure, Except.pure]
  | cons first rest ih => rw [List.forM_cons, seq_ok_iff, ih, List.forall_mem_cons]

namespace FieldVisit

variable {rules : RuleRegistry} {visit : FieldVisit} {error other : SchemaError}

theorem find?_unknown {specs known others : List RuleSpec} {unknown : RuleSpec}
    (split : specs = known ++ unknown :: others)
    (registered : ∀ rule ∈ known, rules.contains rule.name = true)
    (missing : rules.contains unknown.name = false) :
    specs.find? (fun rule => !rules.contains rule.name) = some unknown := by
  refine List.find?_eq_some_iff_append.mpr ⟨by simp [missing], known, others, split, ?_⟩
  intro rule member
  simp [registered rule member]

theorem violates_of_spec
    (failed : visit.spec.verify rules visit.schema visit.earlier = .error error) :
    visit.Violates rules error := by
  unfold FieldSpec.verify at failed
  split at failed
  · rename_i used
    cases failed
    exact .duplicateName used
  · split at failed
    · rename_i unknown found
      cases failed
      obtain ⟨missing, known, others, split, registered⟩ := List.find?_eq_some_iff_append.mp found
      exact .unknownRule split (fun rule member => by simpa using registered rule member)
        (by simpa using missing)
    · cases failed

/-- What a field is refused for is a fault of it. -/
theorem violates_of_check (failed : visit.check rules = .error error) :
    visit.Violates rules error := by
  rcases seq_error_iff.mp failed with failed | ⟨-, failed⟩
  · exact violates_of_spec failed
  · cases own : visit.kind with
    | inl kind =>
      simp only [own, Leaf.verify] at failed
      split at failed
      · rename_i wrong
        cases failed
        exact .inlineOnly own wrong.1 wrong.2
      · cases failed
    | inr kind =>
      simp only [own, Composite.verify] at failed
      split at failed
      · rename_i inline
        cases failed
        exact .nestedInline own inline
      · split at failed
        · rename_i ruled
          cases failed
          exact .ruleOnComposite own ruled.1 ruled.2
        · cases failed

theorem rank_le_of_spec
    (failed : visit.spec.verify rules visit.schema visit.earlier = .error error) :
    error.rank ≤ 2 := by
  unfold FieldSpec.verify at failed
  split at failed
  · cases failed
    exact Nat.le_succ 1
  · split at failed
    · cases failed
      exact Nat.le_refl 2
    · cases failed

/-- A fault of the kind of field is found unless a fault of its name or rules comes first. -/
theorem check_rank_le_of_kind (found : SchemaError) (behind : 2 ≤ other.rank)
    (rank : found.rank ≤ other.rank)
    (kind : (match visit.kind with
      | .inl kind => kind.verify visit.mode visit.schema visit.spec.ident
      | .inr kind => kind.verify visit.mode visit.schema visit.spec) = .error found) :
    ∃ error, visit.check rules = .error error ∧ error.rank ≤ other.rank := by
  cases spec : visit.spec.verify rules visit.schema visit.earlier with
  | error e =>
    exact ⟨e, seq_error_iff.mpr (.inl spec), Nat.le_trans (rank_le_of_spec spec) behind⟩
  | ok => exact ⟨found, seq_error_iff.mpr (.inr ⟨spec, kind⟩), rank⟩

/-- A field at fault is refused, and for nothing that ranks behind the fault. -/
theorem check_rank_le (violated : visit.Violates rules other) :
    ∃ error, visit.check rules = .error error ∧ error.rank ≤ other.rank := by
  cases violated with
  | duplicateName used => exact ⟨_, seq_error_iff.mpr (.inl (if_pos used)), Nat.le_refl _⟩
  | unknownRule split registered missing =>
    by_cases used : visit.spec.name ∈ visit.earlier
    · exact ⟨_, seq_error_iff.mpr (.inl (if_pos used)), Nat.le_succ 1⟩
    · refine ⟨_, seq_error_iff.mpr (.inl ?_), Nat.le_refl _⟩
      rw [FieldSpec.verify, if_neg used, find?_unknown split registered missing]
  | nestedInline own inline =>
    refine check_rank_le_of_kind (.nestedInline visit.schema visit.spec.ident) (Nat.le_succ 2)
      (Nat.le_refl _) ?_
    simp only [own, Composite.verify, if_pos inline]
  | ruleOnComposite own kind ruled =>
    by_cases inline : visit.mode = .inline
    · refine check_rank_le_of_kind (.nestedInline visit.schema visit.spec.ident)
        (Nat.le_add_right 2 2) (Nat.le_succ 3) ?_
      simp only [own, Composite.verify, if_pos inline]
    · refine check_rank_le_of_kind (.ruleOnComposite visit.schema visit.spec.ident)
        (Nat.le_add_right 2 2) (Nat.le_refl _) ?_
      simp only [own, Composite.verify, if_neg inline, if_pos (And.intro kind ruled)]
  | @inlineOnly kind own namespaced source =>
    refine check_rank_le_of_kind (.inlineOnly visit.schema visit.spec.ident kind.source)
      (Nat.le_add_right 2 3) (Nat.le_refl _) ?_
    simp only [own, Leaf.verify, if_pos (And.intro namespaced source)]

/-- No two faults of a field rank the same. -/
theorem Violates.unique (violated : visit.Violates rules error)
    (violated' : visit.Violates rules other) (rank : error.rank = other.rank) : error = other := by
  cases violated with
  | duplicateName =>
    cases violated' with
    | duplicateName => rfl
    | _ => cases rank
  | unknownRule split registered missing =>
    cases violated' with
    | unknownRule split' registered' missing' =>
      have same := (find?_unknown split registered missing).symm.trans
        (find?_unknown split' registered' missing')
      rw [Option.some.inj same]
    | _ => cases rank
  | nestedInline =>
    cases violated' with
    | nestedInline => rfl
    | _ => cases rank
  | ruleOnComposite =>
    cases violated' with
    | ruleOnComposite => rfl
    | _ => cases rank
  | inlineOnly own =>
    cases violated' with
    | inlineOnly own' => rw [Sum.inl.inj (own.symm.trans own')]
    | _ => cases rank

theorem check_error_iff : visit.check rules = .error error ↔ visit.Refused rules error := by
  constructor
  · intro failed
    refine ⟨violates_of_check failed, fun other violated => ?_⟩
    obtain ⟨found, failed', rank⟩ := check_rank_le violated
    rwa [Except.error.inj (failed.symm.trans failed')]
  · rintro ⟨violated, least⟩
    obtain ⟨found, failed, rank⟩ := check_rank_le violated
    have violated' := violates_of_check failed
    have same : found = error :=
      violated'.unique violated (Nat.le_antisymm rank (least found violated'))
    rwa [same] at failed

theorem check_ok_iff : visit.check rules = .ok () ↔ ∀ other, ¬ visit.Violates rules other := by
  constructor
  · intro passed other violated
    obtain ⟨error, failed, -⟩ := check_rank_le violated
    cases passed.symm.trans failed
  · intro sound
    cases checked : visit.check rules with
    | ok => rfl
    | error error => exact absurd (violates_of_check checked) (sound error)

end FieldVisit

/-- Checking a table is checking the fields that are visited, one after the other. -/
theorem Table.verify_eq_forM {shape : Shape} (table : Table shape) (rules : RuleRegistry)
    (schema : String) (mode : Mode) (taken : List String) :
    table.verify rules schema mode taken =
      forM (table.visits schema mode taken) (FieldVisit.check rules) := by
  induction table generalizing schema mode taken with
  | nil => rfl
  | leaf spec kind next ih =>
    rw [verify, ih, visits, List.forM_cons]
    exact (bind_assoc _ _ _).symm
  | composite spec kind name inner next innerIh ih =>
    rw [verify, innerIh, ih, visits, List.forM_cons, List.forM_append]
    exact (bind_assoc _ _ _).symm

namespace Schema

variable {shape : Shape} {schema : Schema shape} {rules : RuleRegistry} {scope : String}
  {index : DirectiveIndex} {start : shape.Record} {error : SchemaError}

theorem verify_error_iff :
    schema.verify rules = .error error ↔ FirstFault rules schema.visits error := by
  rw [verify, Table.verify_eq_forM, forM_error_iff]
  simp only [FieldVisit.check_ok_iff, FieldVisit.check_error_iff]
  rfl

theorem verify_ok_iff :
    schema.verify rules = .ok () ↔
      ∀ visit ∈ schema.visits, ∀ other, ¬ visit.Violates rules other := by
  rw [verify, Table.verify_eq_forM, forM_ok_iff]
  simp only [FieldVisit.check_ok_iff]
  rfl

theorem decodeInto_error_iff :
    schema.decodeInto rules scope index start = .error error ↔
      scope = "" ∧ error = .emptyPrefix ∨ scope ≠ "" ∧ schema.verify rules = .error error := by
  by_cases scopeless : scope = ""
  · subst scopeless
    simp [decodeInto_of_empty, eq_comm]
  · cases checked : schema.verify rules with
    | ok => simp [decodeInto_of_accepted checked scopeless, scopeless]
    | error e => simp [decodeInto, checked, scopeless, bind, Except.bind]

/-- A decode is refused for an empty scope, or else for the first fault of the schema. Then the
record is as before, and other directives or another record would not help. -/
theorem decodeInto_faults (schema : Schema shape) (rules : RuleRegistry) (scope : String)
    (index : DirectiveIndex) (start : shape.Record) :
    (∀ error, schema.decodeInto rules scope index start = .error error ↔
      scope = "" ∧ error = .emptyPrefix ∨ scope ≠ "" ∧ FirstFault rules schema.visits error) ∧
    ((∃ error, schema.decodeInto rules scope index start = .error error) ↔
      scope = "" ∨ ∃ visit ∈ schema.visits, ∃ fault, visit.Violates rules fault) ∧
    (∀ error, schema.decodeInto rules scope index start = .error error →
      (schema.decodeInPlace rules scope index).run.run start = (.error error, start) ∧
        ∀ index' start', schema.decodeInto rules scope index' start' = .error error) := by
  refine ⟨fun error => ?_, ?_, fun error failed => ⟨?_, fun index' start' => ?_⟩⟩
  · rw [decodeInto_error_iff, verify_error_iff]
  · by_cases scopeless : scope = ""
    · refine ⟨fun _ => .inl scopeless, fun _ => ⟨.emptyPrefix, ?_⟩⟩
      exact decodeInto_error_iff.mpr (.inl ⟨scopeless, rfl⟩)
    constructor
    · rintro ⟨error, failed⟩
      rcases decodeInto_error_iff.mp failed with ⟨empty, -⟩ | ⟨-, refused⟩
      · exact .inl empty
      · obtain ⟨sound, visit, others, split, -, violated, -⟩ := verify_error_iff.mp refused
        exact .inr ⟨visit, split ▸ List.mem_append_right _ List.mem_cons_self, error, violated⟩
    · rintro (empty | ⟨visit, member, fault, violated⟩)
      · exact absurd empty scopeless
      · cases checked : schema.verify rules with
        | ok => exact absurd violated (verify_ok_iff.mp checked visit member fault)
        | error error => exact ⟨error, decodeInto_error_iff.mpr (.inr ⟨scopeless, checked⟩)⟩
  · rw [run_decodeInPlace, failed]
  · exact decodeInto_error_iff.mpr (decodeInto_error_iff.mp failed)

/-- The unknown rule of a nested field comes before the name that a later field takes again. -/
theorem decodeInto_faults_nested_rule :
    let schema : Schema _ := ⟨"Options",
      .composite (field "query") .group "QueryOpt"
        (.leaf ((field "limit").rule ⟨"positive", ∅⟩) (.scalar .key (.plain .string)) .nil) <|
      .leaf (field "query") .flag .nil⟩
    let index := DirectiveIndex.ofList [⟨⟨"http-query-limit", ["x"], ∅⟩, .unknown⟩]
    let start : schema.table.shape.Record := (("kept", ()), true, ())
    let fault := SchemaError.unknownRule "QueryOpt" "limit" "positive"
    schema.decodeInto .standard "http" index start = .error fault ∧
      FirstFault .standard schema.visits fault ∧
      (schema.decodeInPlace .standard "http" index).run.run start = (.error fault, start) := by
  intro schema index start fault
  obtain ⟨reported, -, kept⟩ := schema.decodeInto_faults .standard "http" index start
  have failed : schema.decodeInto .standard "http" index start = .error fault := rfl
  refine ⟨failed, ?_, (kept fault failed).1⟩
  rcases (reported fault).mp failed with ⟨empty, -⟩ | ⟨-, first⟩
  · exact absurd empty (by decide)
  · exact first

end Schema
end DocOptions
