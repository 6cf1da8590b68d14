import DocOptions.Proofs.Schema.Containment
import DocOptions.Proofs.Schema.LookupReports

/-! What binding passes over. In a table that the checks accept there is nothing of the kind: none
of the places that a walk leaves open is come to, so nothing that is put in there makes a
difference. -/

namespace DocOptions

section

variable {m : Type → Type} [Monad m] [LawfulMonad m] {omitted : Omissions m} {rules : RuleRegistry}
  {spec : FieldSpec} {schema : String} {taken : List String}

theorem filterMapM_eq_pure {α β : Type} {step : α → m (Option β)} {result : α → Option β}
    {items : List α} (each : ∀ item ∈ items, step item = pure (result item)) :
    items.filterMapM step = pure (items.filterMap result) := by
  induction items with
  | nil => exact List.filterMapM_nil
  | cons first rest ih =>
    obtain ⟨own, others⟩ := List.forall_mem_cons.mp each
    rw [List.filterMapM_cons, own, pure_bind, List.filterMap_cons, ih others]
    cases result first with
    | none => rfl
    | some value => exact pure_bind _ _

-- There are two reasons for a walk to be pure: the checks keep it away from the open places, or
-- these are silent. The lemmas allow for both, so that one induction serves `walk_silent` and the
-- theorem on accepted tables.

theorem FieldSpec.check_eq (site : Site) (position : Option Position) (view : ValueView)
    (unmet : (∀ rule ∈ spec.rules, rules.contains rule.name = true) ∨ omitted = .silent) :
    spec.check omitted rules site position view =
      pure (spec.refusals rules site position view) := by
  refine filterMapM_eq_pure fun rule member => ?_
  cases found : rules.get? rule.name with
  | some check => rfl
  | none =>
    rcases unmet with known | rfl
    · have registered := known rule member
      simp [TextMap.contains, found] at registered
    · rfl

theorem FieldSpec.omitRules_eq (unmet : spec.rules = [] ∨ omitted = .silent) :
    spec.omitRules omitted = pure [] := by
  rcases unmet with unruled | rfl
  · rw [omitRules, unruled, List.filterMapM_nil]
  · have silent : spec.omitRules (Omissions.silent (m := m)) =
        pure (spec.rules.filterMap fun _ => none) := filterMapM_eq_pure fun _ _ => rfl
    rw [silent, List.filterMap_none]

omit [LawfulMonad m] in
theorem Leaf.walkOwn_eq {kind : Leaf} (site : Site) (found : Option Occurrence) (slot : kind.Slot)
    (unmet : kind.ownsKey = true ∨ omitted = .silent) :
    kind.walkOwn omitted spec site found slot = pure (kind.bindOwn site found slot) := by
  unfold walkOwn
  split
  · rfl
  · rename_i without
    obtain rfl := unmet.resolve_left without
    cases kind with
    | scalar | flag | list => exact absurd rfl without
    | optionFlag | options => rfl

theorem Binding.walkChecked_eq {kind : Leaf} (binding : Binding kind.Slot) (site : Site)
    (position : Option Position)
    (unmet : (∀ rule ∈ spec.rules, rules.contains rule.name = true) ∨ omitted = .silent) :
    binding.walkChecked omitted rules spec site position =
      pure (binding.reportChecked spec rules site position) := by
  unfold walkChecked reportChecked
  split
  · rw [FieldSpec.check_eq site position _ unmet, pure_bind]
  · rfl

namespace Table

/-- A field of an inline composite is passed over only in silence or in a table at fault. -/
theorem walkInline_eq {shape : Shape} {table : Table shape} (source : Occurrence) (path : String)
    (record : shape.Record)
    (unmet : table.verify rules schema .inline taken = .ok () ∨ omitted = .silent) :
    table.walkInline omitted rules source path record =
      pure (table.bindInline rules source path record) := by
  induction table generalizing taken with
  | nil => rfl
  | leaf spec kind next ih =>
    have known := unmet.imp_left fun accepted =>
      (FieldSpec.verify_ok_iff.mp (verify_leaf_ok_iff.mp accepted).1).2
    have others := ih record.2 (unmet.imp_left fun accepted =>
      (verify_leaf_ok_iff.mp accepted).2.2)
    rw [walkInline, Binding.walkChecked_eq _ _ _ known, pure_bind, others, pure_bind]
    rfl
  | composite spec kind name inner next _ ih =>
    rcases unmet with accepted | rfl
    · obtain ⟨-, kindOk, -⟩ := verify_composite_ok_iff.mp accepted
      exact nomatch (Composite.verify_ok_iff.mp kindOk).1
    · have others := @ih taken record.2 (.inr rfl)
      rw [walkInline, others]
      simp only [Omissions.silent, pure_bind, Report.empty_append]
      rfl

theorem walkElement_eq {shape : Shape} {table : Table shape} (path : String) (source : Occurrence)
    (unmet : table.verify rules schema .inline taken = .ok () ∨ omitted = .silent) :
    table.walkElement omitted rules path source = pure (table.bindElement rules path source) := by
  rw [walkElement, walkInline_eq source path _ unmet, pure_bind]
  rfl

theorem walkElements_eq {shape : Shape} {table : Table shape} (path : String)
    (sources : List Occurrence)
    (unmet : table.verify rules schema .inline taken = .ok () ∨ omitted = .silent) :
    table.walkElements omitted rules path sources =
      pure (table.bindElements rules path sources) := by
  have walked : (sources.zipIdx.mapM fun entry =>
      table.walkElement omitted rules s!"{path}[{entry.2}]" entry.1) =
        pure (sources.zipIdx.map fun entry =>
          table.bindElement rules s!"{path}[{entry.2}]" entry.1) := by
    simp only [walkElement_eq _ _ unmet, List.mapM_pure]
  exact (congrArg (· >>= _) walked).trans (pure_bind _ _)

theorem walkFirst_eq {shape : Shape} {table : Table shape} (key path : String)
    (found : Option Occurrence) (slot : shape.Record)
    (unmet : table.verify rules schema .inline taken = .ok () ∨ omitted = .silent) :
    table.walkFirst omitted rules key path found slot =
      pure (match found with
        | none => (slot, ∅)
        | some source =>
          let (record, report) := table.bindElement rules path source
          (record, .consume key [source] ++ report)) := by
  cases found with
  | none => rfl
  | some source =>
    rw [walkFirst, walkElement_eq path source unmet, pure_bind]

theorem walk_eq {shape : Shape} {table : Table shape} (index : DirectiveIndex)
    (scope path : String) (record : shape.Record)
    (unmet : table.verify rules schema .namespaced taken = .ok () ∨ omitted = .silent) :
    table.walk omitted rules index scope path record =
      pure (table.bind rules index scope path record) := by
  -- The mode goes along: a group hands on this one, an inline composite the other.
  induction table generalizing schema taken scope path with
  | nil => rfl
  | leaf spec kind next ih =>
    have parts := unmet.imp_left verify_leaf_ok_iff.mp
    have known := parts.imp_left fun accepted => (FieldSpec.verify_ok_iff.mp accepted.1).2
    have own := parts.imp_left fun accepted =>
      Leaf.ownsKey_of_source (Leaf.verify_ok_iff.mp accepted.2.1 rfl)
    have others := ih scope path record.2 (parts.imp_left fun accepted => accepted.2.2)
    rw [walk, Leaf.walkOwn_eq _ _ _ own, pure_bind, Binding.walkChecked_eq _ _ _ known, pure_bind,
      others, pure_bind]
    rfl
  | composite spec kind name inner next innerIh ih =>
    have parts := unmet.imp_left verify_composite_ok_iff.mp
    have ruled := parts.imp_left fun accepted => (Composite.verify_ok_iff.mp accepted.2.1).2
    have inside := parts.imp_left fun accepted => accepted.2.2.1
    have others := ih scope path record.2 (parts.imp_left fun accepted => accepted.2.2.2)
    cases kind with
    | group =>
      have unruled := ruled.imp_left fun either => either.resolve_left (by decide)
      have own := innerIh s!"{scope}-{spec.name}" s!"{path}.{spec.ident}" record.1 inside
      rw [walk, FieldSpec.omitRules_eq unruled, pure_bind, own, pure_bind, others, pure_bind]
      exact congrArg (fun own => pure (_, own ++ _)) (Report.empty_append _)
    | inline =>
      have unruled := ruled.imp_left fun either => either.resolve_left (by decide)
      rw [walk, FieldSpec.omitRules_eq unruled, pure_bind, walkFirst_eq _ _ _ _ inside, pure_bind,
        others, pure_bind]
      exact congrArg (fun own => pure (_, own ++ _)) (Report.empty_append _)
    | inlineList =>
      have known := parts.imp_left fun accepted => (FieldSpec.verify_ok_iff.mp accepted.1).2
      rw [walk, walkElements_eq _ _ inside, pure_bind]
      dsimp only
      rw [FieldSpec.check_eq _ _ _ known, pure_bind, others, pure_bind]
      rfl

/-- With silence in the open places this is how any table is bound, accepted or not. -/
theorem walk_silent {shape : Shape} (table : Table shape) (rules : RuleRegistry)
    (index : DirectiveIndex) (scope path : String) (start : shape.Record) :
    table.walk (.silent : Omissions m) rules index scope path start =
      pure (table.bind rules index scope path start) :=
  have unmet : table.verify rules "" .namespaced [] = .ok () ∨ (.silent : Omissions m) = .silent :=
    .inr rfl
  walk_eq index scope path start unmet

end Table
end

namespace Table

/-- An accepted table is bound without anything being passed over: with anything at all in the open
places the record and the report are those of the binding. Every field is settled, by rules that are
all registered. -/
theorem walk_of_accepted {shape : Shape} (table : Table shape) (rules : RuleRegistry)
    (schema : String) (accepted : table.verify rules schema .namespaced [] = .ok ())
    (index : DirectiveIndex) (scope path : String) (start : shape.Record) :
    (∀ {m : Type → Type} [Monad m] [LawfulMonad m] (omitted : Omissions m),
      table.walk omitted rules index scope path start =
        pure (table.bind rules index scope path start)) ∧
    table.Settled rules index scope path start (table.bind rules index scope path start).1
      (table.bind rules index scope path start).2 :=
  ⟨fun _ => walk_eq index scope path start (.inl accepted), settled_bind accepted scope path start⟩

/-- A group with a rule inside, and a list of inline composites with a rule of its own: the rules
are come to, and none of the omissions. -/
theorem walk_of_accepted_ruled_composites :
    let text := ScalarType.plain .string
    let query := Table.leaf (field "order").required (.scalar .key text) .nil
    let column := Table.leaf (field "name").required (.scalar .param text) <|
      .leaf (field "hidden") .optionFlag .nil
    let table := Table.composite (field "query") .group "Query" query <|
      .composite (field "column").required .inlineList "Column" column .nil
    let index := DirectiveIndex.ofList [⟨⟨"x-column", ["hidden"], ∅⟩, .unknown⟩]
    table.verify .standard "Options" .namespaced [] = .ok () ∧
      ∃ report, table.walk .loud .standard index "x" "Options" table.shape.zero =
          .ok ((("", ()), [("", true, ())], ()), report) ∧
        report.diagnostics.items =
          [⟨.failure, "x-query-order: required", some "x-query-order", none⟩,
            ⟨.failure, "x-column name: required", some "x-column", some .unknown⟩] := by
  intro text query column table index
  have accepted : table.verify .standard "Options" .namespaced [] = .ok () := rfl
  obtain ⟨walked, -⟩ :=
    table.walk_of_accepted .standard "Options" accepted index "x" "Options" table.shape.zero
  exact ⟨accepted, _, (walked .loud).trans (congrArg Except.ok (Prod.ext rfl rfl)), rfl⟩

-- Tables that are refused do come to each of the open places.
example :
    let index := DirectiveIndex.ofList [⟨⟨"x-column", [], ∅⟩, .unknown⟩]
    let unread := Table.leaf (field "hidden") .optionFlag .nil
    let nested := Table.composite (field "column") .inline "Column"
      (.composite (field "inner") .group "Inner" .nil .nil) .nil
    let unruled := Table.leaf ((field "limit").rule ⟨"positive", ∅⟩) .flag .nil
    unread.walk .loud .standard index "x" "Options" unread.shape.zero =
        .error (field "hidden") ∧
      nested.walk .loud .standard index "x" "Options" nested.shape.zero =
        .error (field "inner") ∧
      unruled.walk .loud .standard index "x" "Options" unruled.shape.zero =
        .error ((field "limit").rule ⟨"positive", ∅⟩) :=
  ⟨rfl, rfl, rfl⟩

end Table
end DocOptions
