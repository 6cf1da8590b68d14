import DocOptions.Proofs.Schema.Composites
import DocOptions.Proofs.Schema.Paths

/-! The places that a table traces. A place is reached from the path of the table in steps, each of
them a field or an element of one. No step is called like a schema, so a place tells where the table
was bound: the last schema among its parts ends the address. -/

namespace DocOptions

/-- A part of a path after a dot: one of some fields, or an element of it. -/
inductive IsStep (idents : List String) : String → Prop
  | field {ident : String} : ident ∈ idents → IsStep idents ident
  | element {ident : String} (i : Nat) : ident ∈ idents → IsStep idents s!"{ident}[{i}]"

namespace IsStep

variable {idents : List String} {step : String}

theorem dotFree (segments : ∀ ident ∈ idents, IsSegment ident) (isStep : IsStep idents step) :
    '.' ∉ step.toList := by
  cases isStep with
  | field member => exact fun dot => (segments _ member _ dot).1 rfl
  | @element ident i member =>
    rw [toList_elementPath]
    intro dot
    rcases List.mem_append.mp dot with own | bracketed
    · exact (segments _ member _ own).1 rfl
    · have digits : '.' ∉ Nat.toDigits 10 i := fun digit =>
        absurd (Nat.isDigit_of_mem_toDigits (by decide) (by decide) digit) (by decide)
      simp [digits] at bracketed

/-- The name of a schema is no step, if no field has it for its identifier. -/
theorem ne_of_fresh {name : String} (segment : IsSegment name) (fresh : name ∉ idents)
    (isStep : IsStep idents step) : step ≠ name := by
  rintro rfl
  cases isStep with
  | field member => exact fresh member
  | @element ident i _ =>
    have bracket : '[' ∈ (s!"{ident}[{i}]").toList := by
      rw [toList_elementPath]
      simp
    exact (segment _ bracket).2 rfl

end IsStep

/-- The places that steps lead to from a path. -/
def StepsTo (idents : List String) (path place : String) : Prop :=
  ∃ steps : List String, (∀ step ∈ steps, IsStep idents step) ∧ place = pathBelow path steps

namespace StepsTo

variable {idents : List String} {path place : String}

theorem refl (path : String) : StepsTo idents path path :=
  ⟨[], fun _ member => (nomatch member), (pathBelow_nil path).symm⟩

theorem below {step : String} (isStep : IsStep idents step)
    (further : StepsTo idents s!"{path}.{step}" place) : StepsTo idents path place := by
  obtain ⟨steps, areSteps, rfl⟩ := further
  exact ⟨step :: steps, List.forall_mem_cons.mpr ⟨isStep, areSteps⟩, (pathBelow_cons ..).symm⟩

theorem field {ident : String} (member : ident ∈ idents) :
    StepsTo idents path s!"{path}.{ident}" :=
  .below (.field member) (.refl _)

theorem belowElement {ident : String} (member : ident ∈ idents) (i : Nat)
    (further : let field := s!"{path}.{ident}"; StepsTo idents s!"{field}[{i}]" place) :
    StepsTo idents path place := by
  let field := s!"{path}.{ident}"
  let step := s!"{ident}[{i}]"
  -- The brackets belong to the step before them.
  have joined : s!"{field}[{i}]" = s!"{path}.{step}" := by
    change path ++ "." ++ ident ++ "[" ++ i.repr ++ "]" =
      path ++ "." ++ (ident ++ "[" ++ i.repr ++ "]")
    simp only [String.append_assoc]
  exact .below (.element i member) (joined ▸ further)

end StepsTo

theorem pathBelow_append (root : String) (idents further : List String) :
    pathBelow (pathBelow root idents) further = pathBelow root (idents ++ further) := by
  induction idents generalizing root with
  | nil => rw [pathBelow_nil, List.nil_append]
  | cons ident rest ih => rw [pathBelow_cons, ih, List.cons_append, pathBelow_cons]

theorem pathBelow_intercalate {parts : List String} (named : parts ≠ []) (further : List String) :
    pathBelow (".".intercalate parts) further = ".".intercalate (parts ++ further) := by
  obtain ⟨root, idents, rfl⟩ := List.exists_cons_of_ne_nil named
  exact pathBelow_append root idents further

/-- What stands between dots can be read off. -/
theorem intercalate_unique {parts parts' : List String} (named : parts ≠ []) (named' : parts' ≠ [])
    (free : ∀ part ∈ parts, '.' ∉ part.toList) (free' : ∀ part ∈ parts', '.' ∉ part.toList)
    (same : ".".intercalate parts = ".".intercalate parts') : parts = parts' := by
  have split {parts : List String} (named : parts ≠ []) (free : ∀ part ∈ parts, '.' ∉ part.toList) :
      (".".intercalate parts).toList.splitOn '.' = parts.map String.toList := by
    rw [String.toList_intercalate]
    exact List.splitOn_intercalate '.' (List.forall_mem_map.mpr free) (by simpa using named)
  refine (List.map_inj_right fun _ _ => String.toList_inj.mp).mp ?_
  rw [← split named free, ← split named' free', same]

/-- The names that lead to a declaration, and then that of the schema it is read with. -/
structure IsAddress (schemas : List String) (address : List String) : Prop where
  dotFree : ∀ part ∈ address, '.' ∉ part.toList
  ends : ∃ names, ∃ schema ∈ schemas, address = names ++ [schema]

namespace IsAddress

variable {schemas address address' : List String}

theorem ne_nil (isAddress : IsAddress schemas address) : address ≠ [] := by
  obtain ⟨names, schema, -, rfl⟩ := isAddress.ends
  exact List.append_ne_nil_of_right_ne_nil _ (List.cons_ne_nil _ _)

theorem cons {name : String} (free : '.' ∉ name.toList) (isAddress : IsAddress schemas address) :
    IsAddress schemas (name :: address) where
  dotFree := List.forall_mem_cons.mpr ⟨free, isAddress.dotFree⟩
  ends := by
    obtain ⟨names, schema, member, rfl⟩ := isAddress.ends
    exact ⟨name :: names, schema, member, rfl⟩

theorem eq_nil_of_append {steps : List String} (isAddress : IsAddress schemas (address ++ steps))
    (fresh : ∀ step ∈ steps, step ∉ schemas) : steps = [] := by
  obtain ⟨names, schema, member, ends⟩ := isAddress.ends
  rcases List.eq_nil_or_concat steps with rfl | ⟨before, last, rfl⟩
  · rfl
  · rw [List.concat_eq_append, ← List.append_assoc] at ends
    obtain rfl : last = schema := by simpa using (List.append_inj' ends rfl).2
    exact absurd member (fresh last (by simp))

/-- The last schema that a path names ends the address. -/
theorem unique {steps steps' : List String} (isAddress : IsAddress schemas address)
    (isAddress' : IsAddress schemas address') (fresh : ∀ step ∈ steps, step ∉ schemas)
    (fresh' : ∀ step ∈ steps', step ∉ schemas) (same : address ++ steps = address' ++ steps') :
    address = address' := by
  -- One address begins the other. What the other goes on with would be steps that end in a schema.
  rcases List.append_eq_append_iff.mp same with ⟨more, rfl, rfl⟩ | ⟨more, rfl, rfl⟩
  · have atEnd : more = [] :=
      isAddress'.eq_nil_of_append fun step member => fresh step (List.mem_append_left _ member)
    rw [atEnd, List.append_nil]
  · have atEnd : more = [] :=
      isAddress.eq_nil_of_append fun step member => fresh' step (List.mem_append_left _ member)
    rw [atEnd, List.append_nil]

end IsAddress

/-- Fields and schemas that paths tell apart. -/
structure ToldApart (schemas idents : List String) : Prop where
  fields : ∀ ident ∈ idents, IsSegment ident
  schemas : ∀ schema ∈ schemas, IsSegment schema ∧ schema ∉ idents

theorem IsAddress.singleton {schemas idents : List String} (apart : ToldApart schemas idents)
    {schema : String} (member : schema ∈ schemas) : IsAddress schemas [schema] where
  dotFree := List.forall_mem_singleton.mpr fun dot => ((apart.schemas schema member).1 _ dot).1 rfl
  ends := ⟨[], schema, member, rfl⟩

/-- No place is reached from two addresses. -/
theorem StepsTo.address_unique {schemas idents address address' : List String} {place : String}
    (apart : ToldApart schemas idents) (isAddress : IsAddress schemas address)
    (isAddress' : IsAddress schemas address')
    (stepsTo : StepsTo idents (".".intercalate address) place)
    (stepsTo' : StepsTo idents (".".intercalate address') place) : address = address' := by
  have fresh {steps : List String} (areSteps : ∀ step ∈ steps, IsStep idents step) :
      ∀ step ∈ steps, step ∉ schemas := by
    intro step member schema
    obtain ⟨segment, fresh⟩ := apart.schemas step schema
    exact (areSteps step member).ne_of_fresh segment fresh rfl
  have free {address steps : List String} (isAddress : IsAddress schemas address)
      (areSteps : ∀ step ∈ steps, IsStep idents step) :
      ∀ part ∈ address ++ steps, '.' ∉ part.toList :=
    List.forall_mem_append.mpr
      ⟨isAddress.dotFree, fun step member => (areSteps step member).dotFree apart.fields⟩
  obtain ⟨steps, areSteps, rfl⟩ := stepsTo
  obtain ⟨steps', areSteps', same⟩ := stepsTo'
  rw [pathBelow_intercalate isAddress.ne_nil, pathBelow_intercalate isAddress'.ne_nil] at same
  exact isAddress.unique isAddress' (fresh areSteps) (fresh areSteps')
    (intercalate_unique (List.append_ne_nil_of_left_ne_nil isAddress.ne_nil _)
      (List.append_ne_nil_of_left_ne_nil isAddress'.ne_nil _) (free isAddress areSteps)
      (free isAddress' areSteps') same)

/-- A report whose trace has only places of some kind. -/
def Report.TracesAt (places : String → Prop) (report : Report) : Prop :=
  ∀ place entry, report.trace.get? place = some entry → places place

namespace Report.TracesAt

variable {places others : String → Prop} {first second : Report}

theorem silent {report : Report} (untraced : report.trace = ∅) : report.TracesAt places := by
  intro place entry found
  rw [untraced] at found
  cases found

theorem bound {place : String} (inside : places place) (source : Occurrence) :
    (Report.bound place source).TracesAt places := by
  intro other entry found
  rw [Report.bound, TextMap.get?_singleton] at found
  split at found
  · rename_i same
    exact same ▸ inside
  · cases found

theorem append (at' : first.TracesAt places) (at'' : second.TracesAt places) :
    (first ++ second).TracesAt places := by
  intro place entry found
  rw [trace_append, TextMap.get?_override, Option.or_eq_some_iff] at found
  rcases found with later | ⟨-, earlier⟩
  · exact at'' place entry later
  · exact at' place entry earlier

theorem mono (tracesAt : first.TracesAt places) (wider : ∀ place, places place → others place) :
    first.TracesAt others :=
  fun place entry found => wider place (tracesAt place entry found)

end Report.TracesAt

section

variable {places : String → Prop} {site : Site}

theorem Binding.tracesAt_settle {α : Type} (inside : places site.path) (slot : α)
    (source : Occurrence) (result : Except ConversionError α) :
    (Binding.settle slot site source result).report.TracesAt places := by
  cases result with
  | ok value => exact .bound inside source
  | error e => exact .silent rfl

theorem Leaf.tracesAt_bindOwn (kind : Leaf) (inside : places site.path) (found : Option Occurrence)
    (slot : kind.Slot) : (kind.bindOwn site found slot).report.TracesAt places := by
  cases found with
  | none => cases kind <;> exact .silent rfl
  | some source =>
    cases kind with
    | scalar | list => exact Binding.tracesAt_settle inside slot source _
    | flag => exact .bound inside source
    | optionFlag | options => exact .silent rfl

theorem Leaf.tracesAt_bindInline (kind : Leaf) (inside : places site.path) (name : String)
    (source : Occurrence) (slot : kind.Slot) :
    (kind.bindInline site name source slot).report.TracesAt places := by
  cases kind with
  | scalar origin type =>
    simp only [bindInline]
    split
    · exact .silent rfl
    · exact Binding.tracesAt_settle inside slot source _
  | flag | list => exact .silent rfl
  | optionFlag =>
    simp only [bindInline]
    split
    · exact .bound inside source
    · exact .silent rfl
  | options => exact .bound inside source

theorem Binding.tracesAt_reportChecked {kind : Leaf} {binding : Binding kind.Slot}
    (tracesAt : binding.report.TracesAt places) (spec : FieldSpec) (rules : RuleRegistry)
    (position? : Option Position) :
    (binding.reportChecked spec rules site position?).TracesAt places := by
  unfold reportChecked
  split
  · exact tracesAt.append (.silent rfl)
  · exact tracesAt

end

namespace Table

/-- The identifiers of all fields, those of nested tables included. -/
def allIdents : {shape : Shape} → Table shape → List String
  | _, nil => []
  | _, leaf spec _ next => spec.ident :: next.allIdents
  | _, composite spec _ _ inner next => spec.ident :: (inner.allIdents ++ next.allIdents)

variable {idents : List String} (rules : RuleRegistry)

theorem tracesAt_bindInline {shape : Shape} (table : Table shape)
    (known : ∀ ident ∈ table.allIdents, ident ∈ idents) (source : Occurrence) (path : String)
    (record : shape.Record) :
    (table.bindInline rules source path record).2.TracesAt (StepsTo idents path) := by
  induction table with
  | nil => exact .silent rfl
  | leaf spec kind next ih =>
    obtain ⟨member, nextKnown⟩ := List.forall_mem_cons.mp known
    let site : Site := ⟨s!"{source.key} {spec.name}", source.key, s!"{path}.{spec.ident}"⟩
    have own : (kind.bindInline site spec.name source record.1).report.TracesAt
        (StepsTo idents path) :=
      kind.tracesAt_bindInline (StepsTo.field member) spec.name source record.1
    exact (Binding.tracesAt_reportChecked own spec rules _).append (ih nextKnown record.2)
  | composite spec kind name inner next _ ih =>
    obtain ⟨-, nested⟩ := List.forall_mem_cons.mp known
    exact ih (List.forall_mem_append.mp nested).2 record.2

theorem tracesAt_bindElement {shape : Shape} (table : Table shape)
    (known : ∀ ident ∈ table.allIdents, ident ∈ idents) (path : String) (source : Occurrence) :
    (table.bindElement rules path source).2.TracesAt (StepsTo idents path) :=
  (Report.TracesAt.bound (.refl path) source).append
    (table.tracesAt_bindInline rules known source path shape.zero)

theorem tracesAt_bindElements {shape : Shape} (table : Table shape)
    (known : ∀ ident ∈ table.allIdents, ident ∈ idents) {path ident : String}
    (member : ident ∈ idents) (sources : List Occurrence) :
    (table.bindElements rules s!"{path}.{ident}" sources).2.TracesAt (StepsTo idents path) := by
  simp only [bindElements, List.map_map]
  refine List.foldlRecOn (motive := fun report : Report => report.TracesAt (StepsTo idents path)) _
    _ (.silent rfl) ?_
  intro report earlier element inside
  obtain ⟨⟨source, i⟩, -, rfl⟩ := List.mem_map.mp inside
  exact earlier.append ((table.tracesAt_bindElement rules known _ source).mono fun _ =>
    .belowElement member i)

variable (index : DirectiveIndex) {spec : FieldSpec} (scope path : String)

theorem tracesAt_bindLeaf (member : spec.ident ∈ idents) (kind : Leaf) (slot : kind.Slot) :
    (bindLeaf rules index spec scope path kind slot).2.TracesAt (StepsTo idents path) := by
  let key := s!"{scope}-{spec.name}"
  let site : Site := ⟨key, key, s!"{path}.{spec.ident}"⟩
  have own : (kind.bindOwn site (index.get? key) slot).report.TracesAt (StepsTo idents path) :=
    kind.tracesAt_bindOwn (StepsTo.field member) (index.get? key) slot
  exact (Report.TracesAt.silent rfl).append (Binding.tracesAt_reportChecked own spec rules _)

theorem tracesAt_bindInlineField (member : spec.ident ∈ idents) {nested : Shape}
    (inner : Table nested) (known : ∀ ident ∈ inner.allIdents, ident ∈ idents)
    (slot : nested.Record) :
    (bindComposite rules index spec scope path inner .inline slot).2.TracesAt
      (StepsTo idents path) := by
  simp only [bindComposite]
  cases index.get? s!"{scope}-{spec.name}" with
  | none => exact .silent rfl
  | some source =>
    exact (Report.TracesAt.silent rfl).append
      ((inner.tracesAt_bindElement rules known _ source).mono fun _ => .below (.field member))

/-- A table traces its fields alone, however deep they are nested. -/
theorem tracesAt_bind {shape : Shape} (table : Table shape)
    (known : ∀ ident ∈ table.allIdents, ident ∈ idents) (scope path : String)
    (record : shape.Record) :
    (table.bind rules index scope path record).2.TracesAt (StepsTo idents path) := by
  induction table generalizing scope path with
  | nil => exact .silent rfl
  | leaf spec kind next ih =>
    obtain ⟨member, nextKnown⟩ := List.forall_mem_cons.mp known
    exact (tracesAt_bindLeaf rules index scope path member kind record.1).append
      (ih nextKnown scope path record.2)
  | composite spec kind name inner next innerIh ih =>
    obtain ⟨member, nested⟩ := List.forall_mem_cons.mp known
    obtain ⟨innerKnown, nextKnown⟩ := List.forall_mem_append.mp nested
    rw [bind_composite]
    refine Report.TracesAt.append ?_ (ih nextKnown scope path record.2)
    cases kind with
    | group => exact (innerIh innerKnown _ _ record.1).mono fun _ => .below (.field member)
    | inline => exact tracesAt_bindInlineField rules index scope path member inner innerKnown _
    | inlineList =>
      exact ((Report.TracesAt.silent rfl).append
        (inner.tracesAt_bindElements rules innerKnown member _)).append (.silent rfl)

end Table
end DocOptions
