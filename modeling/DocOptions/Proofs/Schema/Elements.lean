import DocOptions.Proofs.Schema.LookupReports
import DocOptions.Proofs.Schema.Relocation

/-! The elements of inline composites. An element is bound from a new record and one occurrence of
the composite's key, so what it holds and what is found wrong with it can be said of the occurrence
alone; the elements of a list leave each other's traces alone because their indices differ. -/

namespace DocOptions

namespace Leaf

/-- What the directive of an inline composite has for a leaf: nothing, a value, or why a text is
none. -/
def reading? (name : String) (directive : Directive) :
    (kind : Leaf) → Option (Except ConversionError kind.Slot)
  | scalar .key _ => none
  | scalar .value type => directive.options.head?.map type.read
  | scalar .param type => (directive.params.get? name).map type.read
  | flag => none
  | list _ => none
  | optionFlag => if name ∈ directive.options then some (.ok true) else none
  | options => some (.ok directive.options)

/-- What a leaf of a new element holds. -/
def elementSlot (name : String) (directive : Directive) (kind : Leaf) : kind.Slot :=
  match kind.reading? name directive with
  | some (.ok value) => value
  | _ => kind.zero

/-- What is found wrong with a leaf of a new element: that its text is no value, or else what its
rules refuse. -/
def elementFindings (kind : Leaf) (spec : FieldSpec) (rules : RuleRegistry) (source : Occurrence) :
    List Diagnostic :=
  let subject := s!"{source.key} {spec.name}"
  match kind.reading? spec.name source.directive with
  | some (.error e) =>
    [⟨.failure, s!"{subject}: {e.message}", some source.key, some source.position⟩]
  | _ =>
    spec.refusals rules ⟨subject, source.key, ""⟩ (some source.position)
      (kind.view (kind.elementSlot spec.name source.directive))

/-- A leaf is bound from the directive of its composite as the directive reads. -/
theorem bindInline_eq (kind : Leaf) (site : Site) (name : String) (source : Occurrence)
    (slot : kind.Slot) :
    kind.bindInline site name source slot =
      match kind.reading? name source.directive with
      | none => .absent slot
      | some result => .settle slot site source result := by
  cases kind with
  | scalar origin type =>
    cases origin with
    | key => rfl
    | value =>
      simp only [bindInline, inlineText?, reading?]
      cases source.directive.options.head? <;> rfl
    | param =>
      simp only [bindInline, inlineText?, reading?, Directive.param?]
      cases source.directive.params.get? name <;> rfl
  | flag | list | options => rfl
  | optionFlag =>
    simp only [bindInline, reading?, Directive.hasOption, List.contains_iff_mem]
    split <;> rfl

/-- In a new record a leaf holds what its directive has for it, or else its zero value. -/
theorem slot_bindInline (kind : Leaf) (site : Site) (name : String) (source : Occurrence) :
    (kind.bindInline site name source kind.zero).slot = kind.elementSlot name source.directive := by
  rw [bindInline_eq, elementSlot]
  cases kind.reading? name source.directive with
  | none => rfl
  | some result => cases result <;> rfl

theorem findings_bindInline (kind : Leaf) (spec : FieldSpec) (rules : RuleRegistry) (path : String)
    (source : Occurrence) :
    let site : Site := ⟨s!"{source.key} {spec.name}", source.key, path⟩
    ((kind.bindInline site spec.name source kind.zero).reportChecked spec rules site
      (some source.position)).diagnostics.items = kind.elementFindings spec rules source := by
  intro site
  have slot := kind.slot_bindInline site spec.name source
  rw [Binding.reportChecked, slot, bindInline_eq, elementFindings]
  cases kind.reading? spec.name source.directive with
  | none => rfl
  | some result => cases result <;> rfl

end Leaf

namespace Table

/-- A new record, bound from a directive. -/
def element (directive : Directive) : {shape : Shape} → Table shape → shape.Record
  | _, nil => ()
  | _, leaf spec kind next => (kind.elementSlot spec.name directive, next.element directive)
  | .composite kind nested _, composite _ _ _ _ next =>
    (kind.zero nested.zero, next.element directive)

/-- The findings about a new record, in the order of its fields. -/
def elementFindings (rules : RuleRegistry) (source : Occurrence) :
    {shape : Shape} → Table shape → List Diagnostic
  | _, nil => []
  | _, leaf spec kind next =>
    kind.elementFindings spec rules source ++ next.elementFindings rules source
  | _, composite _ _ _ _ next => next.elementFindings rules source

variable {shape : Shape} (table : Table shape) (rules : RuleRegistry)

theorem bindInline_zero (source : Occurrence) (path : String) :
    (table.bindInline rules source path shape.zero).1 = table.element source.directive ∧
      (table.bindInline rules source path shape.zero).2.diagnostics.items =
        table.elementFindings rules source := by
  induction table with
  | nil => exact ⟨rfl, rfl⟩
  | leaf spec kind next ih =>
    obtain ⟨rest, findings⟩ := ih
    constructor
    · exact Prod.ext (kind.slot_bindInline _ spec.name source) rest
    · exact congr (congrArg (· ++ ·)
        (kind.findings_bindInline spec rules s!"{path}.{spec.ident}" source)) findings
  | composite spec kind name inner next _ ih =>
    obtain ⟨rest, findings⟩ := ih
    exact ⟨congrArg (Prod.mk _) rest, findings⟩

/-- An element is made from its occurrence alone. -/
theorem bindElement_eq (path : String) (source : Occurrence) :
    (table.bindElement rules path source).1 = table.element source.directive ∧
      (table.bindElement rules path source).2.diagnostics.items =
        table.elementFindings rules source :=
  table.bindInline_zero rules source path

end Table

theorem Report.items_foldl (start : Report) (reports : List Report) :
    (reports.foldl (· ++ ·) start).diagnostics.items =
      start.diagnostics.items ++ reports.flatMap (·.diagnostics.items) := by
  induction reports generalizing start with
  | nil => exact (List.append_nil _).symm
  | cons report rest ih =>
    rw [List.foldl_cons, ih, List.flatMap_cons, ← List.append_assoc]
    rfl

namespace Table

variable {shape : Shape} (table : Table shape) (rules : RuleRegistry) (path : String)

/-- There is one element for each occurrence, and the findings about the elements follow each
other. -/
theorem bindElements_eq (sources : List Occurrence) :
    (table.bindElements rules path sources).1 =
        sources.map (fun source => table.element source.directive) ∧
      (table.bindElements rules path sources).2.diagnostics.items =
        sources.flatMap (table.elementFindings rules) := by
  constructor
  · calc (table.bindElements rules path sources).1
        = sources.zipIdx.map ((fun source => table.element source.directive) ∘ Prod.fst) := by
          simp only [bindElements, List.map_map]
          exact List.map_congr_left fun item _ => (table.bindElement_eq rules _ item.1).1
      _ = sources.map fun source => table.element source.directive := by
          rw [← List.map_map, List.zipIdx_map_fst]
  · calc (table.bindElements rules path sources).2.diagnostics.items
        = sources.zipIdx.flatMap fun item => table.elementFindings rules item.1 := by
          simp only [bindElements, Report.items_foldl, List.map_map, List.flatMap_map,
            Function.comp_apply, (table.bindElement_eq rules _ _).2]
          rfl
      _ = sources.flatMap (table.elementFindings rules) := by
          rw [← (List.flatMap_map Prod.fst (fun source => table.elementFindings rules source) _),
            List.zipIdx_map_fst]

end Table

/-- Indices between brackets tell elements apart. -/
theorem index_unique {path : String} {i j : Nat} {rest rest' : List Char}
    (place : (s!"{path}[{i}]").toList ++ rest = (s!"{path}[{j}]").toList ++ rest') : i = j := by
  have closing (n : Nat) (after : List Char) :
      (Nat.toDigits 10 n ++ ']' :: after).takeWhile (·.isDigit) = Nat.toDigits 10 n := by
    rw [List.takeWhile_append_of_pos fun c => Nat.isDigit_of_mem_toDigits (by decide) (by decide),
      List.takeWhile_cons_of_neg (by decide), List.append_nil]
  simp only [toList_elementPath, List.append_assoc, List.cons_append, List.nil_append] at place
  have same : Nat.toDigits 10 i ++ ']' :: rest = Nat.toDigits 10 j ++ ']' :: rest' :=
    List.tail_eq_of_cons_eq (List.append_cancel_left place)
  have digits : Nat.toDigits 10 i = Nat.toDigits 10 j := by
    rw [← closing i rest, same, closing]
  calc i = Nat.ofDigitChars 10 (Nat.toDigits 10 i) 0 := Nat.ofDigitChars_ten_toDigits.symm
    _ = Nat.ofDigitChars 10 (Nat.toDigits 10 j) 0 := by rw [digits]
    _ = j := Nat.ofDigitChars_ten_toDigits

namespace Table

variable {shape : Shape} (table : Table shape) (rules : RuleRegistry) (path : String)

theorem get?_bindElement_self (source : Occurrence) :
    (table.bindElement rules path source).2.trace.get? path = some source := by
  obtain ⟨entry, found⟩ :=
    Option.isSome_iff_exists.mp (table.contains_trace_bindElement rules source)
  have within := table.within_bindElement rules (List.mem_singleton_self source) (.refl path)
  obtain ⟨member, -⟩ := within.traced path entry found
  rw [found, List.mem_singleton.mp member]

/-- An element traces nothing below the path of another. -/
theorem get?_bindElement_of_ne {i j : Nat} (different : i ≠ j) (rest : String)
    (source : Occurrence) :
    (table.bindElement rules s!"{path}[{j}]" source).2.trace.get? (s!"{path}[{i}]" ++ rest) =
      none := by
  rw [Option.eq_none_iff_forall_ne_some]
  intro entry found
  have moved := (table.relocatable_bindElement rules source).rerooted s!"{path}[{j}]" path
  obtain ⟨rest', whole, -⟩ := moved.within _ entry found
  rw [String.toList_append] at whole
  exact different (index_unique whole)

/-- The reports of elements, the first of which has the index `n`. -/
def elementReports (n : Nat) (sources : List Occurrence) : Report :=
  ((sources.zipIdx n).map fun (source, i) =>
    (table.bindElement rules s!"{path}[{i}]" source).2).foldl (· ++ ·) ∅

theorem elementReports_cons (n : Nat) (source : Occurrence) (others : List Occurrence) :
    table.elementReports rules path n (source :: others) =
      (table.bindElement rules s!"{path}[{n}]" source).2 ++
        table.elementReports rules path (n + 1) others := by
  rw [elementReports, List.zipIdx_cons, List.map_cons, List.foldl_cons, Report.foldl_append,
    Report.empty_append]
  rfl

theorem get?_elementReports_of_lt {i n : Nat} (earlier : i < n) (rest : String)
    (sources : List Occurrence) :
    (table.elementReports rules path n sources).trace.get? (s!"{path}[{i}]" ++ rest) = none := by
  induction sources generalizing n with
  | nil => rfl
  | cons source others ih =>
    rw [elementReports_cons, Report.trace_append, TextMap.get?_override,
      ih (Nat.lt_succ_of_lt earlier),
      table.get?_bindElement_of_ne rules path (Nat.ne_of_lt earlier), Option.none_or]

theorem get?_elementReports {k n : Nat} {sources : List Occurrence} {source : Occurrence}
    (listed : sources[k]? = some source) (rest : String) :
    (table.elementReports rules path n sources).trace.get? (s!"{path}[{n + k}]" ++ rest) =
      (table.bindElement rules s!"{path}[{n + k}]" source).2.trace.get?
        (s!"{path}[{n + k}]" ++ rest) := by
  induction sources generalizing k n with
  | nil => cases listed
  | cons first others ih =>
    rw [elementReports_cons, Report.trace_append, TextMap.get?_override]
    cases k with
    | zero =>
      cases listed
      have later := table.get?_elementReports_of_lt rules path (Nat.lt_succ_self n) rest others
      simp only [Nat.add_zero]
      rw [later, Option.none_or]
    | succ k =>
      have index : n + (k + 1) = n + 1 + k := by omega
      have later : n + 1 + k ≠ n := by omega
      rw [index, ih listed, table.get?_bindElement_of_ne rules path later, Option.or_none]

theorem traced_elementReports {n : Nat} {sources : List Occurrence} {place : String}
    {entry : Occurrence}
    (found : (table.elementReports rules path n sources).trace.get? place = some entry) :
    ∃ i, sources[i]? = some entry ∧ PathWithin s!"{path}[{n + i}]" place := by
  induction sources generalizing n with
  | nil => cases found
  | cons source others ih =>
    rw [elementReports_cons, Report.trace_append, TextMap.get?_override,
      Option.or_eq_some_iff] at found
    rcases found with later | ⟨-, own⟩
    · obtain ⟨i, listed, inside⟩ := ih later
      have index : n + 1 + i = n + (i + 1) := by omega
      exact ⟨i + 1, listed, index ▸ inside⟩
    · have within := table.within_bindElement rules (List.mem_singleton_self source)
        (.refl s!"{path}[{n}]")
      obtain ⟨member, inside⟩ := within.traced place entry own
      exact ⟨0, congrArg some (List.mem_singleton.mp member).symm, inside⟩

theorem report_bindElements (sources : List Occurrence) :
    (table.bindElements rules path sources).2 = table.elementReports rules path 0 sources := by
  simp only [bindElements, elementReports, List.map_map]
  rfl

/-- Below the path of an element there are just the entries of the element itself. -/
theorem get?_bindElements {i : Nat} {sources : List Occurrence} {source : Occurrence}
    (listed : sources[i]? = some source) (rest : String) :
    (table.bindElements rules path sources).2.trace.get? (s!"{path}[{i}]" ++ rest) =
      (table.bindElement rules s!"{path}[{i}]" source).2.trace.get? (s!"{path}[{i}]" ++ rest) := by
  have found : (table.elementReports rules path 0 sources).trace.get?
        (s!"{path}[{0 + i}]" ++ rest) = _ :=
    table.get?_elementReports rules path listed rest
  rw [Nat.zero_add] at found
  rw [report_bindElements, found]

/-- Each entry stands at or below the element that is made from it. -/
theorem traced_bindElements {sources : List Occurrence} {place : String} {entry : Occurrence}
    (found : (table.bindElements rules path sources).2.trace.get? place = some entry) :
    ∃ i : Nat, sources[i]? = some entry ∧ PathWithin s!"{path}[{i}]" place := by
  rw [report_bindElements] at found
  obtain ⟨i, listed, inside⟩ := table.traced_elementReports rules path found
  exact ⟨i, listed, Nat.zero_add i ▸ inside⟩

end Table
end DocOptions
