import DocOptions.Schema.Decode

/-! Paths of fields in traces. What a field binds is traced at the field's path, below it after a
dot, or at an element after a bracket. Identifiers that have neither character keep the paths of
different fields apart. -/

namespace DocOptions

/-- Whether a path is that of a field or leads to a part of the field. -/
def PathWithin (path inner : String) : Prop :=
  ∃ rest, inner.toList = path.toList ++ rest ∧ ∀ c ∈ rest.head?, c = '.' ∨ c = '['

theorem toList_fieldPath (path ident : String) :
    (s!"{path}.{ident}").toList = path.toList ++ '.' :: ident.toList := by
  have joined : s!"{path}.{ident}" = path ++ "." ++ ident := rfl
  rw [joined, String.toList_append, String.toList_append, List.append_assoc]
  rfl

theorem toList_elementPath (path : String) (i : Nat) :
    (s!"{path}[{i}]").toList = path.toList ++ '[' :: (Nat.toDigits 10 i ++ [']']) := by
  have joined : s!"{path}[{i}]" = path ++ "[" ++ i.repr ++ "]" := rfl
  rw [joined]
  simp

namespace PathWithin

variable {path inner innermost : String}

theorem refl (path : String) : PathWithin path path :=
  ⟨[], (List.append_nil _).symm, fun _ member => nomatch member⟩

theorem trans (outer : PathWithin path inner) (deeper : PathWithin inner innermost) :
    PathWithin path innermost := by
  obtain ⟨rest, whole, start⟩ := outer
  obtain ⟨more, whole', start'⟩ := deeper
  refine ⟨rest ++ more, by rw [whole', whole, List.append_assoc], ?_⟩
  cases rest with
  | nil => exact start'
  | cons c rest => exact start

theorem field (path ident : String) : PathWithin path s!"{path}.{ident}" := by
  refine ⟨'.' :: ident.toList, toList_fieldPath path ident, ?_⟩
  rintro _ ⟨⟩
  exact .inl rfl

theorem element (path : String) (i : Nat) : PathWithin path s!"{path}[{i}]" := by
  have joined : s!"{path}[{i}]" = path ++ ("[" ++ toString i ++ "]") := by
    rw [← String.append_assoc, ← String.append_assoc]
    rfl
  refine ⟨("[" ++ toString i ++ "]").toList, by rw [joined, String.toList_append], ?_⟩
  rw [String.toList_append, String.toList_append]
  rintro _ ⟨⟩
  exact .inr rfl

end PathWithin

/-- Whether an identifier can be told from the rest of a path. -/
def IsSegment (ident : String) : Prop :=
  ∀ c ∈ ident.toList, c ≠ '.' ∧ c ≠ '['

instance (ident : String) : Decidable (IsSegment ident) :=
  List.decidableBAll (fun c => c ≠ '.' ∧ c ≠ '[') ident.toList

/-- The identifier that a path goes on with. -/
theorem takeWhile_segment {ident : String} (segment : IsSegment ident) {rest : List Char}
    (start : ∀ c ∈ rest.head?, c = '.' ∨ c = '[') :
    (ident.toList ++ rest).takeWhile (fun c => c ≠ '.' ∧ c ≠ '[') = ident.toList := by
  rw [List.takeWhile_append_of_pos fun c member => decide_eq_true (segment c member)]
  cases rest with
  | nil => exact List.append_nil _
  | cons c rest =>
    have stop : ¬ (c ≠ '.' ∧ c ≠ '[') := by
      rcases start c rfl with rfl | rfl
      · simp
      · simp
    rw [List.takeWhile_cons_of_neg (by simpa using stop), List.append_nil]

/-- A path leads to one field only. -/
theorem ident_unique {path inner a b : String} (segmentA : IsSegment a) (segmentB : IsSegment b)
    (withinA : PathWithin s!"{path}.{a}" inner) (withinB : PathWithin s!"{path}.{b}" inner) :
    a = b := by
  obtain ⟨rest, whole, start⟩ := withinA
  obtain ⟨rest', whole', start'⟩ := withinB
  rw [toList_fieldPath, List.append_assoc, List.cons_append] at whole whole'
  have same : a.toList ++ rest = b.toList ++ rest' :=
    List.tail_eq_of_cons_eq (List.append_cancel_left (whole.symm.trans whole'))
  apply String.toList_inj.mp
  rw [← takeWhile_segment segmentA start, same, takeWhile_segment segmentB start']

namespace Table

def idents : {shape : Shape} → Table shape → List String
  | _, nil => []
  | _, leaf spec _ next => spec.ident :: next.idents
  | _, composite spec _ _ _ next => spec.ident :: next.idents

/-- Whether the identifiers of each table, nested ones included, are segments and differ. -/
def WellNamed : {shape : Shape} → Table shape → Prop
  | _, nil => True
  | _, leaf spec _ next => IsSegment spec.ident ∧ spec.ident ∉ next.idents ∧ next.WellNamed
  | _, composite spec _ _ inner next =>
    IsSegment spec.ident ∧ spec.ident ∉ next.idents ∧ inner.WellNamed ∧ next.WellNamed

instance decidableWellNamed : {shape : Shape} → (table : Table shape) → Decidable table.WellNamed
  | _, nil => isTrue trivial
  | _, leaf _ _ next =>
    have := decidableWellNamed next
    inferInstanceAs (Decidable (_ ∧ _ ∧ _))
  | _, composite _ _ _ inner next =>
    have := decidableWellNamed inner
    have := decidableWellNamed next
    inferInstanceAs (Decidable (_ ∧ _ ∧ _ ∧ _))

theorem WellNamed.isSegment {shape : Shape} {table : Table shape} (named : table.WellNamed) :
    ∀ ident ∈ table.idents, IsSegment ident := by
  induction table with
  | nil => exact fun _ member => nomatch member
  | leaf spec kind next ih => exact List.forall_mem_cons.mpr ⟨named.1, ih named.2.2⟩
  | composite spec kind name inner next _ ih =>
    exact List.forall_mem_cons.mpr ⟨named.1, ih named.2.2.2⟩

end Table
end DocOptions
