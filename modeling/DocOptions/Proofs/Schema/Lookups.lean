import DocOptions.Proofs.Schema.Leaves
import DocOptions.Proofs.Schema.Paths

/-! The look-ups that binding a table consists of: one for each field but a group, which looks up
nothing itself. Where identifiers differ, no two of them can trace anything at the same path. -/

namespace DocOptions

/-- Where a field is looked up and traced, and how its directive is read if it is a leaf. -/
structure Lookup where
  key : String
  path : String
  leaf? : Option Leaf

namespace Table

/-- The look-ups of a table, those of groups in place. -/
def lookups : {shape : Shape} → Table shape → (scope path : String) → List Lookup
  | _, nil, _, _ => []
  | _, leaf spec kind next, scope, path =>
    ⟨s!"{scope}-{spec.name}", s!"{path}.{spec.ident}", some kind⟩ :: next.lookups scope path
  | _, composite spec .group _ inner next, scope, path =>
    inner.lookups s!"{scope}-{spec.name}" s!"{path}.{spec.ident}" ++ next.lookups scope path
  | _, composite spec .inline _ _ next, scope, path =>
    ⟨s!"{scope}-{spec.name}", s!"{path}.{spec.ident}", none⟩ :: next.lookups scope path
  | _, composite spec .inlineList _ _ next, scope, path =>
    ⟨s!"{scope}-{spec.name}", s!"{path}.{spec.ident}", none⟩ :: next.lookups scope path

theorem map_key_lookups {shape : Shape} (table : Table shape) (scope path : String) :
    (table.lookups scope path).map Lookup.key = table.keys scope := by
  induction table generalizing scope path with
  | nil => rfl
  | leaf spec kind next ih => rw [lookups, List.map_cons, ih, keys_leaf]
  | composite spec kind name inner next innerIh ih =>
    cases kind with
    | group => rw [lookups, List.map_append, innerIh, ih, keys_group]
    | inline => rw [lookups, List.map_cons, ih, keys_inline]
    | inlineList => rw [lookups, List.map_cons, ih, keys_inlineList]

/-- Each look-up is traced within a field of the table. -/
theorem within_of_mem_lookups {shape : Shape} {table : Table shape} {scope path : String} :
    ∀ lookup ∈ table.lookups scope path,
      ∃ ident ∈ table.idents, PathWithin s!"{path}.{ident}" lookup.path := by
  induction table generalizing scope path with
  | nil => exact fun _ member => nomatch member
  | leaf spec kind next ih =>
    refine List.forall_mem_cons.mpr ⟨⟨_, List.mem_cons_self, .refl _⟩, ?_⟩
    intro lookup member
    obtain ⟨ident, inside, within⟩ := ih lookup member
    exact ⟨ident, List.mem_cons_of_mem _ inside, within⟩
  | composite spec kind name inner next innerIh ih =>
    have others : ∀ lookup ∈ next.lookups scope path,
        ∃ ident ∈ spec.ident :: next.idents, PathWithin s!"{path}.{ident}" lookup.path := by
      intro lookup member
      obtain ⟨ident, inside, within⟩ := ih lookup member
      exact ⟨ident, List.mem_cons_of_mem _ inside, within⟩
    cases kind with
    | group =>
      refine List.forall_mem_append.mpr ⟨?_, others⟩
      intro lookup member
      obtain ⟨ident, -, within⟩ := innerIh lookup member
      exact ⟨_, List.mem_cons_self, (PathWithin.field _ ident).trans within⟩
    | inline | inlineList =>
      exact List.forall_mem_cons.mpr ⟨⟨_, List.mem_cons_self, .refl _⟩, others⟩

end Table

/-- Nothing can be traced for both of two look-ups. -/
def Lookup.Apart (first second : Lookup) : Prop :=
  ∀ path, PathWithin first.path path → ¬ PathWithin second.path path

namespace Table

theorem apart_next {rest : Shape} {next : Table rest} {ident scope path : String} {first : Lookup}
    (segment : IsSegment ident) (fresh : ident ∉ next.idents) (named : next.WellNamed)
    (own : PathWithin s!"{path}.{ident}" first.path) :
    ∀ second ∈ next.lookups scope path, first.Apart second := by
  intro second member inner within within'
  obtain ⟨other, inside, outer⟩ := within_of_mem_lookups second member
  have same := ident_unique segment (named.isSegment other inside) (own.trans within)
    (outer.trans within')
  exact fresh (same ▸ inside)

theorem apart_lookups {shape : Shape} {table : Table shape} (named : table.WellNamed)
    (scope path : String) : (table.lookups scope path).Pairwise Lookup.Apart := by
  induction table generalizing scope path with
  | nil => exact .nil
  | leaf spec kind next ih =>
    obtain ⟨segment, fresh, nextNamed⟩ := named
    exact List.pairwise_cons.mpr
      ⟨apart_next segment fresh nextNamed (.refl _), ih nextNamed scope path⟩
  | composite spec kind name inner next innerIh ih =>
    obtain ⟨segment, fresh, innerNamed, nextNamed⟩ := named
    cases kind with
    | group =>
      refine List.pairwise_append.mpr
        ⟨innerIh innerNamed _ _, ih nextNamed scope path, fun first member => ?_⟩
      obtain ⟨ident, -, within⟩ := within_of_mem_lookups first member
      exact apart_next segment fresh nextNamed ((PathWithin.field _ ident).trans within)
    | inline | inlineList =>
      exact List.pairwise_cons.mpr
        ⟨apart_next segment fresh nextNamed (.refl _), ih nextNamed scope path⟩

end Table

end DocOptions
