import DocOptions.Json.Record
import DocOptions.Proofs.Json.Reading

/-! What is read from records that were written. A record has each of its members once and no
others, so all of them are found. -/

namespace DocOptions.Json

theorem knownMembers_map {names : List String} {members : List (String × Json)}
    (known : ∀ member ∈ members, member.1 ∈ names) (distinct : (members.map Prod.fst).Nodup) :
    knownMembers names (members.map named) = some members := by
  induction members with
  | nil => rfl
  | cons member rest ih =>
    obtain ⟨own, others⟩ := List.forall_mem_cons.mp known
    obtain ⟨fresh, distinctRest⟩ := List.nodup_cons.mp distinct
    have missing : List.lookup member.1 rest = none := by
      rw [List.lookup_eq_none_iff]
      intro other inside
      rw [bne_iff_ne]
      exact fun same => fresh (same ▸ List.mem_map_of_mem inside)
    have found := ih others distinctRest
    simp only [knownMembers, named, List.map_cons] at found ⊢
    simp only [found, Option.bind_eq_bind, Option.bind_some, if_pos own, missing,
      Option.isSome_none]
    rfl

theorem asRecord_record {names : List String} {members : List (String × Json)}
    (known : ∀ member ∈ members, member.1 ∈ names) (distinct : (members.map Prod.fst).Nodup) :
    (record members).asRecord names = some members :=
  knownMembers_map known distinct

/-- Items that are read from what they are written as are all read from a list. -/
theorem mapM_map_of_reads {α β : Type} {encode : α → β} {decode : β → Option α}
    (reads : ∀ a, decode (encode a) = some a) (items : List α) :
    (items.map encode).mapM decode = some items := by
  induction items with
  | nil => rfl
  | cons a rest ih =>
    rw [List.map_cons, List.mapM_cons, reads, ih]
    rfl

theorem asList_array {α : Type} {item : Json → Option α} {encode : α → Json}
    (reads : ∀ a, item (encode a) = some a) (items : List α) :
    asList item (.array (items.map encode)) = some items :=
  mapM_map_of_reads reads items

theorem asList_texts (items : List String) : asList asText (texts items) = some items := by
  have reads (s : String) : asText (text s) = some s := rfl
  exact asList_array reads items

theorem asTextMap_record (map : TextMap String) :
    asTextMap (record (map.entries.map fun (name, value) => (name, text value))) = some map := by
  have reads (entry : String × String) :
      asTextMember (named (entry.1, text entry.2)) = some entry := rfl
  have members := mapM_map_of_reads reads map.entries
  rw [record_eq, List.map_map]
  exact (congrArg (Option.map TextMap.ofList) members).trans (congrArg some map.ofList_entries)

theorem asWord_toNat (n : UInt64) : asWord (.integer n.toNat) = some n := by
  have small : n.toNat < Nat.pow 2 64 := n.toNat_lt
  rw [asWord, if_pos ⟨by omega, by omega⟩, Int.toNat_natCast, UInt64.ofNat_toNat]

end DocOptions.Json
