import DocOptions.Proofs.Json.Layout

/-! JSON texts in any layout, read back. The reader takes a value off the front and leaves what
follows, so the items of an array are read one by one, and so are the members of an object. Every
value that is begun takes a character, so the length of the text is fuel enough. -/

namespace DocOptions.Json

/-- Values that are told by their text: strings and names are texts and numbers are integers. -/
inductive IsExact : Json → Prop
  | null : IsExact .null
  | bool (b : Bool) : IsExact (.bool b)
  | integer (n : Int) : IsExact (.integer n)
  | text (s : String) : IsExact (text s)
  | array {items : List Json} (each : ∀ item ∈ items, IsExact item) : IsExact (.array items)
  | record {members : List (String × Json)} (each : ∀ member ∈ members, IsExact member.2) :
      IsExact (record members)

theorem IsExact.array_map {α : Type} {encode : α → Json} (exact : ∀ a, (encode a).IsExact)
    (items : List α) : IsExact (.array (items.map encode)) := by
  refine .array fun item inside => ?_
  obtain ⟨a, -, rfl⟩ := List.mem_map.mp inside
  exact exact a

def IsBlank (chars : List Char) : Prop :=
  ∀ c ∈ chars, isSpace c = true

theorem skipSpace_append {blanks : List Char} (blank : IsBlank blanks) (chars : List Char) :
    skipSpace (blanks ++ chars) = skipSpace chars :=
  List.dropWhile_append_of_pos blank

theorem skipSpace_cons {c : Char} (solid : isSpace c = false) (rest : List Char) :
    skipSpace (c :: rest) = c :: rest := by
  rw [skipSpace, List.dropWhile_cons_of_neg (by rw [solid]; exact Bool.false_ne_true)]

theorem readValue_append {blanks : List Char} (blank : IsBlank blanks) (fuel : Nat)
    (chars : List Char) : readValue fuel (blanks ++ chars) = readValue fuel chars := by
  cases fuel with
  | zero => rfl
  | succ fuel => rw [readValue, readValue, skipSpace_append blank]

theorem readItems_append {blanks : List Char} (blank : IsBlank blanks) (fuel : Nat)
    (chars : List Char) : readItems fuel (blanks ++ chars) = readItems fuel chars := by
  cases fuel with
  | zero => rfl
  | succ fuel => rw [readItems, readItems, readValue_append blank]

theorem readMembers_append {blanks : List Char} (blank : IsBlank blanks) (fuel : Nat)
    (chars : List Char) : readMembers fuel (blanks ++ chars) = readMembers fuel chars := by
  cases fuel with
  | zero => rfl
  | succ fuel => rw [readMembers, readMembers, skipSpace_append blank]

theorem endsNumber_cons {c : Char} (punctuation : c = ',' ∨ c = ']' ∨ c = '\x7d')
    (rest : List Char) : EndsNumber (c :: rest) := by
  rintro _ ⟨⟩
  rcases punctuation with rfl | rfl | rfl <;> decide

theorem endsNumber_append {blanks : List Char} (blank : IsBlank blanks) {rest : List Char}
    (ends : EndsNumber rest) : EndsNumber (blanks ++ rest) := by
  cases blanks with
  | nil => exact ends
  | cons space blanks =>
    have spaces := (List.forall_mem_cons.mp blank).1
    rintro _ ⟨⟩
    simp only [isSpace, Bool.or_eq_true, beq_iff_eq] at spaces
    rcases spaces with ((rfl | rfl) | rfl) | rfl <;> decide

section

variable {chars rest tail others : List Char} {c : Char} {fuel : Nat} {name : String} {value : Json}

theorem readValue_text (s : String) :
    readValue (fuel + 1) (writeString s ++ rest) = some (text s, rest) := by
  have solid : isSpace '"' = false := rfl
  rw [writeString_append, readValue, skipSpace_cons solid]
  simp only [readString_escaped]
  rfl

theorem readValue_array (start : skipSpace chars = c :: others) (notEnd : c ≠ ']') :
    readValue (fuel + 1) ('[' :: chars) =
      (readItems fuel (c :: others)).map fun (items, rest) => (.array items, rest) := by
  have solid : isSpace '[' = false := rfl
  have notBrace : '[' ≠ '\x7b' := by decide
  rw [readValue, skipSpace_cons solid]
  simp only [if_neg notBrace, if_pos, start]
  split
  · next same => exact absurd (List.cons.inj same).1 notEnd
  · rfl

theorem readValue_object (start : skipSpace chars = '"' :: others) :
    readValue (fuel + 1) ('\x7b' :: chars) =
      (readMembers fuel ('"' :: others)).map fun (members, rest) => (.object members, rest) := by
  have solid : isSpace '\x7b' = false := rfl
  rw [readValue, skipSpace_cons solid]
  simp only [if_pos, start]
  rfl

theorem readItems_last (first : readValue fuel chars = some (value, rest))
    (ends : skipSpace rest = ']' :: tail) : readItems (fuel + 1) chars = some ([value], tail) := by
  rw [readItems, first]
  simp only [ends]

theorem readItems_more (first : readValue fuel chars = some (value, rest))
    (goesOn : skipSpace rest = ',' :: tail) :
    readItems (fuel + 1) chars =
      (readItems fuel tail).map fun (items, rest) => (value :: items, rest) := by
  rw [readItems, first]
  simp only [goesOn]

theorem readMembers_last (first : readValue fuel chars = some (value, rest))
    (ends : skipSpace rest = '\x7d' :: tail) :
    readMembers (fuel + 1) (writeString name ++ ':' :: chars) =
      some ([(some name, value)], tail) := by
  have quote : isSpace '"' = false := rfl
  have colon : isSpace ':' = false := rfl
  rw [writeString_append, readMembers, skipSpace_cons quote]
  simp only [readString_escaped, skipSpace_cons colon, first, ends]

theorem readMembers_more (first : readValue fuel chars = some (value, rest))
    (goesOn : skipSpace rest = ',' :: tail) :
    readMembers (fuel + 1) (writeString name ++ ':' :: chars) =
      (readMembers fuel tail).map fun (members, rest) => ((some name, value) :: members, rest) := by
  have quote : isSpace '"' = false := rfl
  have colon : isSpace ':' = false := rfl
  rw [writeString_append, readMembers, skipSpace_cons quote]
  simp only [readString_escaped, skipSpace_cons colon, first, goesOn]

end

/-- A member of a record, whose name is a text. -/
def named (member : String × Json) : Option String × Json :=
  (some member.1, member.2)

theorem record_eq (members : List (String × Json)) : record members = .object (members.map named) :=
  rfl

namespace Layout

variable (layout : Layout)

/-- A value is read from the front of what is written for it, whatever stands after it. -/
def Reads (level : Nat) (json : Json) : Prop :=
  ∀ (fuel : Nat) (rest : List Char), (layout.writeValue level json).length < fuel →
    EndsNumber rest → readValue fuel (layout.writeValue level json ++ rest) = some (json, rest)

variable {layout} {level : Nat}

theorem reads_null : layout.Reads level .null := by
  intro fuel rest enough _
  obtain ⟨fuel, rfl⟩ := Nat.exists_eq_add_one.mpr (Nat.zero_lt_of_lt enough)
  rfl

theorem reads_bool (b : Bool) : layout.Reads level (.bool b) := by
  intro fuel rest enough _
  obtain ⟨fuel, rfl⟩ := Nat.exists_eq_add_one.mpr (Nat.zero_lt_of_lt enough)
  cases b <;> rfl

theorem reads_text (s : String) : layout.Reads level (text s) := by
  intro fuel rest enough _
  obtain ⟨fuel, rfl⟩ := Nat.exists_eq_add_one.mpr (Nat.zero_lt_of_lt enough)
  have written : layout.writeValue level (text s) = writeString s := by
    simp only [text, writeValue, Option.getD_some]
  rw [written, readValue_text]

theorem ne_of_number {c d : Char} (first : c.isDigit = true ∨ c = '-')
    (other : d.isDigit = false ∧ d ≠ '-') : c ≠ d := by
  rintro rfl
  rcases first with digit | minus
  · exact absurd (other.1.symm.trans digit) Bool.false_ne_true
  · exact other.2 minus

theorem not_isSpace_of_number {c : Char} (first : c.isDigit = true ∨ c = '-') :
    isSpace c = false := by
  simp only [isSpace, Bool.or_eq_false_iff, beq_eq_false_iff_ne]
  exact ⟨⟨⟨ne_of_number first (by decide), ne_of_number first (by decide)⟩,
    ne_of_number first (by decide)⟩, ne_of_number first (by decide)⟩

theorem reads_integer (n : Int) : layout.Reads level (.integer n) := by
  intro fuel rest enough ends
  obtain ⟨fuel, rfl⟩ := Nat.exists_eq_add_one.mpr (Nat.zero_lt_of_lt enough)
  have number := readNumber_toString n ends
  have written : layout.writeValue level (.integer n) = (toString n).toList := by
    simp only [writeValue]
  obtain ⟨c, digits, start, first⟩ := exists_head_toString n
  have other {d : Char} (apart : d.isDigit = false ∧ d ≠ '-') : c ≠ d := ne_of_number first apart
  rw [start, List.cons_append] at number
  rw [written, start, List.cons_append, readValue, skipSpace_cons (not_isSpace_of_number first)]
  simp only [if_neg (other (d := '\x7b') (by decide)), if_neg (other (d := '[') (by decide)),
    if_neg (other (d := '"') (by decide)), if_neg (other (d := 'n') (by decide)),
    if_neg (other (d := 't') (by decide)), if_neg (other (d := 'f') (by decide)), number]

/-- A value starts with a character that is neither white space nor the end of an array. -/
theorem exists_head (layout : Layout) {json : Json} (exact : json.IsExact) (level : Nat) :
    ∃ c rest, layout.writeValue level json = c :: rest ∧ isSpace c = false ∧ c ≠ ']' := by
  cases exact with
  | null => exact ⟨'n', _, by simp only [writeValue]; rfl, rfl, by decide⟩
  | bool b =>
    cases b with
    | false => exact ⟨'f', _, by simp only [writeValue]; rfl, rfl, by decide⟩
    | true => exact ⟨'t', _, by simp only [writeValue]; rfl, rfl, by decide⟩
  | integer n =>
    obtain ⟨c, digits, start, first⟩ := exists_head_toString n
    exact ⟨c, digits, by simp only [writeValue, start], not_isSpace_of_number first,
      ne_of_number first (by decide)⟩
  | text s => exact ⟨'"', _, by simp only [text, writeValue]; rfl, rfl, by decide⟩
  | @array items _ =>
    cases items with
    | nil => exact ⟨'[', _, by simp only [writeValue]; rfl, rfl, by decide⟩
    | cons item rest => exact ⟨'[', _, by simp only [writeValue]; rfl, rfl, by decide⟩
  | @record members _ =>
    cases members with
    | nil => exact ⟨'\x7b', _, by simp only [record, List.map_nil, writeValue]; rfl, rfl, by decide⟩
    | cons member rest =>
      exact ⟨'\x7b', _, by simp only [record, List.map_cons, writeValue]; rfl, rfl, by decide⟩

/-- The items of an array are read up to its closing bracket. -/
theorem readItems_write {item : Json} {more : List Json}
    (each : ∀ other ∈ item :: more, layout.Reads level other) {closing : List Char}
    (blank : IsBlank closing) (tail : List Char) (fuel : Nat)
    (enough : (layout.writeValue level item).length + (layout.writeItems level more).length + 1 <
      fuel) :
    readItems fuel (layout.writeValue level item ++
      (layout.writeItems level more ++ (closing ++ ']' :: tail))) = some (item :: more, tail) := by
  induction more generalizing item fuel with
  | nil =>
    obtain ⟨fuel, rfl⟩ := Nat.exists_eq_add_one.mpr (Nat.zero_lt_of_lt enough)
    have first := each item List.mem_cons_self fuel (closing ++ ']' :: tail) (by omega)
      (endsNumber_append blank (endsNumber_cons (.inr (.inl rfl)) tail))
    simp only [writeItems, List.nil_append]
    exact readItems_last first (skipSpace_append blank _)
  | cons next more ih =>
    obtain ⟨fuel, rfl⟩ := Nat.exists_eq_add_one.mpr (Nat.zero_lt_of_lt enough)
    obtain ⟨own, others⟩ := List.forall_mem_cons.mp each
    have written : layout.writeItems level (next :: more) ++ (closing ++ ']' :: tail) =
        ',' :: (layout.lineBreak level ++ (layout.writeValue level next ++
          (layout.writeItems level more ++ (closing ++ ']' :: tail)))) := by
      simp only [writeItems, List.cons_append, List.append_assoc]
    have longer : (layout.writeValue level next).length + (layout.writeItems level more).length <
        (layout.writeItems level (next :: more)).length := by
      simp only [writeItems, List.length_cons, List.length_append]
      omega
    have later := ih others fuel (by omega)
    rw [written, readItems_more (own fuel _ (by omega) (endsNumber_cons (.inl rfl) _)) rfl,
      readItems_append (layout.blank_lineBreak level), later]
    rfl

theorem reads_array {items : List Json} (exact : ∀ item ∈ items, IsExact item)
    (each : ∀ item ∈ items, layout.Reads (level + 1) item) : layout.Reads level (.array items) := by
  intro fuel rest enough _
  obtain ⟨fuel, rfl⟩ := Nat.exists_eq_add_one.mpr (Nat.zero_lt_of_lt enough)
  cases items with
  | nil => rfl
  | cons item more =>
    have written : layout.writeValue level (.array (item :: more)) ++ rest =
        '[' :: (layout.lineBreak (level + 1) ++ (layout.writeValue (level + 1) item ++
          (layout.writeItems (level + 1) more ++ (layout.lineBreak level ++ ']' :: rest)))) := by
      simp only [writeValue, List.cons_append, List.append_assoc, List.nil_append]
    have longer : (layout.writeValue (level + 1) item).length +
        (layout.writeItems (level + 1) more).length + 1 <
          (layout.writeValue level (.array (item :: more))).length := by
      simp only [writeValue, List.length_cons, List.length_append, List.length_nil]
      omega
    have read := readItems_write each (layout.blank_lineBreak level) rest fuel (by omega)
    obtain ⟨c, others, start, solid, notEnd⟩ :=
      layout.exists_head (exact item List.mem_cons_self) (level + 1)
    have skipped := skipSpace_append (layout.blank_lineBreak (level + 1))
      (layout.writeValue (level + 1) item ++
        (layout.writeItems (level + 1) more ++ (layout.lineBreak level ++ ']' :: rest)))
    rw [start, List.cons_append] at read skipped
    rw [skipSpace_cons solid] at skipped
    rw [written, start, List.cons_append, readValue_array skipped notEnd, read]
    rfl

/-- The members of an object are read up to its closing brace. -/
theorem readMembers_write {member : String × Json} {more : List (String × Json)}
    (each : ∀ other ∈ member :: more, layout.Reads level other.2) {closing : List Char}
    (blank : IsBlank closing) (tail : List Char) (fuel : Nat)
    (enough : (layout.writeValue level member.2).length +
      (layout.writeMembers level (more.map named)).length + 1 < fuel) :
    readMembers fuel (writeString member.1 ++ ':' :: (layout.afterColon ++
      (layout.writeValue level member.2 ++ (layout.writeMembers level (more.map named) ++
        (closing ++ '\x7d' :: tail))))) = some ((member :: more).map named, tail) := by
  induction more generalizing member fuel with
  | nil =>
    obtain ⟨fuel, rfl⟩ := Nat.exists_eq_add_one.mpr (Nat.zero_lt_of_lt enough)
    have first := each member List.mem_cons_self fuel (closing ++ '\x7d' :: tail) (by omega)
      (endsNumber_append blank (endsNumber_cons (.inr (.inr rfl)) tail))
    rw [← readValue_append layout.blank_afterColon] at first
    simp only [List.map_nil, writeMembers, List.nil_append]
    exact readMembers_last first (skipSpace_append blank _)
  | cons next more ih =>
    obtain ⟨fuel, rfl⟩ := Nat.exists_eq_add_one.mpr (Nat.zero_lt_of_lt enough)
    obtain ⟨own, others⟩ := List.forall_mem_cons.mp each
    have written : layout.writeMembers level ((next :: more).map named) ++
        (closing ++ '\x7d' :: tail) =
          ',' :: (layout.lineBreak level ++ (writeString next.1 ++ ':' :: (layout.afterColon ++
            (layout.writeValue level next.2 ++ (layout.writeMembers level (more.map named) ++
              (closing ++ '\x7d' :: tail)))))) := by
      simp only [List.map_cons, named, writeMembers, Option.getD_some, List.cons_append,
        List.append_assoc]
    have longer : (layout.writeValue level next.2).length +
        (layout.writeMembers level (more.map named)).length <
          (layout.writeMembers level ((next :: more).map named)).length := by
      simp only [List.map_cons, named, writeMembers, List.length_cons, List.length_append]
      omega
    have later := ih others fuel (by omega)
    rw [written, readMembers_more ((readValue_append layout.blank_afterColon _ _).trans
      (own fuel _ (by omega) (endsNumber_cons (.inl rfl) _))) rfl,
      readMembers_append (layout.blank_lineBreak level), later]
    rfl

theorem reads_record {members : List (String × Json)}
    (each : ∀ member ∈ members, layout.Reads (level + 1) member.2) :
    layout.Reads level (record members) := by
  intro fuel rest enough _
  obtain ⟨fuel, rfl⟩ := Nat.exists_eq_add_one.mpr (Nat.zero_lt_of_lt enough)
  rw [record_eq] at *
  cases members with
  | nil => rfl
  | cons member more =>
    have written : layout.writeValue level (.object ((member :: more).map named)) ++ rest =
        '\x7b' :: (layout.lineBreak (level + 1) ++ (writeString member.1 ++ ':' ::
          (layout.afterColon ++ (layout.writeValue (level + 1) member.2 ++
            (layout.writeMembers (level + 1) (more.map named) ++
              (layout.lineBreak level ++ '\x7d' :: rest)))))) := by
      simp only [List.map_cons, named, writeValue, Option.getD_some, List.cons_append,
        List.append_assoc, List.nil_append]
    have longer : (layout.writeValue (level + 1) member.2).length +
        (layout.writeMembers (level + 1) (more.map named)).length + 1 <
          (layout.writeValue level (.object ((member :: more).map named))).length := by
      simp only [List.map_cons, named, writeValue, List.length_cons, List.length_append,
        List.length_nil]
      omega
    have read := readMembers_write each (layout.blank_lineBreak level) rest fuel (by omega)
    have solid : isSpace '"' = false := rfl
    rw [writeString_append] at read written
    rw [written, readValue_object, read]
    · rfl
    · rw [skipSpace_append (layout.blank_lineBreak _), skipSpace_cons solid]

theorem reads (layout : Layout) {json : Json} (exact : json.IsExact) (level : Nat) :
    layout.Reads level json := by
  induction exact generalizing level with
  | null => exact reads_null
  | bool b => exact reads_bool b
  | integer n => exact reads_integer n
  | text s => exact reads_text s
  | array each ih => exact reads_array each fun item member => ih item member (level + 1)
  | record each ih => exact reads_record fun member inside => ih member inside (level + 1)

/-- An exact value is read from any text that it is written as. -/
theorem read_write (layout : Layout) {json : Json} (exact : json.IsExact) :
    read (layout.write json) = some json := by
  have done := layout.reads exact 0 _ [] (Nat.lt_succ_self _) (fun _ member => nomatch member)
  rw [List.append_nil] at done
  rw [read, write, String.toList_ofList, done]
  rfl

end Layout

theorem read_write {json : Json} (exact : json.IsExact) : read json.write = some json := by
  rw [← Layout.write_pretty]
  exact Layout.pretty.read_write exact

end DocOptions.Json
