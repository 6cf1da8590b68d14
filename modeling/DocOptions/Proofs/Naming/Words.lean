import DocOptions.Naming.Format
import DocOptions.Proofs.Naming.Delimited
import DocOptions.Proofs.Text.Changes
import DocOptions.Proofs.Text.Pieces

/-! The words of a name in the styles without an ignored byte. Where words end does not depend on
the delimiter or on the letter case, so a name in one style is the name in another one with other
delimiters and letters, and without its delimiters it is the declared name without separators. -/

namespace DocOptions.Naming

open Text

/-- Whether a byte belongs to a word: it is neither a space nor a separator. -/
def isWordByte (b : UInt8) : Bool :=
  b != spaceByte && b != 0x5F && b != 0x2D

theorem isWordByte_iff {b : UInt8} :
    isWordByte b = true ↔ b.toNat ≠ 32 ∧ b.toNat ≠ 95 ∧ b.toNat ≠ 45 := by
  simp only [isWordByte, Bool.and_eq_true, bne_iff_ne, ne_eq, ← UInt8.toNat_inj, spaceByte,
    UInt8.reduceToNat, and_assoc]

theorem isWordByte_of_boundary {b : UInt8} {next : Option UInt8}
    (boundary : next.any (Style.isBoundary b) = true) : isWordByte b = true := by
  rw [isWordByte_iff]
  simp only [Style.any_isBoundary, Bool.or_eq_true, Bool.and_eq_true, isUpperByte_iff,
    isLowerByte_iff, isDigitByte_iff] at boundary
  omega

theorem isWordByte_eq {b : UInt8} (solid : b ≠ spaceByte) :
    isWordByte b = !(b == 0x5F || b == 0x2D) := by
  rw [isWordByte, bne_iff_ne.mpr solid, Bool.true_and, Bool.not_or]
  rfl

theorem toNat_inCase (screaming : Bool) (b : UInt8) :
    (inCase screaming b).toNat =
      if screaming = true ∧ isLowerByte b = true then b.toNat - 32
      else if screaming = false ∧ isUpperByte b = true then b.toNat + 32 else b.toNat := by
  cases screaming with
  | true =>
    cases lower : isLowerByte b with
    | true =>
      have bounds := isLowerByte_iff.mp lower
      have small : (0x20 : UInt8) ≤ b := UInt8.le_iff_toNat_le.mpr (show 32 ≤ b.toNat by omega)
      simp [inCase, lower, UInt8.toNat_sub_of_le _ _ small]
    | false => simp [inCase, lower]
  | false =>
    cases upper : isUpperByte b with
    | true =>
      have bounds := isUpperByte_iff.mp upper
      have sum : (b + 0x20).toNat = (b.toNat + 32) % 256 := UInt8.toNat_add b 0x20
      have inside : (b.toNat + 32) % 256 = b.toNat + 32 := by omega
      simp [inCase, upper, sum, inside]
    | false => simp [inCase, upper]

/-- Letters stay letters in another case, so no byte of a word becomes a separator. -/
theorem isWordByte_inCase {b : UInt8} (screaming : Bool) (word : isWordByte b = true) :
    isWordByte (inCase screaming b) = true := by
  rw [isWordByte_iff] at word ⊢
  rw [toNat_inCase]
  split
  · next lower =>
    have bounds := isLowerByte_iff.mp lower.2
    omega
  · split
    · next upper =>
      have bounds := isUpperByte_iff.mp upper.2
      omega
    · exact word

theorem inCase_ne_separator {b separator : UInt8}
    (isSeparator : separator = 0x5F ∨ separator = 0x2D) (screaming : Bool)
    (word : isWordByte b = true) : inCase screaming b ≠ separator := by
  rintro rfl
  have kept := isWordByte_iff.mp (isWordByte_inCase screaming word)
  rcases isSeparator with same | same
  · exact kept.2.1 (congrArg UInt8.toNat same)
  · exact kept.2.2 (congrArg UInt8.toNat same)

namespace Style

/-- A style that ignores no byte. -/
def plain (delimiter : UInt8) (screaming : Bool) : Style :=
  ⟨delimiter, none, screaming⟩

variable {old new delimiter : UInt8} {screaming screaming' : Bool} {change : UInt8 → UInt8}
  {previous next : Option UInt8} {b : UInt8} {spaces : Option Nat}

theorem recase_plain : (plain delimiter screaming).recase b = inCase screaming b :=
  @recase_ofBytes delimiter 0 screaming b

theorem write_plain :
    (plain delimiter screaming).write previous b next =
      if next.any (isBoundary b) then
        (if isUpperByte b && next.any isLowerByte && previous.any isUpperByte then
          [delimiter] else []) ++ [inCase screaming b] ++
        (if isLowerByte b || isDigitByte b then [delimiter] else [])
      else if b == 0x5F || b == 0x2D then [delimiter] else [inCase screaming b] := by
  have never : (plain delimiter screaming).afterIgnored previous = false := rfl
  have noIgnored : ((plain delimiter screaming).ignored != some b) = true := rfl
  rw [write_eq, recase_plain, never, noIgnored, Bool.not_false, Bool.and_true, Bool.and_true]
  rfl

/-- Two styles write the same, up to a change of bytes that takes the delimiter and the letters of
one to those of the other. -/
theorem map_write_plain (delimiters : change old = new)
    (letters : ∀ b, isWordByte b = true → change (inCase screaming b) = inCase screaming' b)
    (solid : b ≠ spaceByte) :
    ((plain old screaming).write previous b next).map change =
      (plain new screaming').write previous b next := by
  rw [write_plain, write_plain]
  split
  · rename_i boundary
    simp only [List.map_append, List.map_singleton, apply_ite (List.map change), List.map_nil,
      delimiters, letters b (isWordByte_of_boundary boundary)]
  · split
    · rw [List.map_singleton, delimiters]
    · rename_i other
      have word : isWordByte b = true := by
        rw [isWordByte_eq solid, Bool.eq_false_iff.mpr other]
        rfl
      rw [List.map_singleton, letters b word]

theorem map_writeAll_plain (delimiters : change old = new)
    (letters : ∀ b, isWordByte b = true → change (inCase screaming b) = inCase screaming' b)
    (spaces : Option Nat) (previous : Option UInt8) (bytes : List UInt8) :
    ((plain old screaming).writeAll spaces previous bytes).map change =
      (plain new screaming').writeAll spaces previous bytes := by
  induction bytes generalizing spaces previous with
  | nil => rfl
  | cons b rest ih =>
    by_cases blank : b = spaceByte
    · subst blank
      rw [writeAll_space, writeAll_space]
      exact ih _ _
    · have held : change (plain old screaming).space = (plain new screaming').space := delimiters
      rw [writeAll_solid blank, writeAll_solid blank, List.map_append, List.map_append,
        List.map_replicate, held, map_write_plain delimiters letters blank, ih]

/-- What is written for a byte of a word is the byte, with delimiters around it at most; what is
written for a separator is a delimiter. -/
theorem filter_write_plain
    (letters : ∀ b, isWordByte b = true → inCase screaming b ≠ delimiter)
    (solid : b ≠ spaceByte) :
    ((plain delimiter screaming).write previous b next).filter (· != delimiter) =
      ([b].filter isWordByte).map (inCase screaming) := by
  have delimiters : [delimiter].filter (· != delimiter) = [] :=
    List.filter_cons_of_neg (by simp)
  rw [write_plain]
  split
  · rename_i boundary
    have word := isWordByte_of_boundary boundary
    have own : [inCase screaming b].filter (· != delimiter) = [inCase screaming b] :=
      List.filter_cons_of_pos (by simpa using letters b word)
    simp only [List.filter_append, apply_ite (List.filter _), delimiters, List.filter_nil, ite_self,
      own, List.nil_append, List.append_nil, List.filter_cons_of_pos word, List.map_singleton]
  · split
    · rename_i separator
      have noWord : ¬ isWordByte b = true := by
        rw [isWordByte_eq solid, separator]
        decide
      rw [delimiters, List.filter_cons_of_neg noWord]
      rfl
    · rename_i other
      have word : isWordByte b = true := by
        rw [isWordByte_eq solid, Bool.eq_false_iff.mpr other]
        rfl
      have own : [inCase screaming b].filter (· != delimiter) = [inCase screaming b] :=
        List.filter_cons_of_pos (by simpa using letters b word)
      rw [own, List.filter_cons_of_pos word]
      rfl

theorem filter_writeAll_plain
    (letters : ∀ b, isWordByte b = true → inCase screaming b ≠ delimiter) (spaces : Option Nat)
    (previous : Option UInt8) (bytes : List UInt8) :
    ((plain delimiter screaming).writeAll spaces previous bytes).filter (· != delimiter) =
      (bytes.filter isWordByte).map (inCase screaming) := by
  induction bytes generalizing spaces previous with
  | nil => rfl
  | cons b rest ih =>
    rw [← List.singleton_append, List.filter_append, List.map_append, List.singleton_append]
    by_cases blank : b = spaceByte
    · subst blank
      rw [writeAll_space, ih]
      rfl
    · have held (count : Nat) :
          (List.replicate count (plain delimiter screaming).space).filter (· != delimiter) =
            [] := by
        refine List.filter_eq_nil_iff.mpr fun written inside => ?_
        rw [List.eq_of_mem_replicate inside]
        exact Bool.eq_false_iff.mp (bne_self_eq_false delimiter)
      rw [writeAll_solid blank, List.filter_append, List.filter_append, held, List.nil_append,
        filter_write_plain letters blank, ih]

end Style

theorem toUpper_of_wide {c : Char} (wide : 0x80 ≤ c.toNat) : c.toUpper = c := by
  have noLower : ¬ (97 ≤ c.val ∧ c.val ≤ 122) := by
    rw [UInt32.le_iff_toNat_le, UInt32.le_iff_toNat_le]
    change ¬ (97 ≤ c.toNat ∧ c.toNat ≤ 122)
    omega
  exact dif_neg noLower

theorem toLower_of_wide {c : Char} (wide : 0x80 ≤ c.toNat) : c.toLower = c := by
  have noUpper : ¬ (65 ≤ c.val ∧ c.val ≤ 90) := by
    rw [UInt32.le_iff_toNat_le, UInt32.le_iff_toNat_le]
    change ¬ (65 ≤ c.toNat ∧ c.toNat ≤ 90)
    omega
  exact dif_neg noUpper

theorem agree_toUpper : Agree (some ∘ Char.toUpper) (some ∘ inCase true) where
  ascii := by decide +kernel
  wideChar _ wide := congrArg some (toUpper_of_wide wide)
  wideByte b wide := by
    rw [Function.comp_apply, inCase, if_pos rfl, (of_wide wide).2.1]
    rfl

theorem agree_toLower : Agree (some ∘ Char.toLower) (some ∘ inCase false) where
  ascii := by decide +kernel
  wideChar _ wide := congrArg some (toLower_of_wide wide)
  wideByte b wide := by
    rw [Function.comp_apply, inCase, if_neg Bool.false_ne_true, (of_wide wide).1]
    rfl

namespace Style

variable {old new delimiter : UInt8} {screaming screaming' : Bool}

theorem apply_map {ofChar : Char → Char} {ofByte : UInt8 → UInt8}
    (agree : Agree (some ∘ ofChar) (some ∘ ofByte)) (delimiters : ofByte old = new)
    (letters : ∀ b, isWordByte b = true → ofByte (inCase screaming b) = inCase screaming' b)
    (oldAscii : old.toNat < 0x80) (newAscii : new.toNat < 0x80) (name : String) :
    (plain new screaming').apply name = ((plain old screaming).apply name).map ofChar := by
  have oldBytes := (@apply_spec (plain old screaming) oldAscii name).1
  have newBytes := (@apply_spec (plain new screaming') newAscii name).1
  refine String.toList_inj.mp (chars_inj ?_)
  change utf8Bytes _ = utf8Bytes _
  rw [agree.map, newBytes, oldBytes, map_writeAll_plain delimiters letters]

/-- With another delimiter, the name has that in place of the one it had. -/
theorem apply_redelimited (separator : old = 0x5F ∨ old = 0x2D) (ascii : new.toNat < 0x80)
    (name : String) :
    (plain new screaming).apply name = ((plain old screaming).apply name).map
      fun c => if c = .ofNat old.toNat then .ofNat new.toNat else c := by
  have oldAscii : old.toNat < 0x80 := by
    rcases separator with rfl | rfl <;> decide
  have letters (b : UInt8) (word : isWordByte b = true) :
      (if inCase screaming b = old then new else inCase screaming b) = inCase screaming b :=
    if_neg (inCase_ne_separator separator screaming word)
  exact apply_map (Agree.replace oldAscii ascii) (if_pos rfl) letters oldAscii ascii name

theorem inCase_inCase {b : UInt8} : inCase true (inCase false b) = inCase true b := by
  refine UInt8.toNat_inj.mp ?_
  simp only [toNat_inCase, isLowerByte_iff, isUpperByte_iff]
  grind

/-- In uppercase, the name is that in lowercase with its letters in uppercase. -/
theorem apply_screaming (ascii : delimiter.toNat < 0x80)
    (noLetter : inCase true delimiter = delimiter) (name : String) :
    (plain delimiter true).apply name = ((plain delimiter false).apply name).map Char.toUpper :=
  apply_map agree_toUpper noLetter (fun _ _ => inCase_inCase) ascii ascii name

/-- The characters of words are those whose bytes are. -/
theorem filter_isWordByte (chars : List Char) :
    (chars.filter fun c => c != ' ' && c != '_' && c != '-').flatMap String.utf8EncodeChar =
      (chars.flatMap String.utf8EncodeChar).filter isWordByte := by
  have hyphens : (chars.filter (· != '-')).flatMap String.utf8EncodeChar =
      (chars.flatMap String.utf8EncodeChar).filter (· != 0x2D) :=
    Agree.filter 0x2D (by decide) chars
  have lowLines : ((chars.filter (· != '-')).filter (· != '_')).flatMap String.utf8EncodeChar =
      ((chars.filter (· != '-')).flatMap String.utf8EncodeChar).filter (· != 0x5F) :=
    Agree.filter 0x5F (by decide) _
  calc
    _ = (((chars.filter (· != '-')).filter (· != '_')).filter (· != ' ')).flatMap
          String.utf8EncodeChar := by rw [List.filter_filter, List.filter_filter]
    _ = (((chars.filter (· != '-')).filter (· != '_')).flatMap String.utf8EncodeChar).filter
          (· != spaceByte) := Agree.filter spaceByte (by decide) _
    _ = _ := by
      rw [lowLines, hyphens, List.filter_filter, List.filter_filter]
      rfl

/-- Without its delimiters, a name in lowercase is the declared one without separators. -/
theorem filter_apply (separator : delimiter = 0x5F ∨ delimiter = 0x2D) (name : String) :
    ((plain delimiter false).apply name).toList.filter (· != .ofNat delimiter.toNat) =
      (name.toList.filter fun c => c != ' ' && c != '_' && c != '-').map Char.toLower := by
  have ascii : delimiter.toNat < 0x80 := by
    rcases separator with rfl | rfl <;> decide
  have letters (b : UInt8) (word : isWordByte b = true) : inCase false b ≠ delimiter :=
    inCase_ne_separator separator false word
  have bytes := (@apply_spec (plain delimiter false) ascii name).1
  have lowered := agree_toLower.filterMap
    (name.toList.filter fun c => c != ' ' && c != '_' && c != '-')
  rw [List.filterMap_eq_map, List.filterMap_eq_map, filter_isWordByte] at lowered
  refine chars_inj ?_
  rw [Agree.filter _ ascii, lowered, ← filter_writeAll_plain letters none none]
  exact congrArg (List.filter _) bytes

end Style

theorem toUpper_beq {mark : Char} (separator : mark = '_' ∨ mark = '-') (c : Char) :
    (c.toUpper == mark) = (c == mark) := by
  by_cases ascii : c.toNat < 0x80
  · have each : ∀ n < 0x80, ((Char.ofNat n).toUpper == mark) = (Char.ofNat n == mark) := by
      rcases separator with rfl | rfl <;> decide +kernel
    have own := each c.toNat ascii
    rwa [Char.ofNat_toNat] at own
  · rw [toUpper_of_wide (Nat.le_of_not_lt ascii)]

/-- The words of the name with hyphens are those of the name with low lines. -/
theorem cut_kebab (name : String) :
    cut (Style.kebab.apply name) '-' = cut (Style.snake.apply name) '_' := by
  have kebab : Style.kebab.apply name =
      (Style.snake.apply name).map (fun c => if c = '_' then '-' else c) :=
    @Style.apply_redelimited 0x5F 0x2D false (.inl rfl) (by decide) name
  have snake : Style.snake.apply name =
      (Style.kebab.apply name).map (fun c => if c = '-' then '_' else c) :=
    @Style.apply_redelimited 0x2D 0x5F false (.inr rfl) (by decide) name
  have noHyphen : ∀ c ∈ (Style.snake.apply name).toList, c ≠ '-' := by
    rw [snake, String.toList_map]
    refine List.forall_mem_map.mpr fun c _ => ?_
    split
    · decide
    · assumption
  have same : ∀ c ∈ (Style.snake.apply name).toList,
      ((if c = '_' then '-' else c) == '-') = (c == '_') := fun c inside => by
    split
    · next lowLine => rw [lowLine]; rfl
    · next other => rw [beq_eq_false_iff_ne.mpr other, beq_eq_false_iff_ne.mpr (noHyphen c inside)]
  rw [kebab, cut_map same]
  refine (List.map_congr_left fun word inside => String.toList_inj.mp ?_).trans (List.map_id _)
  rw [String.toList_map]
  exact (List.map_congr_left fun c found => if_neg (ne_of_mem_cut inside found)).trans
    (List.map_id _)

/-- The delimited names of one declared name have the same words, with another delimiter between
them or with their letters in uppercase. Nothing is lost of the declared name but its separators. On
the wire each of the four formats gives the name in its own style. -/
theorem delimited_styles_agree (name : String) :
    (∀ delimiter : UInt8, delimiter.toNat < 0x80 →
      Style.apply ⟨delimiter, none, false⟩ name = (Style.snake.apply name).map
        fun c => if c = '_' then .ofNat delimiter.toNat else c) ∧
    Style.kebab.apply name = (Style.snake.apply name).map (fun c => if c = '_' then '-' else c) ∧
    Style.screamingSnake.apply name = (Style.snake.apply name).map Char.toUpper ∧
    Style.screamingKebab.apply name = (Style.kebab.apply name).map Char.toUpper ∧
    (Style.kebab.apply name).toList.filter (· != '-') =
      (name.toList.filter fun c => c != ' ' && c != '_' && c != '-').map Char.toLower ∧
    (wireName "" name "kebab" = Style.kebab.apply name ∧
      wireName "" name "screamingKebab" = Style.screamingKebab.apply name ∧
      wireName "" name "snake" = Style.snake.apply name ∧
      wireName "" name "screamingSnake" = Style.screamingSnake.apply name) ∧
    cut (wireName "" name "kebab") '-' = cut (wireName "" name "snake") '_' ∧
    cut (wireName "" name "screamingKebab") '-' = cut (wireName "" name "screamingSnake") '_' ∧
    cut (wireName "" name "screamingSnake") '_' =
      (cut (wireName "" name "snake") '_').map (String.map Char.toUpper) := by
  have redelimited (delimiter : UInt8) (ascii : delimiter.toNat < 0x80) :
      Style.apply ⟨delimiter, none, false⟩ name = (Style.snake.apply name).map
        fun c => if c = '_' then .ofNat delimiter.toNat else c :=
    @Style.apply_redelimited 0x5F delimiter false (.inl rfl) ascii name
  have snakeUpper : Style.screamingSnake.apply name = (Style.snake.apply name).map Char.toUpper :=
    @Style.apply_screaming 0x5F (by decide) (by decide) name
  have kebabUpper : Style.screamingKebab.apply name = (Style.kebab.apply name).map Char.toUpper :=
    @Style.apply_screaming 0x2D (by decide) (by decide) name
  have snakeWords : cut (Style.screamingSnake.apply name) '_' =
      (cut (Style.snake.apply name) '_').map (String.map Char.toUpper) :=
    snakeUpper ▸ cut_map fun c _ => toUpper_beq (.inl rfl) c
  have kebabWords : cut (Style.screamingKebab.apply name) '-' =
      (cut (Style.kebab.apply name) '-').map (String.map Char.toUpper) :=
    kebabUpper ▸ cut_map fun c _ => toUpper_beq (.inr rfl) c
  refine ⟨redelimited, redelimited 0x2D (by decide), snakeUpper, kebabUpper,
    Style.filter_apply (.inr rfl) name, ⟨rfl, rfl, rfl, rfl⟩, cut_kebab name, ?_, snakeWords⟩
  exact kebabWords.trans ((congrArg _ (cut_kebab name)).trans snakeWords.symm)

theorem delimited_styles_agree_dotted :
    (0x2E : UInt8).toNat < 0x80 ∧
      Style.apply ⟨0x2E, none, false⟩ "userID from form" = "user.id.from.form" :=
  ⟨by decide, ((delimited_styles_agree "userID from form").1 0x2E (by decide)).trans
    (by decide +kernel)⟩

end DocOptions.Naming
