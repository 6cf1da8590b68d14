import DocOptions.Directive.Read
import DocOptions.Proofs.Directive.Spelling

/-! Lines of a key, options and parameters, with each text in any style that can write it and any
blanks between them. Such a line is read as what was written. -/

namespace DocOptions

open Text

/-- The blanks between the parts of a line. -/
structure Gap where
  chars : List Char
  nonempty : chars ≠ []
  blank : ∀ c ∈ chars, isBlank c = true

def Gap.space : Gap where
  chars := [' ']
  nonempty := List.cons_ne_nil _ _
  blank := List.all_eq_true.mp rfl

/-- An option or a parameter. -/
inductive Item
  | option (value : Spelling .head)
  | param (name : Spelling .head) (value : Spelling .value)

namespace Item

def source : Item → List Char
  | option value => value.source
  | param name value => name.source ++ '=' :: value.source

/-- How the item is read. -/
def chars : Item → List TokenChar
  | option value => value.chars
  | param name value => name.chars ++ ⟨'=', .bare⟩ :: value.chars

def option? : Item → Option String
  | option value => some value.text
  | param _ _ => none

def param? : Item → Option (String × String)
  | option _ => none
  | param name value => some (name.text, value.text)

def EndsInEscapedBlank : Item → Prop
  | option value => value.EndsInEscapedBlank
  | param _ value => value.EndsInEscapedBlank

variable (item : Item)

theorem scans : Scans none item.source item.chars none := by
  cases item with
  | option value => exact value.scans
  | param name value =>
    have separator : Cursor.classify none '=' = some (.bare, none) := rfl
    exact name.scans.append (.plain (by decide) separator value.scans)

theorem source_ne_nil : item.source ≠ [] := by
  cases item with
  | option value => exact value.source_ne_nil
  | param name value => exact List.append_ne_nil_of_left_ne_nil name.source_ne_nil _

theorem solidStart_source : SolidStart item.source := by
  cases item with
  | option value => exact value.solidStart_source
  | param name value =>
    intro c first
    rw [source, List.head?_append_of_ne_nil _ name.source_ne_nil] at first
    exact name.solidStart_source c first

theorem solidEnd_source (finish : ¬ item.EndsInEscapedBlank) : SolidEnd item.source := by
  cases item with
  | option value => exact value.solidEnd_source finish
  | param name value =>
    have last : SolidEnd (['='] ++ value.source) :=
      (value.solidEnd_source finish).append_of_ne_nil value.source_ne_nil
    exact last.append_of_ne_nil (List.cons_ne_nil _ _)

theorem split?_option (value : Spelling .head) (offset : Nat) :
    (⟨value.chars, offset⟩ : Token).split? = none := by
  rw [Token.split?, Token.separator?, List.findIdx?_eq_none_iff.mpr value.not_isSeparator,
    Option.map_none]

theorem split?_param (name : Spelling .head) (value : Spelling .value) (offset : Nat) :
    (⟨(param name value).chars, offset⟩ : Token).split? =
      some (⟨name.chars, offset⟩, ⟨value.chars, offset + name.chars.length + 1⟩) := by
  have separates : TokenChar.isSeparator ⟨'=', .bare⟩ = true := rfl
  have index : (param name value).chars.findIdx? TokenChar.isSeparator =
      some name.chars.length := by
    rw [chars, List.findIdx?_append, List.findIdx?_eq_none_iff.mpr name.not_isSeparator,
      List.findIdx?_cons, if_pos separates]
    simp
  rw [Token.split?, Token.separator?, index]
  simp [chars]

theorem optionOf?_chars (offset : Nat) :
    Directive.optionOf? ⟨item.chars, offset⟩ = item.option? := by
  cases item with
  | option value =>
    rw [chars, Directive.optionOf?, split?_option]
    exact congrArg some (value.unquoted offset)
  | param name value => rw [Directive.optionOf?, split?_param, option?]

theorem paramOf?_chars (offset : Nat) :
    Directive.paramOf? ⟨item.chars, offset⟩ =
      item.param?.map fun (name, value) => (trim name, value) := by
  cases item with
  | option value =>
    rw [chars, Directive.paramOf?, split?_option, param?, Option.map_none, Option.map_none]
  | param name value =>
    rw [Directive.paramOf?, split?_param, param?]
    simp only [Option.map_some, Spelling.unquoted]

/-- What is read off each token of an item is read off the tokens of all items. -/
theorem filterMap_of_chars {α : Type} {ofToken : Token → Option α} {ofItem : Item → Option α}
    (agree : ∀ item offset, ofToken ⟨item.chars, offset⟩ = ofItem item) {tokens : List Token}
    {items : List Item} (read : tokens.map Token.chars = items.map Item.chars) :
    tokens.filterMap ofToken = items.filterMap ofItem := by
  induction items generalizing tokens with
  | nil => rw [List.map_eq_nil_iff.mp read]; rfl
  | cons item rest ih =>
    obtain ⟨⟨chars, offset⟩, tokens, rfl, rfl, later⟩ := List.map_eq_cons_iff.mp read
    rw [List.filterMap_cons, List.filterMap_cons, agree, ih later]

end Item

/-- A key and items, with blanks before each item. -/
structure WrittenLine where
  key : String
  plain : ∀ c ∈ key.toList, IsPlain c
  parts : List (Gap × Item)

namespace WrittenLine

open Directive

variable (line : WrittenLine)

def source : List Char :=
  marker :: line.key.toList ++ line.parts.flatMap fun (gap, item) => gap.chars ++ item.source

def text : String :=
  String.ofList line.source

def items : List Item :=
  line.parts.map (·.2)

/-- The options, in order. -/
def options : List String :=
  line.items.filterMap Item.option?

/-- The names and values of the parameters, in order. -/
def params : List (String × String) :=
  line.items.filterMap Item.param?

def EndsInEscapedBlank : Prop :=
  ∃ last ∈ line.items.getLast?, last.EndsInEscapedBlank

theorem isPlain_marker : IsPlain marker := by decide

theorem isPlain_head : ∀ c ∈ marker :: line.key.toList, IsPlain c :=
  List.forall_mem_cons.mpr ⟨isPlain_marker, line.plain⟩

theorem solidStart_source : SolidStart line.source :=
  solidStart_cons isPlain_marker.1

theorem solidEnd_source (finish : ¬ line.EndsInEscapedBlank) : SolidEnd line.source := by
  rcases List.eq_nil_or_concat' line.parts with noParts | ⟨front, ⟨gap, last⟩, parts⟩
  · have head : line.source = marker :: line.key.toList := by simp [source, noParts]
    rw [head]
    exact fun c final => (line.isPlain_head c (List.mem_of_mem_getLast? final)).1
  · have whole : line.source = (marker :: line.key.toList ++ (front.flatMap fun (gap, item) =>
        gap.chars ++ item.source) ++ gap.chars) ++ last.source := by
      simp [source, parts]
    have lastItem : last ∈ line.items.getLast? := by simp [items, parts]
    rw [whole]
    exact (last.solidEnd_source fun escaped => finish ⟨last, lastItem, escaped⟩).append_of_ne_nil
      last.source_ne_nil

theorem chars_tokenize :
    (tokenize line.text).map Token.chars =
      bareChars (marker :: line.key.toList) :: line.items.map Item.chars := by
  have parts := Stretches.flatMap (fun part : Gap × Item => part.1.nonempty)
    (fun part => part.1.blank) (fun part => part.2.scans) (fun part => part.2.source_ne_nil)
    (fun part => part.2.solidStart_source) line.parts
  rw [items, List.map_map]
  exact Stretches.chars_tokenize (scans_bareChars line.isPlain_head) (List.cons_ne_nil _ _)
    (solidStart_cons isPlain_marker.1) parts

/-- What a line is read as. Only the names of its parameters are changed: they are trimmed. -/
theorem read_text (finish : ¬ line.EndsInEscapedBlank) :
    read line.text = .ok {
      key := line.key
      options := line.options
      params := .ofList (line.params.map fun (name, value) => (trim name, value)) } := by
  have trimmed : trim line.text = line.text := by
    rw [text, trim, String.toList_ofList,
      trimChars_eq_self line.solidStart_source (line.solidEnd_source finish)]
  have start : line.text.toList = marker :: line.source.tail := String.toList_ofList
  obtain ⟨⟨chars, offset⟩, others, tokens, rfl, written⟩ :=
    List.map_eq_cons_iff.mp line.chars_tokenize
  have key : textOf ((bareChars (marker :: line.key.toList)).drop 1) = line.key := by
    simp [textOf, bareChars, Function.comp_def]
  have options : others.filterMap optionOf? = line.options :=
    Item.filterMap_of_chars Item.optionOf?_chars written
  have params : others.filterMap paramOf? =
      line.params.map fun (name, value) => (trim name, value) := by
    rw [WrittenLine.params, List.map_filterMap]
    exact Item.filterMap_of_chars Item.paramOf?_chars written
  unfold Directive.read
  simp only [trimmed, start, if_true]
  rw [tokens, ofTokens, options, params]
  simp only [key]

/-- A line whose names are trimmed and that does not end in escaped white space is read as its key,
its options in order, and its parameters. The last value that is written for a name is the one that
counts. -/
theorem read_text_eq_written (trimmed : ∀ name ∈ line.params.map (·.1), trim name = name)
    (finish : ¬ line.EndsInEscapedBlank) :
    ∃ d, read line.text = .ok d ∧ d.key = line.key ∧ d.options = line.options ∧
      (∀ name, name ∈ d.params.keys ↔ name ∈ line.params.map (·.1)) ∧
      ∀ name, d.params.get? name =
        (line.params.filter (·.1 == name)).getLast?.map (·.2) := by
  have same : (line.params.map fun (name, value) => (trim name, value)) = line.params := by
    nth_rewrite 2 [← List.map_id line.params]
    apply List.map_congr_left
    intro param member
    exact Prod.ext (trimmed param.1 (List.mem_map_of_mem member)) rfl
  have last (name : String) : (TextMap.ofList line.params).get? name =
      (line.params.filter (·.1 == name)).getLast?.map (·.2) :=
    TextMap.get?_ofList line.params name
  refine ⟨_, line.read_text finish, rfl, rfl, ?_, ?_⟩
  · intro name
    rw [same, ← TextMap.contains_iff_mem_keys, TextMap.contains, last]
    simp
  · intro name
    rw [same, last]

/-- Each style, a repeated name, an empty name, and white space of several kinds. -/
def mixed : WrittenLine where
  key := "k=1"
  plain := isPlain_of_all (by decide +kernel)
  parts := [
    (.space, .option ⟨"@b", .bare, by decide +kernel⟩),
    (⟨['\t', ' '], by decide, List.all_eq_true.mp rfl⟩,
      .option ⟨"say \"it's\" \\", .quoted '"', by decide +kernel⟩),
    (.space, .option ⟨"n=1", .escaped, by decide +kernel⟩),
    (.space, .param ⟨"n", .bare, by decide +kernel⟩ ⟨"1=2", .bare, by decide +kernel⟩),
    (⟨['\u3000'], by decide, List.all_eq_true.mp rfl⟩,
      .param ⟨"n", .quoted '\'', by decide +kernel⟩ ⟨" \"", .escaped, by decide +kernel⟩),
    (.space, .param ⟨"", .quoted '"', by decide +kernel⟩ ⟨"it's", .quoted '\'', by decide +kernel⟩)]

theorem read_text_eq_written_mixed :
    let line := "@k=1 @b\t \"say \\\"it's\\\" \\\\\" \\n\\=\\1 n=1=2\u3000'n'=\\ \\\" \"\"='it\\'s'"
    ∃ d, read line = .ok d ∧
      d.key = "k=1" ∧ d.options = ["@b", "say \"it's\" \\", "n=1"] ∧
      d.params.get? "n" = some " \"" ∧ d.params.get? "" = some "it's" ∧
      d.params.get? "m" = none := by
  have finish : ¬ mixed.EndsInEscapedBlank := by
    rintro ⟨last, ⟨⟩, style, -⟩
    cases style
  obtain ⟨d, done, key, options, -, params⟩ := mixed.read_text_eq_written (by decide +kernel) finish
  refine ⟨d, ?_, key, ?_, ?_, ?_, ?_⟩
  · rw [← done]
    exact congrArg read (by decide +kernel)
  · rw [options]
    decide +kernel
  · rw [params]
    decide +kernel
  · rw [params]
    decide +kernel
  · rw [params]
    decide +kernel

end WrittenLine
end DocOptions
