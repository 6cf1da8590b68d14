import DocOptions.Proofs.Directive.WrittenLine
import DocOptions.Proofs.Plugin.Http.Visits
import DocOptions.Proofs.Schema.InlineComposites

/-! The line `@http-name [value] [omitempty] [format=F]` above a parameter or a result. The value is
read as the first option, whichever option that is, so where no value is written the flag is both:
it sets the flag and is the name on the wire. -/

namespace DocOptions.Http

open Text

/-- What a directive gives a name: its first option, whether the flag is among all its options, and
the text of its parameter. -/
theorem NameOptions.ofRecord_element (d : Directive) :
    ofRecord (NameOptions.table.element d) =
      ⟨d.value, d.hasOption "omitempty", (d.params.get? "format").getD ""⟩ := by
  have omitEmpty : (field "omitempty").name = "omitempty" := by decide +kernel
  have format : (((field "format").oneOf formats).defaultValue defaultFormat).name = "format" := by
    decide +kernel
  rw [NameOptions.table, Table.element, Table.element, Table.element, omitEmpty, format, ofRecord]
  congr 1
  · rw [Leaf.elementSlot, Leaf.reading?, Directive.value]
    cases d.options <;> rfl
  · rw [Leaf.elementSlot, Leaf.reading?, Directive.hasOption]
    by_cases set : "omitempty" ∈ d.options <;> simp [set, Leaf.zero]
  · rw [Leaf.elementSlot, Leaf.reading?]
    cases d.params.get? "format" <;> rfl

section

variable {shape : Shape} (schema : Schema shape) (rules : RuleRegistry)

/-- The name that is decoded from the comments of a declaration is that of the first source with its
key. -/
theorem get_name_reading
    (ref : CompositeRef (field "name") .inline "NameOpt" NameOptions.table schema.table)
    {key : String} (own : ref.key backend.scope = key) {name : String} {comments : List RawComment}
    {source : Occurrence}
    (found : (DocComments.ofRaw name comments).index.get? key = some source) :
    ref.get (backend.reading rules schema name comments).value =
      NameOptions.table.element source.directive := by
  subst own
  obtain ⟨slot, -⟩ := ref.bind_place rules (DocComments.ofRaw name comments).index backend.scope
    schema.name shape.zero
  have outcome := NameOptions.table.inlineOutcome rules (DocComments.ofRaw name comments).index
    (field "name") (ref.scope backend.scope) (ref.root schema.name) (ref.get shape.zero)
  exact slot.trans (outcome.element source found).1

variable {rules}

theorem exists_run_visit {α : Type} {visit : Visit} (accepted : visit.Accepted rules) (value : α) :
    ∃ loaded, (backend.visiting rules [visit] value).run = .ok loaded ∧ loaded.value = value :=
  ⟨_, (backend.run_visiting_ok_iff scope_ne).mpr ⟨List.forall_mem_singleton.mpr accepted, rfl⟩, rfl⟩

end

/-- A line that names something on the wire. Each part after the key can be missing. -/
structure NameLine where
  value : Option (Gap × Spelling .head)
  omitEmpty : Option Gap
  format : Option (Gap × Spelling .value)

namespace NameLine

def flag : Spelling .head := ⟨"omitempty", .bare, by decide +kernel⟩

def formatName : Spelling .head := ⟨"format", .bare, by decide +kernel⟩

variable (line : NameLine)

def written : WrittenLine where
  key := "http-name"
  plain := isPlain_of_all (by decide +kernel)
  parts :=
    (line.value.map fun (gap, value) => (gap, Item.option value)).toList ++
      (line.omitEmpty.map fun gap => (gap, Item.option flag)).toList ++
      (line.format.map fun (gap, format) => (gap, Item.param formatName format)).toList

/-- The options that the parts of the line stand for. -/
def meaning : NameOptions where
  value := (line.value.map (·.2.text)).getD ""
  omitEmpty := line.omitEmpty.isSome
  format := (line.format.map (·.2.text)).getD ""

/-- The flag stands where a value would. -/
def FlagFirst : Prop :=
  line.value = none ∧ line.omitEmpty ≠ none

/-- The line is above a declaration, and no line before it has its key. -/
def IsAbove (declared : Variable) : Prop :=
  ∃ before comment after, declared.comments = before ++ comment :: after ∧
    comment.IsMarked declared.name ∧
    trim (String.ofList (uncomment comment.text)) = line.written.text ∧
    ∀ other ∈ before, ∀ source ∈ other.occurrence? declared.name, source.key ≠ "http-name"

/-- What the line makes of a declared name. -/
structure Names (declared : String) (name : NameOptions) (wire : String) : Prop where
  meant : ¬ line.FlagFirst → name = line.meaning
  flagAsValue : line.FlagFirst → name = { line.meaning with value := "omitempty" }
  wire : wire = Naming.wireName name.value declared name.format

theorem options_written :
    line.written.options =
      (line.value.map (·.2.text)).toList ++ (line.omitEmpty.map fun _ => "omitempty").toList := by
  obtain ⟨value, omitEmpty, format⟩ := line
  cases value <;> cases omitEmpty <;> cases format <;> rfl

theorem params_written :
    line.written.params = (line.format.map fun (_, format) => ("format", format.text)).toList := by
  obtain ⟨value, omitEmpty, format⟩ := line
  cases value <;> cases omitEmpty <;> cases format <;> rfl

variable {line}

theorem headD_options_written (meant : ¬ line.FlagFirst) :
    line.written.options.headD "" = line.meaning.value := by
  rw [options_written, meaning]
  cases value : line.value with
  | some part => rfl
  | none =>
    have noFlag : line.omitEmpty = none := not_not.mp fun flagged => meant ⟨value, flagged⟩
    rw [noFlag]
    rfl

theorem headD_options_written_of_flagFirst (first : line.FlagFirst) :
    line.written.options.headD "" = "omitempty" := by
  obtain ⟨valueless, flagged⟩ := first
  obtain ⟨gap, set⟩ := Option.ne_none_iff_exists'.mp flagged
  rw [options_written, valueless, set]
  rfl

/-- The flag is found behind any value, and only a value that is the same text passes for it. -/
theorem contains_options_written (apart : ∀ part ∈ line.value, part.2.text ≠ "omitempty") :
    line.written.options.contains "omitempty" = line.meaning.omitEmpty := by
  have noFlag : "omitempty" ∉ (line.value.map (·.2.text)).toList := by
    rw [Option.mem_toList, Option.map_eq_some_iff]
    rintro ⟨part, written, same⟩
    exact apart part written same
  rw [options_written, List.contains_append, List.contains_eq_mem, decide_eq_false noFlag,
    Bool.false_or, meaning]
  cases line.omitEmpty <;> rfl

/-- What the line is read as has the options of the line and at most a format. -/
theorem exists_read_written (finish : ¬ line.written.EndsInEscapedBlank) :
    ∃ d, Directive.read line.written.text = .ok d ∧ d.key = "http-name" ∧
      d.options = line.written.options ∧ d.params.get? "format" = line.format.map (·.2.text) := by
  have trimmedName : trim "format" = "format" := by decide +kernel
  have trimmed : ∀ name ∈ line.written.params.map (·.1), trim name = name := by
    rw [params_written]
    cases line.format with
    | none => exact List.forall_mem_nil _
    | some => exact List.forall_mem_singleton.mpr trimmedName
  obtain ⟨d, done, key, options, -, params⟩ := line.written.read_text_eq_written trimmed finish
  refine ⟨d, done, key, options, ?_⟩
  rw [params, params_written]
  cases line.format <;> rfl

/-- The first source with the key of the line is the line. -/
theorem IsAbove.exists_source {declared : Variable} (above : line.IsAbove declared)
    (finish : ¬ line.written.EndsInEscapedBlank) :
    ∃ source, (DocComments.ofRaw declared.name declared.comments).index.get? "http-name" =
        some source ∧
      source.directive.options = line.written.options ∧
      source.directive.params.get? "format" = line.format.map (·.2.text) := by
  obtain ⟨before, comment, after, comments, marked, text, unread⟩ := above
  obtain ⟨d, done, key, options, format⟩ := exists_read_written finish
  obtain ⟨source, found, held⟩ := RawComment.exists_holds marked
  have same : d = source.directive := by
    rw [← text, Directive.read_trim, held.read] at done
    exact (Except.ok.inj done).symm
  subst same
  refine ⟨source, ?_, options, format⟩
  have passed : (before.filterMap (RawComment.occurrence? declared.name)).find?
      (·.key == "http-name") = .none := by
    rw [List.find?_eq_none]
    intro earlier member
    obtain ⟨other, inside, held⟩ := List.mem_filterMap.mp member
    simpa using unread other inside earlier held
  rw [DirectiveIndex.get?_eq, DocComments.entries_ofRaw, comments, List.filterMap_append,
    List.filterMap_cons_some found, List.find?_append, passed, Option.none_or]
  exact List.find?_cons_of_pos (beq_iff_eq.mpr key)

variable {rules : RuleRegistry}

theorem names_of_element (apart : ∀ part ∈ line.value, part.2.text ≠ "omitempty")
    {d : Directive} (options : d.options = line.written.options)
    (format : d.params.get? "format" = line.format.map (·.2.text)) {declared : String}
    {name : NameOptions} (own : name = .ofRecord (NameOptions.table.element d)) :
    line.Names declared name (Naming.wireName name.value declared name.format) := by
  have read : name = { line.meaning with value := line.written.options.headD "" } := by
    rw [own, NameOptions.ofRecord_element, Directive.value, Directive.hasOption, options, format,
      contains_options_written apart]
    rfl
  constructor
  case meant =>
    intro meant
    exact read.trans (by rw [headD_options_written meant])
  case flagAsValue =>
    intro first
    exact read.trans (by rw [headD_options_written_of_flagFirst first])
  case wire => rfl

/-- What a parameter and a result take from the line above them. Both are named by the meaning of
the line, unless the flag is written and no value: then the flag is the value too. -/
theorem names_of_isAbove (registered : HasRules rules) (finish : ¬ line.written.EndsInEscapedBlank)
    (apart : ∀ part ∈ line.value, part.2.text ≠ "omitempty") {declared : Variable}
    (above : line.IsAbove declared) (path : String) :
    (∃ loaded, (loadParam rules path declared).run = .ok loaded ∧
      line.Names declared.name loaded.value.options.name loaded.value.name) ∧
    ∃ loaded, (loadResult rules path declared).run = .ok loaded ∧
      line.Names declared.name loaded.value.options.name loaded.value.name := by
  obtain ⟨source, found, options, format⟩ := above.exists_source finish
  constructor
  · have slot := get_name_reading ParamOptions.schema rules .here (by decide +kernel) found
    have visited : (paramVisit path declared).Accepted rules := verify_paramOptions registered
    obtain ⟨loaded, done, value⟩ := exists_run_visit visited (paramConfig rules declared)
    rw [← loadParam_eq] at done
    refine ⟨loaded, done, ?_⟩
    rw [value, paramConfig]
    -- Only the name that the record holds matters here, not how it was decoded.
    generalize (backend.reading rules ParamOptions.schema _ _).value = record at slot ⊢
    exact names_of_element apart options format (congrArg NameOptions.ofRecord slot)
  · have slot := get_name_reading ResultOptions.schema rules .here (by decide +kernel) found
    have visited : (resultVisit path declared).Accepted rules := verify_resultOptions registered
    obtain ⟨loaded, done, value⟩ := exists_run_visit visited (resultConfig rules declared)
    rw [← loadResult_eq] at done
    refine ⟨loaded, done, ?_⟩
    rw [value, resultConfig]
    generalize (backend.reading rules ResultOptions.schema _ _).value = record at slot ⊢
    exact names_of_element apart options format (congrArg NameOptions.ofRecord slot)

/-- A value in quotes that holds the flag, below a line of another key and above a second name. -/
theorem names_of_isAbove_quoted_value :
    let declared : Variable := ⟨"user_id", "", false, false, [⟨"// @http-type query", none⟩,
      ⟨"/// @http-name 'a omitempty=' \t omitempty  format=kebab ", none⟩,
      ⟨"// @http-name id", none⟩]⟩
    (∃ loaded, (loadParam .standard "Users.Get" declared).run = .ok loaded ∧
      loaded.value.options.name = ⟨"a omitempty=", true, "kebab"⟩ ∧
      loaded.value.name = "a omitempty=") ∧
    ∃ loaded, (loadResult .standard "Users.Get" declared).run = .ok loaded ∧
      loaded.value.options.name = ⟨"a omitempty=", true, "kebab"⟩ ∧
      loaded.value.name = "a omitempty=" := by
  intro declared
  let line : NameLine :=
    { value := some (.space, ⟨"a omitempty=", .quoted '\'', by decide +kernel⟩)
      omitEmpty := some ⟨[' ', '\t', ' '], by decide, List.all_eq_true.mp rfl⟩
      format := some (⟨[' ', ' '], by decide, List.all_eq_true.mp rfl⟩,
        ⟨"kebab", .bare, by decide +kernel⟩) }
  have registered : HasRules .standard := ⟨rfl, rfl⟩
  have finish : ¬ line.written.EndsInEscapedBlank := by
    rintro ⟨last, ⟨⟩, style, -⟩
    cases style
  have apart : ∀ part ∈ line.value, part.2.text ≠ "omitempty" := by
    rintro _ ⟨⟩
    decide
  have above : line.IsAbove declared := by
    refine ⟨[_], _, [_], rfl, by decide +kernel, by decide +kernel, ?_⟩
    rw [List.forall_mem_singleton]
    decide +kernel
  have meant : ¬ line.FlagFirst := fun first => nomatch first.1
  obtain ⟨⟨param, paramDone, paramNames⟩, result, resultDone, resultNames⟩ :=
    names_of_isAbove registered finish apart above "Users.Get"
  refine ⟨⟨param, paramDone, paramNames.meant meant, ?_⟩, result, resultDone,
    resultNames.meant meant, ?_⟩
  · rw [paramNames.wire, paramNames.meant meant]
    decide +kernel
  · rw [resultNames.wire, resultNames.meant meant]
    decide +kernel

/-- The flag alone names a parameter, where its line writes no value. -/
theorem names_of_isAbove_flag_alone :
    let line : NameLine := ⟨none, some .space, none⟩
    let declared : Variable :=
      ⟨"user_id", "", false, false, [⟨"// @http-name omitempty", none⟩]⟩
    line.IsAbove declared ∧ line.meaning = ⟨"", true, ""⟩ ∧
      Naming.wireName line.meaning.value declared.name line.meaning.format = "userId" ∧
      ∃ loaded, (loadParam .standard "Users.Get" declared).run = .ok loaded ∧
        loaded.value.options.name = ⟨"omitempty", true, ""⟩ ∧ loaded.value.name = "omitempty" := by
  intro line declared
  have above : line.IsAbove declared :=
    ⟨[], _, [], rfl, by decide +kernel, by decide +kernel, List.forall_mem_nil _⟩
  have visited : (paramVisit "Users.Get" declared).Accepted .standard :=
    verify_paramOptions ⟨rfl, rfl⟩
  obtain ⟨loaded, done, value⟩ := exists_run_visit visited (paramConfig .standard declared)
  rw [← loadParam_eq] at done
  refine ⟨above, rfl, by decide +kernel, loaded, done, ?_⟩
  rw [value]
  decide +kernel

end NameLine
end DocOptions.Http
