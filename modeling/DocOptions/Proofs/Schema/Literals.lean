import DocOptions.Proofs.Text.Pieces
import DocOptions.Schema.Decode

/-! Fields that are restricted to literals. The literals are kept as one line of words and found
again when a value is checked, so a value passes if its text is one of them. A zero value has the
text of the field's default, and no text at all, which is never a literal, where there is none. -/

namespace DocOptions

open Text

/-- The values that a rule can be shown: scalars, values that may be missing, lists and maps. -/
inductive RuleValue : Type 1
  | scalar (kind : ScalarKind) (value : kind.Value)
  | missing
  | present (value : RuleValue)
  | list {α : Type} (items : List α)
  | map {α : Type} (entries : TextMap α)

theorem TextMap.isEmpty_iff {α : Type} {map : TextMap α} : map.isEmpty = true ↔ map = ∅ := by
  obtain ⟨entries, sorted⟩ := map
  cases entries with
  | nil => exact ⟨fun _ => rfl, fun _ => rfl⟩
  | cons entry rest => exact ⟨fun empty => (nomatch empty), fun same => nomatch same⟩

namespace RuleValue

/-- What a rule sees of the value. -/
def view : RuleValue → ValueView
  | scalar kind value => kind.view value
  | missing => ⟨true, none⟩
  | present value => ⟨false, value.view.text?⟩
  | list items => .ofList items
  | map entries => .ofMap entries

/-- The value that a leaf holds. -/
def ofLeaf : (kind : Leaf) → kind.Slot → RuleValue
  | .scalar _ (.plain kind), value => scalar kind value
  | .scalar _ (.optional kind), slot =>
    match (slot : Option kind.Value) with
    | none => missing
    | some value => present (scalar kind value)
  | .flag, b => scalar .bool b
  | .list type, items => list (items : List type.Value)
  | .optionFlag, b => scalar .bool b
  | .options, items => list (items : List String)

theorem view_ofLeaf (kind : Leaf) (slot : kind.Slot) :
    (ofLeaf kind slot).view = kind.view slot := by
  cases kind with
  | scalar source type =>
    cases type with
    | plain kind => rfl
    | optional kind => cases slot <;> rfl
  | flag | list | optionFlag | options => rfl

/-- Whether it is the zero value of its kind; of floating-point numbers both zeros are. -/
def IsZero : RuleValue → Prop
  | scalar .string text => text = ""
  | scalar .bool b => b = false
  | scalar (.integer _) n => n = (0 : Int)
  | scalar (.float _) x => ∃ negative offset, x = FloatValue.finite negative 0 offset
  | missing => True
  | present _ => False
  | list items => items = []
  | map entries => entries = ∅

/-- The text of a scalar that is there. -/
def text? : RuleValue → Option String
  | scalar .string text => some text
  | scalar .bool b => some (if b then "true" else "false")
  | scalar (.integer _) n => some (toString (n : Int))
  | scalar (.float kind) x => some (FloatValue.text kind.format x)
  | missing => none
  | present value => value.text?
  | list _ => none
  | map _ => none

/-- The text that is looked up among the literals. -/
inductive Effective (default : Option String) (value : RuleValue) : String → Prop
  | unset : value.IsZero → Effective default value (default.getD "")
  | scalar {text : String} : ¬ value.IsZero → value.text? = some text → Effective default value text
  | textless : ¬ value.IsZero → value.text? = none → Effective default value ""

theorem isZero_view_iff (value : RuleValue) : value.view.isZero = true ↔ value.IsZero := by
  cases value with
  | scalar kind value =>
    cases kind with
    | string => exact String.isEmpty_iff
    | bool => simp [view, ScalarKind.view, IsZero]
    | integer kind => exact beq_iff_eq
    | float kind =>
      cases value with
      | nan | infinite => simp [view, ScalarKind.view, FloatValue.isZero, IsZero]
      | finite => simp [view, ScalarKind.view, FloatValue.isZero, IsZero]
  | missing => simp [view, IsZero]
  | present value => simp [view, IsZero]
  | list items => exact List.isEmpty_iff
  | map entries => exact TextMap.isEmpty_iff

theorem text?_view (value : RuleValue) : value.view.text? = value.text? := by
  induction value with
  | scalar kind value => cases kind <;> rfl
  | missing => rfl
  | present value ih => exact ih
  | list items => rfl
  | map entries => rfl

theorem effective_effectiveText (value : RuleValue) (context : RuleContext) :
    value.Effective context.default (Rule.effectiveText context value.view) := by
  rw [Rule.effectiveText]
  split
  · rename_i zero
    exact .unset (value.isZero_view_iff.mp zero)
  · rename_i nonzero
    have nonzero := mt value.isZero_view_iff.mpr nonzero
    cases text : value.text? with
    | none =>
      rw [text?_view, text]
      exact .textless nonzero text
    | some _ =>
      rw [text?_view, text]
      exact .scalar nonzero text

theorem Effective.eq_default {default : Option String} {value : RuleValue} {text : String}
    (effective : value.Effective default text) (zero : value.IsZero) : text = default.getD "" := by
  cases effective with
  | unset => rfl
  | scalar nonzero => exact absurd zero nonzero
  | textless nonzero => exact absurd zero nonzero

theorem Effective.eq_text {default : Option String} {value : RuleValue} {text own : String}
    (effective : value.Effective default text) (nonzero : ¬ value.IsZero)
    (there : value.text? = some own) : text = own := by
  cases effective with
  | unset zero => exact absurd zero nonzero
  | scalar _ same => exact Option.some.inj (same.symm.trans there)
  | textless _ textless => exact nomatch textless.symm.trans there

theorem Effective.eq_empty {default : Option String} {value : RuleValue} {text : String}
    (effective : value.Effective default text) (nonzero : ¬ value.IsZero)
    (textless : value.text? = none) : text = "" := by
  cases effective with
  | unset zero => exact absurd zero nonzero
  | scalar _ own => exact nomatch textless.symm.trans own
  | textless => rfl

end RuleValue

/-- What is said of a text that is none of the literals. -/
def notOneOf (subject text : String) (literals : List String) : String :=
  let listed := " ".intercalate literals
  s!"{subject}: value {quoted text} is not one of [{listed}]"

theorem Rule.refusal?_oneOf {literals : List String} (each : ∀ literal ∈ literals, IsWord literal)
    (subject : String) (default : Option String) (view : ValueView) :
    let context : RuleContext := ⟨subject, (RuleSpec.oneOf literals).params, default⟩
    let text := effectiveText context view
    oneOf.refusal? context view =
      if text ∈ literals then none else some (notOneOf subject text literals) := by
  intro context text
  have found : ((context.params.get? literalsParam).map words).getD [] = literals :=
    words_intercalate each
  simp only [oneOf, found]
  rfl

namespace FieldSpec

variable {rules : RuleRegistry} {spec : FieldSpec} {earlier later : List RuleSpec}

/-- Each rule refuses a value on its own. -/
theorem refusals_append {rule : RuleSpec} (declared : spec.rules = earlier ++ rule :: later)
    (site : Site) (position : Option Position) (view : ValueView) :
    spec.refusals rules site position view =
      { spec with rules := earlier }.refusals rules site position view ++
        { spec with rules := [rule] }.refusals rules site position view ++
        { spec with rules := later }.refusals rules site position view := by
  simp only [refusals, declared]
  rw [List.append_cons, List.filterMap_append, List.filterMap_append]

theorem refusals_singleton {rule : RuleSpec} {check : Rule}
    (known : rules.get? rule.name = some check) (site : Site) (position : Option Position)
    (view : ValueView) :
    { spec with rules := [rule] }.refusals rules site position view =
      ((check.refusal? ⟨site.subject, rule.params, spec.default⟩ view).map
        (⟨.failure, ·, some site.key, position⟩)).toList := by
  simp only [refusals, List.filterMap_cons, List.filterMap_nil, known, Option.bind_some]
  cases check.refusal? ⟨site.subject, rule.params, spec.default⟩ view <;> rfl

/-- A field that is restricted to literals refuses a value, for that rule, if the value's text is
none of them; the field's other rules refuse what they would refuse without it. A field that is
unset and has no default never passes, nor does a list or a map with something in it. -/
theorem refusals_oneOf (known : rules.get? "in" = some Rule.oneOf) {literals : List String}
    (each : ∀ literal ∈ literals, IsWord literal)
    (declared : spec.rules = earlier ++ .oneOf literals :: later) (site : Site)
    (position : Option Position) (value : RuleValue) :
    ∃ text, value.Effective spec.default text ∧
      spec.refusals rules site position value.view =
        { spec with rules := earlier }.refusals rules site position value.view ++
          (if text ∈ literals then []
            else [⟨.failure, notOneOf site.subject text literals, some site.key, position⟩]) ++
          { spec with rules := later }.refusals rules site position value.view ∧
      (value.IsZero → spec.default = none → text ∉ literals) ∧
      (∀ {α : Type} (items : List α), value = .list items → items ≠ [] → text ∉ literals) ∧
      (∀ {α : Type} (entries : TextMap α), value = .map entries → entries ≠ ∅ →
        text ∉ literals) := by
  let context : RuleContext := ⟨site.subject, (RuleSpec.oneOf literals).params, spec.default⟩
  have effective := value.effective_effectiveText context
  have notEmpty : "" ∉ literals := fun member => (each "" member).1 rfl
  refine ⟨Rule.effectiveText context value.view, effective, ?_, ?_, ?_, ?_⟩
  · rw [refusals_append declared, refusals_singleton known,
      Rule.refusal?_oneOf each site.subject spec.default value.view]
    by_cases member : Rule.effectiveText context value.view ∈ literals
    · rw [if_pos member, if_pos member]
      rfl
    · rw [if_neg member, if_neg member]
      rfl
  · intro zero unset
    rw [effective.eq_default zero, show context.default = none from unset]
    exact notEmpty
  · rintro α items rfl nonempty
    rw [effective.eq_empty nonempty rfl]
    exact notEmpty
  · rintro α entries rfl nonempty
    rw [effective.eq_empty nonempty rfl]
    exact notEmpty

/-- An unset text with a default, a number that is no literal, and a list. -/
theorem refusals_oneOf_method :
    let spec := ((field "method").oneOf ["GET", "2"]).defaultValue "GET"
    let site : Site := ⟨"http-method", "http-method", "Options.method"⟩
    let text := Leaf.scalar .key (.plain .string)
    let number := Leaf.scalar .key (.optional (.integer .int8))
    let list := Leaf.list (.plain .string)
    let refusal (text : String) : Diagnostic :=
      ⟨.failure, notOneOf "http-method" text ["GET", "2"], some "http-method", none⟩
    spec.refusals .standard site none (text.view "") = [] ∧
      spec.refusals .standard site none (number.view (some 0)) = [refusal "0"] ∧
      spec.refusals .standard site none (list.view ["GET"]) = [refusal ""] := by
  intro spec site text number list refusal
  have each : ∀ literal ∈ ["GET", "2"], IsWord literal := by simp [IsWord, isBlank]
  have declared : spec.rules = [] ++ .oneOf ["GET", "2"] :: [] := rfl
  have known : RuleRegistry.standard.get? "in" = some Rule.oneOf := rfl
  obtain ⟨shown, effective, told, -⟩ :=
    refusals_oneOf known each declared site none (.ofLeaf text "")
  obtain ⟨shown', effective', told', -⟩ :=
    refusals_oneOf known each declared site none (.ofLeaf number (some 0))
  obtain ⟨shown'', effective'', told'', -⟩ :=
    refusals_oneOf known each declared site none (.ofLeaf list ["GET"])
  rw [RuleValue.view_ofLeaf] at told told' told''
  refine ⟨?_, ?_, ?_⟩
  · rw [told, effective.eq_default rfl]
    rfl
  · rw [told', effective'.eq_text id rfl]
    rfl
  · rw [told'', effective''.eq_empty (List.cons_ne_nil _ _) rfl]
    rfl

end FieldSpec

end DocOptions
