import DocOptions.Plugin.Http.Options
import DocOptions.Proofs.Schema.Accepted
import DocOptions.Proofs.Schema.Fields
import DocOptions.Proofs.Schema.Leaves
import Mathlib.Data.List.Forall2

/-! What a decode leaves in each leaf. The first directive with the leaf's key decides, and only if
its options convert; whatever happens to other fields, a leaf without such a directive keeps what it
held before. -/

namespace DocOptions

/-- All texts are read, each to the value at its place, or none is. -/
theorem ScalarType.readList_ok_iff {type : ScalarType} {texts : List String}
    {values : List type.Value} :
    type.readList texts = .ok values ↔
      List.Forall₂ (fun text value => type.read text = .ok value) texts values := by
  unfold readList
  induction texts generalizing values with
  | nil => cases values <;> simp [pure, Except.pure]
  | cons text texts ih =>
    rw [List.mapM_cons]
    cases first : type.read text with
    | error e => cases values <;> simp [first, bind, Except.bind]
    | ok value =>
      cases others : texts.mapM type.read with
      | error e => cases values <;> simp [first, ← ih, others, bind, Except.bind]
      | ok read =>
        cases values <;> simp [first, ← ih, others, bind, Except.bind, pure, Except.pure]

namespace Leaf

/-- The value that a directive has for a leaf with that directive's key: for a scalar its first
option or no text, converted; for a flag always true; for a list all its options, converted. -/
inductive Gives (directive : Directive) : (kind : Leaf) → kind.Slot → Prop
  | scalar {source : ScalarSource} {type : ScalarType} {value : type.Value} :
      type.read (directive.options.headD "") = .ok value →
      Gives directive (.scalar source type) value
  | flag : Gives directive .flag true
  | list {type : ScalarType} {values : List type.Value} :
      List.Forall₂ (fun text value => type.read text = .ok value) directive.options values →
      Gives directive (.list type) values

/-- What a leaf holds in the end, given the first directive with its key and what it held at the
start. -/
structure Holds (kind : Leaf) (first? : Option Occurrence) (start final : kind.Slot) : Prop where
  given : ∀ first ∈ first?, ∀ value, kind.Gives first.directive value → final = value
  kept : (∀ first ∈ first?, ∀ value, ¬ kind.Gives first.directive value) → final = start

theorem holds_of_none {kind : Leaf} {slot : kind.Slot} : kind.Holds none slot slot :=
  ⟨fun _ member => (nomatch member), fun _ => rfl⟩

/-- Converted or not, a value is settled as the directive says. -/
theorem holds_settle {kind : Leaf} {slot : kind.Slot} {site : Site} {source : Occurrence}
    {result : Except ConversionError kind.Slot}
    (gives : ∀ value, kind.Gives source.directive value ↔ result = .ok value) :
    kind.Holds (some source) slot (Binding.settle slot site source result).slot := by
  cases result with
  | ok value =>
    refine ⟨?_, fun free => absurd ((gives value).mpr rfl) (free source rfl value)⟩
    rintro _ ⟨⟩ other given
    exact Except.ok.inj ((gives other).mp given)
  | error e =>
    refine ⟨?_, fun _ => rfl⟩
    rintro _ ⟨⟩ value given
    exact nomatch (gives value).mp given

theorem holds_bindOwn (kind : Leaf) (site : Site) (found : Option Occurrence) (slot : kind.Slot) :
    kind.Holds found slot (kind.bindOwn site found slot).slot := by
  cases found with
  | none => cases kind <;> exact holds_of_none
  | some source =>
    cases kind with
    | scalar origin type =>
      refine holds_settle fun value => ⟨?_, .scalar⟩
      intro given
      cases given with
      | scalar read => exact read
    | flag =>
      refine ⟨?_, fun free => absurd .flag (free source rfl true)⟩
      rintro _ ⟨⟩ _ ⟨⟩
      rfl
    | list type =>
      refine holds_settle fun values => ⟨?_, fun read => .list (ScalarType.readList_ok_iff.mp read)⟩
      intro given
      cases given with
      | list read => exact ScalarType.readList_ok_iff.mpr read
    | optionFlag | options =>
      refine ⟨?_, fun _ => rfl⟩
      rintro _ _ _ ⟨⟩

end Leaf

namespace LeafRef

variable {kind : Leaf}

/-- Binding a table binds each leaf by the first directive with its key and leaves it alone
otherwise. -/
theorem holds_bind {shape : Shape} {table : Table shape} (ref : LeafRef kind table)
    (rules : RuleRegistry) (index : DirectiveIndex) (scope path : String) (start : shape.Record) :
    kind.Holds (index.entries.find? (·.key == ref.key scope)) (ref.get start)
      (ref.get (table.bind rules index scope path start).1) := by
  induction ref generalizing scope path with
  | @here _ spec next =>
    have key : (here : LeafRef kind (.leaf spec kind next)).key scope = s!"{scope}-{spec.name}" :=
      keyBelow_singleton scope spec.name
    rw [key, ← DirectiveIndex.get?_eq]
    exact Leaf.holds_bindOwn kind _ _ start.1
  | afterLeaf ref ih => exact ih scope path start.2
  | afterComposite ref ih =>
    rw [Table.bind_composite]
    exact ih scope path start.2
  | @inGroup _ _ spec name inner next ref ih =>
    have key : (inGroup ref : LeafRef kind (.composite spec .group name inner next)).key scope =
        ref.key s!"{scope}-{spec.name}" := keyBelow_cons scope spec.name ref.names
    rw [key]
    exact ih _ _ start.1

end LeafRef

/-- A decode with an accepted schema succeeds, and every leaf, however deep in groups, then holds
what the first directive with its key gives it, or else what it held at the start. -/
theorem Schema.decodeInto_leaves {shape : Shape} (schema : Schema shape) (rules : RuleRegistry)
    (accepted : schema.verify rules = .ok ()) (scope : String) (nonempty : scope ≠ "")
    (index : DirectiveIndex) (start : shape.Record) :
    ∃ decoded, schema.decodeInto rules scope index start = .ok decoded ∧
      ∀ {kind : Leaf} (leaf : LeafRef kind schema.table),
        kind.Holds (index.entries.find? (·.key == leaf.key scope)) (leaf.get start)
          (leaf.get decoded.value) :=
  ⟨_, decodeInto_of_accepted accepted nonempty index start,
    fun leaf => leaf.holds_bind rules index scope schema.name start⟩

/-- Of two directives for a text inside a group the first one decides. -/
theorem Schema.decodeInto_leaves_first_accept :
    ∃ decoded, Http.InterfaceOptions.schema.decodeInto .standard "http"
        (.ofList [⟨⟨"http-default-accept", ["json", "utf-8"], ∅⟩, .unknown⟩,
          ⟨⟨"http-default-accept", ["xml"], ∅⟩, .unknown⟩])
        Http.InterfaceOptions.table.shape.zero = .ok decoded ∧
      decoded.value.1.2.1 = "json" := by
  obtain ⟨decoded, done, holds⟩ := Http.InterfaceOptions.schema.decodeInto_leaves .standard rfl
    "http" (by decide) (.ofList [⟨⟨"http-default-accept", ["json", "utf-8"], ∅⟩, .unknown⟩,
      ⟨⟨"http-default-accept", ["xml"], ∅⟩, .unknown⟩]) Http.InterfaceOptions.table.shape.zero
  exact ⟨decoded, done, (holds (.inGroup (.afterLeaf .here))).given _ rfl _ (.scalar rfl)⟩

end DocOptions
