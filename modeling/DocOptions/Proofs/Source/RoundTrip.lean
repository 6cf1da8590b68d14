import DocOptions.Proofs.Json.Records
import DocOptions.Source.Json

/-! Source modules, directives and comments are read back from the JSON they are written as. -/

namespace DocOptions

open Json

namespace Position

theorem ofJson?_toJson (p : Position) : ofJson? p.toJson = some p := by
  have members : p.toJson.asRecord ["file", "line", "column"] = some [("file", .text p.file),
      ("line", .integer p.line.toNat), ("column", .integer p.column.toNat)] :=
    asRecord_record (by simp) (by simp)
  simp only [ofJson?, Option.bind_eq_bind, Option.bind_eq_some_iff]
  exact ⟨_, members, _, rfl, _, asWord_toNat p.line, _, asWord_toNat p.column, rfl⟩

theorem isExact_toJson (p : Position) : p.toJson.IsExact := by
  refine .record fun member inside => ?_
  simp only [List.mem_cons, List.not_mem_nil, or_false] at inside
  rcases inside with rfl | rfl | rfl
  · exact .text _
  · exact .integer _
  · exact .integer _

/-- A position is written as an object, so it is told from one that is missing or null. -/
theorem optional_toJson {members : Members} {name : String} {p : Position}
    (found : List.lookup name members = some p.toJson) :
    members.optional name ofJson? = some (some p) := by
  rw [Members.optional, found]
  exact congrArg (Option.map some) p.ofJson?_toJson

end Position

namespace Directive

theorem ofMembers?_jsonMembers (d : Directive) : ofMembers? d.jsonMembers = some d := by
  simp only [ofMembers?, Option.bind_eq_bind, Option.bind_eq_some_iff]
  exact ⟨_, rfl, _, asList_texts d.options, _, asTextMap_record d.params, rfl⟩

theorem knownMembers_jsonMembers (d : Directive) :
    knownMembers jsonNames (d.jsonMembers.map named) = some d.jsonMembers :=
  knownMembers_map (by simp [jsonMembers, jsonNames]) (by simp [jsonMembers])

theorem ofJson?_toJson (d : Directive) : ofJson? d.toJson = some d := by
  have members : d.toJson.asRecord jsonNames = some d.jsonMembers := d.knownMembers_jsonMembers
  rw [ofJson?, members, Option.bind_some, ofMembers?_jsonMembers]

theorem isExact_jsonMembers (d : Directive) : ∀ member ∈ d.jsonMembers, member.2.IsExact := by
  intro member inside
  simp only [jsonMembers, List.mem_cons, List.not_mem_nil, or_false] at inside
  rcases inside with rfl | rfl | rfl
  · exact .text _
  · exact .array_map .text d.options
  · refine .record fun entry param => ?_
    obtain ⟨pair, -, rfl⟩ := List.mem_map.mp param
    exact .text pair.2

theorem isExact_toJson (d : Directive) : d.toJson.IsExact :=
  .record d.isExact_jsonMembers

theorem depthMembers_jsonMembers (d : Directive) : depthMembers (d.jsonMembers.map named) ≤ 1 := by
  have options (items : List String) : depthItems (items.map Json.text) = 0 := by
    induction items with
    | nil => rfl
    | cons s rest ih => rw [List.map_cons, depthItems, ih]; rfl
  have params (entries : List (String × String)) :
      depthMembers ((entries.map fun entry => (entry.1, Json.text entry.2)).map named) = 0 := by
    induction entries with
    | nil => rfl
    | cons entry rest ih => rw [List.map_cons, List.map_cons, named, depthMembers, ih]; rfl
  simp only [jsonMembers, List.map_cons, List.map_nil, named, depthMembers, texts, record_eq, depth,
    options, params]
  exact Nat.le_refl 1

theorem membersHoldable_jsonMembers (d : Directive) :
    membersHoldable (d.jsonMembers.map named) = true := by
  have options (items : List String) : areHoldable (items.map Json.text) = true := by
    induction items with
    | nil => rfl
    | cons s rest ih => rw [List.map_cons, areHoldable, ih]; rfl
  have params (entries : List (String × String)) :
      membersHoldable ((entries.map fun entry => (entry.1, Json.text entry.2)).map named) =
        true := by
    induction entries with
    | nil => rfl
    | cons entry rest ih => rw [List.map_cons, List.map_cons, named, membersHoldable, ih]; rfl
  simp only [jsonMembers, List.map_cons, List.map_nil, named, membersHoldable, texts, record_eq,
    isHoldable, options, params]
  rfl

end Directive

namespace Occurrence

theorem ofJson?_toJson (o : Occurrence) : ofJson? o.toJson = some o := by
  have shallow : depthMembers (o.directive.jsonMembers.map named) ≤ depthLimit :=
    Nat.le_trans o.directive.depthMembers_jsonMembers (by decide)
  have parts : ((o.directive.jsonMembers ++ [("position", o.position.toJson)]).map named).partition
      (fun member => member.1 == some "position") =
        ([(some "position", o.position.toJson)], o.directive.jsonMembers.map named) := by
    rw [List.partition_eq_filter_filter]
    rfl
  rw [toJson, record_eq, ofJson?, parts]
  simp only [o.directive.membersHoldable_jsonMembers, shallow, decide_true, Bool.and_true, if_true,
    o.directive.knownMembers_jsonMembers, Option.bind_eq_bind, Option.bind_some,
    Directive.ofMembers?_jsonMembers, Position.ofJson?_toJson]
  rfl

theorem isExact_toJson (o : Occurrence) : o.toJson.IsExact := by
  refine .record fun member inside => ?_
  rcases List.mem_append.mp inside with own | position
  · exact o.directive.isExact_jsonMembers member own
  · rw [List.mem_singleton.mp position]
    exact o.position.isExact_toJson

end Occurrence

namespace CommentKind

theorem ofJson?_name (kind : CommentKind) : ofJson? (.text kind.name) = some kind := by
  cases kind <;> decide

end CommentKind

namespace CommentLine

theorem ofJson?_toJson (line : CommentLine) : ofJson? line.toJson = some line := by
  have members : line.toJson.asRecord ["text", "kind", "position"] =
      some [("text", .text line.text), ("kind", .text line.kind.name),
        ("position", line.position.toJson)] :=
    asRecord_record (by simp) (by simp)
  simp only [ofJson?, Option.bind_eq_bind, Option.bind_eq_some_iff]
  exact ⟨_, members, _, rfl, _, line.kind.ofJson?_name, _, line.position.ofJson?_toJson, rfl⟩

theorem isExact_toJson (line : CommentLine) : line.toJson.IsExact := by
  refine .record fun member inside => ?_
  simp only [List.mem_cons, List.not_mem_nil, or_false] at inside
  rcases inside with rfl | rfl | rfl
  · exact .text _
  · exact .text _
  · exact line.position.isExact_toJson

end CommentLine

/-- The members of what may have a position: a text comes first, then the position, if there is one,
then all others. -/
def placedMembers (name content : String) (position : Option Position)
    (rest : List (String × Json)) : List (String × Json) :=
  [(name, .text content)] ++ optionalMember "position" Position.toJson position ++ rest

section

variable {name content : String} {position : Option Position} {rest : List (String × Json)}

theorem asRecord_placedMembers {names : List String}
    (known : ∀ own ∈ name :: "position" :: rest.map Prod.fst, own ∈ names)
    (distinct : (name :: "position" :: rest.map Prod.fst).Nodup) :
    (record (placedMembers name content position rest)).asRecord names =
      some (placedMembers name content position rest) := by
  have within : ((placedMembers name content position rest).map Prod.fst).Sublist
      (name :: "position" :: rest.map Prod.fst) := by
    cases position with
    | none => exact .cons_cons _ (.cons _ (.refl _))
    | some p => exact .refl _
  exact asRecord_record (fun member inside => known _ (within.subset (List.mem_map_of_mem inside)))
    (distinct.sublist within)

theorem optional_placedMembers (distinct : (name :: "position" :: rest.map Prod.fst).Nodup) :
    Members.optional (placedMembers name content position rest) "position" Position.ofJson? =
      some position := by
  obtain ⟨fresh, freshRest⟩ := (List.nodup_cons.mp distinct).imp id (List.nodup_cons.mp · |>.1)
  have different : ("position" == name) = false :=
    beq_eq_false_iff_ne.mpr fun same => fresh (same ▸ List.mem_cons_self)
  have after (later : List (String × Json)) :
      List.lookup "position" ((name, text content) :: later) = List.lookup "position" later := by
    rw [List.lookup_cons, different]
  cases position with
  | none =>
    have missing : List.lookup "position" rest = none := by
      rw [List.lookup_eq_none_iff]
      intro member inside
      rw [bne_iff_ne]
      exact fun same => freshRest (same ▸ List.mem_map_of_mem inside)
    rw [Members.optional, placedMembers, optionalMember, List.append_nil, List.singleton_append,
      after, missing]
  | some p => exact p.optional_toJson ((after _).trans List.lookup_cons_self)

theorem withDefault_placedMembers {α : Type} {other : String} {default : α} {read : Json → Option α}
    (different : other ≠ "position") :
    Members.withDefault (placedMembers name content position rest) other default read =
      Members.withDefault ((name, text content) :: rest) other default read := by
  cases position with
  | none => rfl
  | some p =>
    have skipped : List.lookup other (("position", p.toJson) :: rest) = List.lookup other rest := by
      rw [List.lookup_cons, beq_eq_false_iff_ne.mpr different]
    have same : List.lookup other (placedMembers name content (some p) rest) =
        List.lookup other ((name, text content) :: rest) := by
      rw [List.lookup_cons, ← skipped]
      exact List.lookup_cons
    rw [Members.withDefault, Members.withDefault, same]

theorem isExact_placedMembers (each : ∀ member ∈ rest, member.2.IsExact) :
    (record (placedMembers name content position rest)).IsExact := by
  have own : IsExact (text content) := .text content
  cases position with
  | none => exact .record (List.forall_mem_cons.mpr ⟨own, each⟩)
  | some p =>
    refine .record (List.forall_mem_cons.mpr ⟨own, ?_⟩)
    exact List.forall_mem_cons.mpr ⟨p.isExact_toJson, each⟩

end

namespace RawComment

theorem toJson_eq (comment : RawComment) :
    comment.toJson = record (placedMembers "text" comment.text comment.position []) := by
  rw [placedMembers, List.append_nil, toJson]

theorem ofJson?_toJson (comment : RawComment) : ofJson? comment.toJson = some comment := by
  have members : comment.toJson.asRecord ["text", "position"] =
      some (placedMembers "text" comment.text comment.position []) := by
    rw [toJson_eq]
    exact asRecord_placedMembers (by simp) (by simp)
  simp only [ofJson?, Option.bind_eq_bind, Option.bind_eq_some_iff]
  exact ⟨_, members, _, rfl, _, optional_placedMembers (by simp), rfl⟩

theorem isExact_toJson (comment : RawComment) : comment.toJson.IsExact := by
  rw [toJson_eq]
  exact isExact_placedMembers (List.forall_mem_nil _)

end RawComment

namespace Variable

theorem ofJson?_toJson (v : Variable) : ofJson? v.toJson = some v := by
  have members : v.toJson.asRecord ["name", "type_name", "is_context", "is_error", "comments"] =
      some [("name", .text v.name), ("type_name", .text v.typeName),
        ("is_context", .bool v.isContext), ("is_error", .bool v.isError),
        ("comments", RawComment.listToJson v.comments)] :=
    asRecord_record (by simp) (by simp)
  have comments := asList_array RawComment.ofJson?_toJson v.comments
  simp only [ofJson?, Option.bind_eq_bind, Option.bind_eq_some_iff]
  exact ⟨_, members, _, rfl, _, rfl, _, rfl, _, rfl, _, comments, rfl⟩

theorem isExact_toJson (v : Variable) : v.toJson.IsExact := by
  refine .record fun member inside => ?_
  simp only [List.mem_cons, List.not_mem_nil, or_false] at inside
  rcases inside with rfl | rfl | rfl | rfl | rfl
  · exact .text _
  · exact .text _
  · exact .bool _
  · exact .bool _
  · exact .array_map RawComment.isExact_toJson v.comments

end Variable

namespace Method

theorem ofJson?_toJson (m : Method) : ofJson? m.toJson = some m := by
  have members : m.toJson.asRecord ["name", "position", "comments", "params", "results"] =
      some (placedMembers "name" m.name m.position
        [("comments", RawComment.listToJson m.comments),
          ("params", .array (m.params.map Variable.toJson)),
          ("results", .array (m.results.map Variable.toJson))]) :=
    asRecord_placedMembers (by simp) (by simp)
  have comments := asList_array RawComment.ofJson?_toJson m.comments
  have params := asList_array Variable.ofJson?_toJson m.params
  have results := asList_array Variable.ofJson?_toJson m.results
  simp only [ofJson?, Option.bind_eq_bind, Option.bind_eq_some_iff]
  exact ⟨_, members, _, rfl, _, optional_placedMembers (by simp),
    _, (withDefault_placedMembers (by decide)).trans comments,
    _, (withDefault_placedMembers (by decide)).trans params,
    _, (withDefault_placedMembers (by decide)).trans results, rfl⟩

theorem isExact_toJson (m : Method) : m.toJson.IsExact := by
  refine isExact_placedMembers fun member inside => ?_
  simp only [List.mem_cons, List.not_mem_nil, or_false] at inside
  rcases inside with rfl | rfl | rfl
  · exact .array_map RawComment.isExact_toJson m.comments
  · exact .array_map Variable.isExact_toJson m.params
  · exact .array_map Variable.isExact_toJson m.results

end Method

namespace Interface

theorem ofJson?_toJson (i : Interface) : ofJson? i.toJson = some i := by
  have members : i.toJson.asRecord ["name", "position", "comments", "methods"] =
      some (placedMembers "name" i.name i.position
        [("comments", RawComment.listToJson i.comments),
          ("methods", .array (i.methods.map Method.toJson))]) :=
    asRecord_placedMembers (by simp) (by simp)
  have comments := asList_array RawComment.ofJson?_toJson i.comments
  have methods := asList_array Method.ofJson?_toJson i.methods
  simp only [ofJson?, Option.bind_eq_bind, Option.bind_eq_some_iff]
  exact ⟨_, members, _, rfl, _, optional_placedMembers (by simp),
    _, (withDefault_placedMembers (by decide)).trans comments,
    _, (withDefault_placedMembers (by decide)).trans methods, rfl⟩

theorem isExact_toJson (i : Interface) : i.toJson.IsExact := by
  refine isExact_placedMembers fun member inside => ?_
  simp only [List.mem_cons, List.not_mem_nil, or_false] at inside
  rcases inside with rfl | rfl
  · exact .array_map RawComment.isExact_toJson i.comments
  · exact .array_map Method.isExact_toJson i.methods

end Interface

namespace SourceModule

theorem ofJson?_toJson (m : SourceModule) : ofJson? m.toJson = some m := by
  have members : m.toJson.asRecord ["interfaces"] =
      some [("interfaces", .array (m.interfaces.map Interface.toJson))] :=
    asRecord_record (by simp) (by simp)
  have interfaces := asList_array Interface.ofJson?_toJson m.interfaces
  simp only [ofJson?, Option.bind_eq_bind, Option.bind_eq_some_iff]
  exact ⟨_, members, _, interfaces, rfl⟩

theorem isExact_toJson (m : SourceModule) : m.toJson.IsExact := by
  refine .record fun member inside => ?_
  rw [List.mem_singleton.mp inside]
  exact .array_map Interface.isExact_toJson m.interfaces

end SourceModule

/-- Whatever white space a value is written with, reading the text gives the value. -/
def Json.RoundTrips {α : Type} (encode : α → Json) (decode : Json → Option α) : Prop :=
  ∀ (layout : Layout) (a : α), (Json.read (layout.write (encode a))).bind decode = some a

theorem Json.roundTrips {α : Type} {encode : α → Json} {decode : Json → Option α}
    (exact : ∀ a, (encode a).IsExact) (reads : ∀ a, decode (encode a) = some a) :
    RoundTrips encode decode := by
  intro layout a
  rw [layout.read_write (exact a), Option.bind_some, reads]

theorem written_json_round_trips :
    (∀ (layout : Layout) (m : SourceModule), SourceModule.read (layout.write m.toJson) = some m) ∧
      RoundTrips Directive.toJson Directive.ofJson? ∧
      RoundTrips Occurrence.toJson Occurrence.ofJson? ∧
      RoundTrips CommentLine.toJson CommentLine.ofJson? ∧
      RoundTrips Position.toJson Position.ofJson? := by
  have modules : RoundTrips SourceModule.toJson SourceModule.ofJson? :=
    roundTrips SourceModule.isExact_toJson SourceModule.ofJson?_toJson
  exact ⟨modules, roundTrips Directive.isExact_toJson Directive.ofJson?_toJson,
    roundTrips Occurrence.isExact_toJson Occurrence.ofJson?_toJson,
    roundTrips CommentLine.isExact_toJson CommentLine.ofJson?_toJson,
    roundTrips Position.isExact_toJson Position.ofJson?_toJson⟩

example : Layout.compact.write (Position.toJson ⟨"a.go", 3, 7⟩) =
    "\x7b\"file\":\"a.go\",\"line\":3,\"column\":7\x7d" := by
  rfl

end DocOptions
