import DocOptions.Printout
import DocOptions.Proofs.Numeral.Decimal
import Mathlib.Data.List.Basic

/-! The report of findings. It is made of lines: a section of failures and one of warnings, each
with a heading and a line for each finding, and an empty line between the two. Findings that are
rendered on one line are read off these lines again, so two reports are the same text only if they
report the same. -/

namespace DocOptions

section Lines

variable {α : Type}

theorem mem_of_mem_intercalate {mark x : α} {parts : List (List α)}
    (member : x ∈ [mark].intercalate parts) : x = mark ∨ ∃ part ∈ parts, x ∈ part := by
  induction parts with
  | nil => cases member
  | cons part rest ih =>
    cases rest with
    | nil => exact .inr ⟨part, List.mem_cons_self, by simpa using member⟩
    | cons next more =>
      rw [List.intercalate_cons_cons, List.mem_append, List.mem_append,
        List.mem_singleton] at member
      rcases member with (own | between) | later
      · exact .inr ⟨part, List.mem_cons_self, own⟩
      · exact .inl between
      · exact (ih later).imp_right fun ⟨part, listed, inside⟩ =>
          ⟨part, List.mem_cons_of_mem _ listed, inside⟩

theorem intercalate_append (mark : α) {first second : List (List α)} (nonempty : first ≠ [])
    (nonempty' : second ≠ []) :
    [mark].intercalate (first ++ second) =
      [mark].intercalate first ++ mark :: [mark].intercalate second := by
  induction first with
  | nil => exact absurd rfl nonempty
  | cons line rest ih =>
    cases rest with
    | nil => simp [List.intercalate_cons_of_ne_nil nonempty']
    | cons next more =>
      have later := ih (List.cons_ne_nil _ _)
      rw [List.cons_append] at later
      simp [List.intercalate_cons_cons, later]

/-- Texts of lines with an empty line between each two are lines again. -/
theorem intercalate_paragraphs (mark : α) {paragraphs : List (List (List α))}
    (each : ∀ lines ∈ paragraphs, lines ≠ []) :
    [mark, mark].intercalate (paragraphs.map [mark].intercalate) =
      [mark].intercalate ([[]].intercalate paragraphs) := by
  induction paragraphs with
  | nil => rfl
  | cons lines rest ih =>
    obtain ⟨own, others⟩ := List.forall_mem_cons.mp each
    cases rest with
    | nil => simp
    | cons next more =>
      have later : [[]].intercalate (next :: more) ≠ [] := by
        obtain ⟨line, tail, rfl⟩ := List.exists_cons_of_ne_nil (others next List.mem_cons_self)
        cases more <;> simp
      rw [List.map_cons, List.map_cons, List.intercalate_cons_cons, ← List.map_cons, ih others,
        List.intercalate_cons_cons, List.append_assoc lines,
        intercalate_append mark own (List.append_ne_nil_of_left_ne_nil (List.cons_ne_nil _ _) _),
        List.singleton_append, List.intercalate_cons_of_ne_nil later]
      simp

/-- Lines are read off the text that they are joined to, unless the text might be one empty line. -/
theorem intercalate_inj [DecidableEq α] {mark : α} {lines lines' : List (List α)}
    (solid : ∀ line ∈ lines, mark ∉ line) (solid' : ∀ line ∈ lines', mark ∉ line)
    (parted : lines ≠ [[]]) (parted' : lines' ≠ [[]])
    (same : [mark].intercalate lines = [mark].intercalate lines') : lines = lines' := by
  have read {lines : List (List α)} (solid : ∀ line ∈ lines, mark ∉ line) :
      ([mark].intercalate lines).splitOn mark = if lines = [] then [[]] else lines := by
    split
    · rename_i noLines
      rw [noLines]
      rfl
    · exact List.splitOn_intercalate mark solid ‹_›
  have split := (read solid).symm.trans ((congrArg (List.splitOn mark) same).trans (read solid'))
  by_cases noLines : lines = [] <;> by_cases noLines' : lines' = [] <;> simp_all

end Lines

/-- The parts of a place with a known line. The file and the column are left out if they are not
known. -/
def Position.parts (p : Position) : List String :=
  (if p.file = "" then [] else [p.file]) ++ p.line.toNat.repr ::
    if p.column = 0 then [] else [p.column.toNat.repr]

theorem Position.text_eq {p : Position} (known : p.line ≠ 0) :
    p.text = ":".intercalate p.parts := by
  have valid : p.isValid = true := bne_iff_ne.mpr known
  have digits : p.line.toNat.repr ≠ "" := by
    rw [ne_eq, ← String.toList_inj, Nat.toList_repr]
    exact Nat.toDigits_ne_nil
  by_cases file : p.file = "" <;> by_cases column : p.column = 0 <;>
    simp only [text, parts, valid, file, column, digits, if_true, if_false, and_false, false_and,
      toString, String.isEmpty_iff, String.append_eq_empty_iff, ← String.append_assoc,
      String.empty_append, String.append_empty] <;> rfl

namespace Diagnostic

/-- How a finding is rendered: the message stands at the end, behind the place if that is known. -/
inductive RendersAs (d : Diagnostic) : String → Prop
  | placed {position : Position} : d.position = some position → position.line ≠ 0 →
      RendersAs d (":".intercalate position.parts ++ ": " ++ d.message)
  | unplaced : (∀ position ∈ d.position, position.line = 0) → RendersAs d d.message

theorem rendersAs_text (d : Diagnostic) : d.RendersAs d.text := by
  unfold text
  cases found : d.position with
  | none => exact .unplaced (by simp [found])
  | some position =>
    by_cases unknown : position.line = 0
    · have invalid : position.isValid = false := bne_eq_false_iff_eq.mpr unknown
      simp only [invalid]
      exact .unplaced (by simp [found, unknown])
    · have valid : position.isValid = true := bne_iff_ne.mpr unknown
      simp only [valid, if_true, Position.text_eq unknown]
      exact .placed found unknown

end Diagnostic

namespace Diagnostics

def heading (noun : String) (count : Nat) : String :=
  let plural := if count = 1 then "" else "s"
  s!"{count} {noun}{plural}:"

/-- The lines of a section. -/
def sectionLines (noun : String) (texts : List String) : List (List Char) :=
  (heading noun texts.length).toList :: texts.map fun text => '\t' :: '*' :: ' ' :: text.toList

/-- The lines of a section, unless there is nothing to list in it. -/
def sectionOf? (noun : String) (texts : List String) : List (List (List Char)) :=
  if texts.isEmpty then [] else [sectionLines noun texts]

theorem toList_bulleted (noun : String) (items : List Diagnostic) :
    (bulleted noun items).toList =
      ['\n'].intercalate (sectionLines noun (items.map Diagnostic.text)) := by
  have bullets (first : List Char) (texts : List String) :
      ['\n'].intercalate (first :: texts.map fun text => '\t' :: '*' :: ' ' :: text.toList) =
        first ++ texts.flatMap fun text => '\n' :: '\t' :: '*' :: ' ' :: text.toList := by
    induction texts generalizing first with
    | nil => simp
    | cons text rest ih => simp [List.intercalate_cons_cons, ih]
  have start : bulleted noun items = heading noun (items.map Diagnostic.text).length ++
      String.join (items.map ("\n\t* " ++ ·.text)) := by
    rw [List.length_map]
    rfl
  rw [sectionLines, bullets, start, String.toList_append, String.toList_join, List.flatMap_map,
    List.flatMap_map]
  congr 1
  simp [String.toList_append]

theorem isWarning_eq (d : Diagnostic) : d.isWarning = !d.isFailure := by
  unfold Diagnostic.isWarning Diagnostic.isFailure
  cases d.severity <;> rfl

theorem partition_eq (ds : Diagnostics) : ds.partition = (ds.failures, ds.warnings) := by
  have others : not ∘ Diagnostic.isFailure = Diagnostic.isWarning :=
    funext fun d => (isWarning_eq d).symm
  rw [partition, List.partition_eq_filter_filter, others]
  rfl

theorem heading_eq (noun : String) (count : Nat) :
    heading noun count = count.repr ++ " " ++ noun ++ (if count = 1 then "" else "s") ++ ":" := rfl

theorem mem_heading {noun : String} {count : Nat} {c : Char}
    (member : c ∈ (heading noun count).toList) :
    c.isDigit = true ∨ c ∈ noun.toList ∨ c ∈ [' ', 's', ':'] := by
  rw [heading_eq] at member
  simp only [String.toList_append, List.mem_append] at member
  rcases member with (((digit | space) | inside) | plural) | colon
  · exact .inl (IntKind.isDigit_of_mem_repr c digit)
  · exact .inr (.inr (List.mem_cons.mpr (.inl (List.mem_singleton.mp space))))
  · exact .inr (.inl inside)
  · split at plural
    · exact absurd plural List.not_mem_nil
    · obtain rfl := List.mem_singleton.mp plural
      exact .inr (.inr (by decide))
  · obtain rfl := List.mem_singleton.mp colon
    exact .inr (.inr (by decide))

theorem nil_not_mem_sectionLines (noun : String) (texts : List String) :
    [] ∉ sectionLines noun texts := by
  have colon : ':' ∈ (heading noun texts.length).toList := by simp [heading_eq]
  have bullets : [] ∉ texts.map fun text => '\t' :: '*' :: ' ' :: text.toList := by simp
  exact List.not_mem_cons_of_ne_of_not_mem (List.ne_nil_of_mem colon).symm bullets

theorem newline_not_mem_sectionLines {noun : String} {texts : List String}
    (plain : '\n' ∉ noun.toList) (solid : ∀ text ∈ texts, '\n' ∉ text.toList) :
    ∀ line ∈ sectionLines noun texts, '\n' ∉ line := by
  refine List.forall_mem_cons.mpr ⟨fun member => ?_, List.forall_mem_map.mpr fun text listed => ?_⟩
  · rcases mem_heading member with digit | inside | other
    · exact absurd digit (by decide)
    · exact plain inside
    · exact absurd other (by decide)
  · simpa using solid text listed

theorem mem_sectionOf? {noun : String} {texts : List String} {lines : List (List Char)} :
    lines ∈ sectionOf? noun texts ↔ texts ≠ [] ∧ lines = sectionLines noun texts := by
  cases texts <;> simp [sectionOf?]

theorem sectionOf?_inj {noun : String} {texts texts' : List String}
    (same : sectionOf? noun texts = sectionOf? noun texts') : texts = texts' := by
  have bullet (text text' : String) (same : '\t' :: '*' :: ' ' :: text.toList =
      '\t' :: '*' :: ' ' :: text'.toList) : text = text' := by
    simpa [String.toList_inj] using same
  cases texts with
  | nil => cases texts' <;> simp_all [sectionOf?]
  | cons text rest =>
    cases texts' with
    | nil => simp [sectionOf?] at same
    | cons text' rest' =>
      have lines : sectionLines noun (text :: rest) = sectionLines noun (text' :: rest') :=
        List.head_eq_of_cons_eq same
      exact (List.map_inj_right bullet).mp (List.tail_eq_of_cons_eq lines)

theorem filter_sectionOf? (select : List (List Char) → Bool) (noun : String) (texts : List String) :
    (sectionOf? noun texts).filter select =
      if select (sectionLines noun texts) then sectionOf? noun texts else [] := by
  cases texts with
  | nil => exact (ite_self []).symm
  | cons => exact List.filter_cons

/-- The lines of the sections of a report. -/
def paragraphs (failures warnings : List String) : List (List (List Char)) :=
  sectionOf? "error" failures ++ sectionOf? "warning" warnings

theorem forall_mem_paragraphs {P : List (List Char) → Prop} {failures warnings : List String}
    (errors : P (sectionLines "error" failures)) (others : P (sectionLines "warning" warnings)) :
    ∀ lines ∈ paragraphs failures warnings, P lines := by
  refine List.forall_mem_append.mpr ⟨fun lines member => ?_, fun lines member => ?_⟩
  · exact (mem_sectionOf?.mp member).2 ▸ errors
  · exact (mem_sectionOf?.mp member).2 ▸ others

theorem ne_nil_of_mem_paragraphs {failures warnings : List String} :
    ∀ lines ∈ paragraphs failures warnings, lines ≠ [] :=
  forall_mem_paragraphs (List.cons_ne_nil _ _) (List.cons_ne_nil _ _)

theorem nil_not_mem_of_mem_paragraphs {failures warnings : List String} :
    ∀ lines ∈ paragraphs failures warnings, [] ∉ lines :=
  forall_mem_paragraphs (nil_not_mem_sectionLines _ _) (nil_not_mem_sectionLines _ _)

/-- The heading is that of the warnings, which alone has a `w`. -/
def IsAboutWarnings (lines : List (List Char)) : Prop :=
  ∃ first ∈ lines.head?, 'w' ∈ first

instance : DecidablePred IsAboutWarnings := fun lines =>
  inferInstanceAs (Decidable (∃ first ∈ lines.head?, 'w' ∈ first))

theorem paragraphs_inj {failures failures' warnings warnings' : List String}
    (same : paragraphs failures warnings = paragraphs failures' warnings') :
    failures = failures' ∧ warnings = warnings' := by
  have errors (texts : List String) : ¬IsAboutWarnings (sectionLines "error" texts) := by
    rintro ⟨first, ⟨⟩, member⟩
    rcases mem_heading member with digit | inside | other
    · exact absurd digit (by decide)
    · exact absurd inside (by decide)
    · exact absurd other (by decide)
  have others (texts : List String) : IsAboutWarnings (sectionLines "warning" texts) :=
    ⟨_, rfl, by simp [heading_eq]⟩
  have failing : sectionOf? "error" failures = sectionOf? "error" failures' := by
    simpa [paragraphs, filter_sectionOf?, errors, others] using
      congrArg (List.filter (¬IsAboutWarnings ·)) same
  have warning : sectionOf? "warning" warnings = sectionOf? "warning" warnings' := by
    simpa [paragraphs, filter_sectionOf?, errors, others] using
      congrArg (List.filter (IsAboutWarnings ·)) same
  exact ⟨sectionOf?_inj failing, sectionOf?_inj warning⟩

/-- The lines of a report. -/
def reportLines (failures warnings : List String) : List (List Char) :=
  [[]].intercalate (paragraphs failures warnings)

theorem reportLines_ne (failures warnings : List String) :
    reportLines failures warnings ≠ [[]] := by
  intro single
  cases sections : paragraphs failures warnings with
  | nil =>
    rw [reportLines, sections] at single
    cases single
  | cons lines rest =>
    have listed : lines ∈ paragraphs failures warnings := sections ▸ List.mem_cons_self
    obtain ⟨first, more, rfl⟩ := List.exists_cons_of_ne_nil (ne_nil_of_mem_paragraphs _ listed)
    have head : (reportLines failures warnings).head? = some first := by
      rw [reportLines, sections]
      cases rest <;> simp
    rw [single] at head
    cases head
    exact nil_not_mem_of_mem_paragraphs _ listed List.mem_cons_self

theorem newline_not_mem_reportLines {failures warnings : List String}
    (solid : ∀ text ∈ failures, '\n' ∉ text.toList)
    (solid' : ∀ text ∈ warnings, '\n' ∉ text.toList) :
    ∀ line ∈ reportLines failures warnings, '\n' ∉ line := by
  have plain : ∀ lines ∈ paragraphs failures warnings, ∀ line ∈ lines, '\n' ∉ line :=
    forall_mem_paragraphs (newline_not_mem_sectionLines (by decide) solid)
      (newline_not_mem_sectionLines (by decide) solid')
  intro line member
  rcases mem_of_mem_intercalate member with rfl | ⟨lines, listed, inside⟩
  · exact List.not_mem_nil
  · exact plain lines listed line inside

theorem reportLines_inj {failures failures' warnings warnings' : List String}
    (same : reportLines failures warnings = reportLines failures' warnings') :
    failures = failures' ∧ warnings = warnings' := by
  have parted (failures warnings : List String) : paragraphs failures warnings ≠ [[]] :=
    fun single => ne_nil_of_mem_paragraphs [] (single ▸ List.mem_singleton_self []) rfl
  exact paragraphs_inj (intercalate_inj nil_not_mem_of_mem_paragraphs nil_not_mem_of_mem_paragraphs
    (parted _ _) (parted _ _) same)

theorem toList_summary (ds : Diagnostics) :
    ds.summary.toList = ['\n'].intercalate
      (reportLines (ds.failures.map Diagnostic.text) (ds.warnings.map Diagnostic.text)) := by
  have written (noun : String) (items : List Diagnostic) :
      (if items.isEmpty then [] else [bulleted noun items]).map String.toList =
        (sectionOf? noun (items.map Diagnostic.text)).map ['\n'].intercalate := by
    rw [sectionOf?, List.isEmpty_map]
    cases items.isEmpty with
    | true => rfl
    | false => exact congrArg ([·]) (toList_bulleted noun items)
  have blank : "\n\n".toList = ['\n', '\n'] := rfl
  rw [reportLines, ← intercalate_paragraphs '\n' ne_nil_of_mem_paragraphs, paragraphs,
    List.map_append, ← written, ← written, ← List.map_append, ← blank, ← String.toList_intercalate,
    summary, partition_eq]

/-- Whether each finding is rendered on one line. -/
def OneLine (ds : Diagnostics) : Prop :=
  ∀ d ∈ ds.items, '\n' ∉ d.text.toList

instance (ds : Diagnostics) : Decidable ds.OneLine :=
  inferInstanceAs (Decidable (∀ d ∈ ds.items, _))

/-- Whether two aggregates have the same failures and the same warnings to show. -/
def ListsSame (first second : Diagnostics) : Prop :=
  first.failures.map Diagnostic.text = second.failures.map Diagnostic.text ∧
    first.warnings.map Diagnostic.text = second.warnings.map Diagnostic.text

instance (first second : Diagnostics) : Decidable (first.ListsSame second) :=
  inferInstanceAs (Decidable (_ ∧ _))

theorem summary_eq_iff {first second : Diagnostics} (oneLine : first.OneLine)
    (oneLine' : second.OneLine) : first.summary = second.summary ↔ first.ListsSame second := by
  have solid {ds : Diagnostics} (oneLine : ds.OneLine) (select : Diagnostic → Bool) :
      ∀ text ∈ (ds.items.filter select).map Diagnostic.text, '\n' ∉ text.toList :=
    List.forall_mem_map.mpr fun d member => oneLine d (List.mem_filter.mp member).1
  rw [← String.toList_inj, toList_summary, toList_summary]
  constructor
  · intro same
    exact reportLines_inj (intercalate_inj
      (newline_not_mem_reportLines (solid oneLine _) (solid oneLine _))
      (newline_not_mem_reportLines (solid oneLine' _) (solid oneLine' _))
      (reportLines_ne _ _) (reportLines_ne _ _) same)
  · rintro ⟨failures, warnings⟩
    rw [failures, warnings]

theorem length_failures_add_warnings (ds : Diagnostics) :
    ds.failures.length + ds.warnings.length = ds.size := by
  have others : (fun d => !Diagnostic.isFailure d) = Diagnostic.isWarning :=
    funext fun d => (isWarning_eq d).symm
  have sum := List.length_eq_length_filter_add (l := ds.items) Diagnostic.isFailure
  rw [others] at sum
  exact sum.symm

theorem ListsSame.isEmpty_eq {first second : Diagnostics} (same : first.ListsSame second) :
    first.isEmpty = second.isEmpty := by
  have failures := congrArg List.length same.1
  have warnings := congrArg List.length same.2
  have size : first.items.length = second.items.length := by
    change first.size = second.size
    simp only [List.length_map] at failures warnings
    rw [← length_failures_add_warnings, ← length_failures_add_warnings, failures, warnings]
  rw [isEmpty, isEmpty, Bool.eq_iff_iff, List.isEmpty_iff_length_eq_zero,
    List.isEmpty_iff_length_eq_zero, size]

theorem printout_eq_empty_iff {ds : Diagnostics} : ds.printout = "" ↔ ds.isEmpty = true := by
  rw [printout]
  split <;> simp_all

theorem printout_eq_iff {first second : Diagnostics} (oneLine : first.OneLine)
    (oneLine' : second.OneLine) : first.printout = second.printout ↔ first.ListsSame second := by
  constructor
  · intro same
    have empty : first.isEmpty = second.isEmpty := by
      rw [Bool.eq_iff_iff, ← printout_eq_empty_iff, ← printout_eq_empty_iff, same]
    rw [← summary_eq_iff oneLine oneLine']
    cases noItems : second.isEmpty with
    | true =>
      have items : first.items = second.items :=
        (List.isEmpty_iff.mp (empty.trans noItems)).trans (List.isEmpty_iff.mp noItems).symm
      rw [summary, summary, partition, partition, items]
    | false =>
      rw [printout, printout, empty, noItems, if_neg Bool.false_ne_true, if_neg Bool.false_ne_true]
        at same
      exact (String.append_left_inj "\n").mp same
  · intro same
    rw [printout, printout, same.isEmpty_eq, (summary_eq_iff oneLine oneLine').mpr same]

/-- What an aggregate keeps of the findings that were put into it. -/
structure Keeps (ds : Diagnostics) (entries : List Diagnostic) : Prop where
  items : ds.items = entries
  failures : ds.failures = entries.filter (·.severity = .failure)
  warnings : ds.warnings = entries.filter (·.severity = .warning)
  halves : ds.partition = (ds.failures, ds.warnings)
  size : ds.failures.length + ds.warnings.length = ds.size
  exit : ds.exitStatus = 1 ↔ ∃ d ∈ entries, d.severity = .failure

theorem keeps_items (ds : Diagnostics) : ds.Keeps ds.items where
  items := rfl
  failures := List.filter_congr fun d _ => Bool.beq_eq_decide_eq d.severity .failure
  warnings := List.filter_congr fun d _ => Bool.beq_eq_decide_eq d.severity .warning
  halves := ds.partition_eq
  size := ds.length_failures_add_warnings
  exit := by
    rw [exitStatus, hasFailures]
    simp [Diagnostic.isFailure]

/-- The ways in which findings are put together: none, a list of them, one more, or those of another
aggregate. -/
inductive Assembly
  | new
  | collect (items : List Diagnostic)
  | push (assembly : Assembly) (d : Diagnostic)
  | extend (assembly other : Assembly)

namespace Assembly

def build : Assembly → Diagnostics
  | new => ∅
  | collect items => ⟨items⟩
  | push assembly d => assembly.build.push d
  | extend assembly other => assembly.build ++ other.build

/-- The findings in the order in which they are put in. -/
def entries : Assembly → List Diagnostic
  | new => []
  | collect items => items
  | push assembly d => assembly.entries ++ [d]
  | extend assembly other => assembly.entries ++ other.entries

theorem items_build (assembly : Assembly) : assembly.build.items = assembly.entries := by
  induction assembly with
  | new => rfl
  | collect items => rfl
  | push assembly d ih => exact congrArg (· ++ [d]) ih
  | extend assembly other ih ih' => exact congrArg₂ (· ++ ·) ih ih'

/-- However findings are put together, all of them are kept, and each is rendered with its message
and its place. Where each is rendered on one line, two aggregates are reported by the same text if
and only if they list the same failures and the same warnings. -/
theorem build_reports (first : Assembly) :
    first.build.Keeps first.entries ∧ (∀ d ∈ first.entries, d.RendersAs d.text) ∧
      ∀ second : Assembly, first.build.OneLine → second.build.OneLine →
        (first.build.summary = second.build.summary ↔ first.build.ListsSame second.build) ∧
        (first.build.printout = second.build.printout ↔ first.build.ListsSame second.build) := by
  refine ⟨?_, fun d _ => d.rendersAs_text, ?_⟩
  · rw [← items_build]
    exact keeps_items _
  · intro second oneLine oneLine'
    exact ⟨summary_eq_iff oneLine oneLine', printout_eq_iff oneLine oneLine'⟩

/-- The same findings in another order across the severities, and one that looks like a heading. -/
theorem build_reports_other_order :
    let late : Diagnostic := ⟨.failure, "late", none, some ⟨"a.go", 4, 2⟩⟩
    let stray : Diagnostic := ⟨.warning, "2 errors:", some "http-path", none⟩
    let early : Diagnostic := ⟨.failure, "early", none, some .unknown⟩
    let first : Assembly := .push (.extend (.collect [early]) (.push .new stray)) late
    let second : Assembly := .push (.collect [early, late]) stray
    first.build.OneLine ∧ second.build.OneLine ∧ first.build.items = [early, stray, late] ∧
      second.build.items = [early, late, stray] ∧
      first.build.summary =
        "2 errors:\n\t* early\n\t* a.go:4:2: late\n\n1 warning:\n\t* 2 errors:" ∧
      first.build.summary = second.build.summary ∧
      first.build.printout = second.build.printout ∧ first.build.exitStatus = 1 := by
  intro late stray early first second
  have oneLine : first.build.OneLine := by decide
  have oneLine' : second.build.OneLine := by decide
  obtain ⟨keeps, -, tells⟩ := build_reports first
  obtain ⟨keeps', -⟩ := build_reports second
  obtain ⟨summary, printout⟩ := tells second oneLine oneLine'
  have same : first.build.ListsSame second.build := by decide
  exact ⟨oneLine, oneLine', keeps.items, keeps'.items, by decide +kernel, summary.mpr same,
    printout.mpr same, keeps.exit.mpr ⟨early, by decide, rfl⟩⟩

/-- Findings of several lines can be cut in more than one way. -/
example :
    let failures (texts : List String) : Diagnostics := ⟨texts.map (⟨.failure, ·, none, none⟩)⟩
    (failures ["a\n\t* b", "c"]).summary = (failures ["a", "b\n\t* c"]).summary := by
  decide

end Assembly
end Diagnostics
end DocOptions
