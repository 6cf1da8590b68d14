import DocOptions.Proofs.Directive.Boundary

/-! Lines that go on after blanks. Where a line ends with nothing open, more text adds the options
and parameters that it has after a marker of its own; the key stays. -/

namespace DocOptions

open Text

/-- Trimming a continued line drops the blanks at the end of what was added. -/
theorem tokenChars_trimChars {line gap rest : List Char} (start : SolidStart line)
    (finish : SolidEnd line) (nonempty : line ≠ [])
    (closed : ScanState.start.after line = .start) (parted : gap ≠ [])
    (blanks : ∀ c ∈ gap, isBlank c = true) :
    tokenChars (trimChars (line ++ (gap ++ rest))) =
      tokenChars line ++ tokenChars (dropBlankEnd rest) := by
  rw [trimChars_append start finish nonempty]
  by_cases empty : dropBlankEnd rest = []
  · have dropped : dropBlankEnd (gap ++ rest) = [] := by
      refine dropBlankEnd_of_blank fun c member => ?_
      exact (List.mem_append.mp member).elim (blanks c) (List.rdropWhile_eq_nil_iff.mp empty c)
    rw [empty, dropped, tokenChars_nil, List.append_nil, List.append_nil]
  · rw [dropBlankEnd_append_of_ne_nil gap empty, tokenChars_append closed parted blanks]

namespace Directive

theorem read_append {line gap : String} (trimmed : trim line = line)
    (marked : line.toList.head? = some marker) (closed : EndsClosed line) (parted : gap ≠ "")
    (blanks : ∀ c ∈ gap.toList, isBlank c = true) (rest : String) :
    read (line ++ gap ++ rest) =
      ofChars (tokenChars line.toList ++ tokenChars (dropBlankEnd rest.toList)) := by
  obtain ⟨more, chars⟩ := List.head?_eq_some_iff.mp marked
  have own : trimChars line.toList = line.toList := by rw [← toList_trim, trimmed]
  have start : SolidStart line.toList := own ▸ solidStart_trimChars line.toList
  have finish : SolidEnd line.toList := own ▸ solidEnd_trimChars line.toList
  have nonempty : line.toList ≠ [] := by simp [chars]
  have tokens : tokenChars (trimChars (line.toList ++ (gap.toList ++ rest.toList))) = _ :=
    tokenChars_trimChars start finish nonempty (endsClosed_iff.mp closed) (by simpa using parted)
      blanks
  have whole : (trim (line ++ gap ++ rest)).toList =
      line.toList ++ dropBlankEnd (gap.toList ++ rest.toList) := by
    rw [toList_trim, String.toList_append, String.toList_append, List.append_assoc,
      trimChars_append start finish nonempty]
  rw [trimChars_append start finish nonempty, chars, List.cons_append] at tokens
  rw [chars, List.cons_append] at whole
  rw [read_of_marker whole, tokens, chars]

/-- A line that is continued after blanks is read as the line, with the options and parameters that
the added text has behind a marker. -/
theorem read_continued {line gap : String} (trimmed : trim line = line)
    (marked : line.toList.head? = some marker) (closed : EndsClosed line) (parted : gap ≠ "")
    (blanks : ∀ c ∈ gap.toList, isBlank c = true) (rest : String) :
    ∃ first second, read line = .ok first ∧ read ("@ " ++ rest) = .ok second ∧
      read (line ++ gap ++ rest) = .ok {
        key := first.key
        options := first.options ++ second.options
        params := first.params.override second.params } := by
  obtain ⟨more, chars⟩ := List.head?_eq_some_iff.mp marked
  obtain ⟨head, others, tokens⟩ := exists_head_tokenChars more
  have own := read_of_marker (trimmed.symm ▸ chars)
  have space : ∀ c ∈ " ".toList, isBlank c = true := List.all_eq_true.mp rfl
  have added : read ("@" ++ " " ++ rest) = _ :=
    read_append (by decide +kernel) rfl (by decide +kernel) (by decide) space rest
  have both := read_append trimmed marked closed parted blanks rest
  have lone : tokenChars "@".toList = [[⟨marker, .bare⟩]] := by decide +kernel
  rw [lone, List.singleton_append] at added
  rw [tokens] at own
  rw [chars, tokens, List.cons_append, ofChars_append] at both
  exact ⟨_, _, own, added, both⟩

/-- A parameter of both parts, other white space between them, and a span that is never closed. -/
theorem read_continued_open_end :
    ∃ a, read ("@k 'a b' n=1 m=x" ++ "\t\u3000" ++ "n=2 \"c d  ") = .ok a ∧ a.key = "k" ∧
      a.options = ["a b", "\"c d"] ∧ a.params.get? "n" = some "2" ∧
      a.params.get? "m" = some "x" := by
  have white : ∀ c ∈ "\t\u3000".toList, isBlank c = true := List.all_eq_true.mp rfl
  obtain ⟨first, second, own, added, both⟩ := read_continued
    (by decide +kernel : trim "@k 'a b' n=1 m=x" = _) rfl (by decide +kernel)
    (by decide : "\t\u3000" ≠ "") white "n=2 \"c d  "
  have isFirst : read "@k 'a b' n=1 m=x" =
      .ok ⟨"k", ["a b"], .ofList [("n", "1"), ("m", "x")]⟩ := by
    rw [read_of_marker (by decide +kernel : _ = marker :: "k 'a b' n=1 m=x".toList)]
    decide +kernel
  have isSecond : read ("@ " ++ "n=2 \"c d  ") = .ok ⟨"", ["\"c d"], .ofList [("n", "2")]⟩ := by
    rw [read_of_marker (by decide +kernel : _ = marker :: " n=2 \"c d".toList)]
    decide +kernel
  obtain rfl := Except.ok.inj (own.symm.trans isFirst)
  obtain rfl := Except.ok.inj (added.symm.trans isSecond)
  refine ⟨_, both, rfl, rfl, ?_, ?_⟩
  · decide +kernel
  · decide +kernel

end Directive
end DocOptions
