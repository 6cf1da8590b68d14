import DocOptions.Schema.Decode

/-! Reports one after the other. Appending them is associative with the empty report as its unit, so
the report of several fields is the same however the fields are grouped. -/

namespace DocOptions

namespace Report

@[simp] theorem diagnostics_append (first second : Report) :
    (first ++ second).diagnostics = first.diagnostics ++ second.diagnostics := rfl

@[simp] theorem trace_append (first second : Report) :
    (first ++ second).trace = first.trace.override second.trace := rfl

@[simp] theorem consumed_append (first second : Report) :
    (first ++ second).consumed = first.consumed.override second.consumed := rfl

theorem eq_of_parts {left right : Report}
    (diagnostics : left.diagnostics.items = right.diagnostics.items)
    (trace : left.trace = right.trace) (consumed : left.consumed = right.consumed) :
    left = right := by
  obtain ⟨⟨items⟩, _, _⟩ := left
  obtain ⟨⟨items'⟩, _, _⟩ := right
  cases diagnostics
  cases trace
  cases consumed
  rfl

theorem append_assoc (a b c : Report) : a ++ b ++ c = a ++ (b ++ c) := by
  apply eq_of_parts
  · exact List.append_assoc _ _ _
  · exact TextMap.override_assoc _ _ _
  · exact TextMap.override_assoc _ _ _

@[simp] theorem empty_append (report : Report) : ∅ ++ report = report := by
  apply eq_of_parts
  · rfl
  · exact TextMap.empty_override _
  · exact TextMap.empty_override _

@[simp] theorem append_empty (report : Report) : report ++ ∅ = report := by
  apply eq_of_parts
  · exact List.append_nil _
  · exact TextMap.override_empty _
  · exact TextMap.override_empty _

end Report

/-- Two reports of the same traces and consumed keys. -/
structure Report.SameMarks (left right : Report) : Prop where
  trace : left.trace = right.trace
  consumed : left.consumed = right.consumed

namespace Report.SameMarks

theorem refl (report : Report) : report.SameMarks report := ⟨rfl, rfl⟩

theorem append {first first' second second' : Report} (same : first.SameMarks first')
    (same' : second.SameMarks second') : (first ++ second).SameMarks (first' ++ second') := by
  constructor
  · rw [trace_append, trace_append, same.trace, same'.trace]
  · rw [consumed_append, consumed_append, same.consumed, same'.consumed]

theorem ofDiagnostics (left right : List Diagnostic) :
    (Report.ofDiagnostics left).SameMarks (.ofDiagnostics right) := ⟨rfl, rfl⟩

end Report.SameMarks

end DocOptions
