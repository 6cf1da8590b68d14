import DocOptions.Directive.Write

/-! Which directive set which field. -/

namespace DocOptions

/-- Dotted paths of fields, such as `Options.query.values[1].name`, each with the directive that
the field was bound from. -/
abbrev Trace := TextMap Occurrence

namespace Trace

/-- Adds the entries of another trace, with their paths below `path`. -/
def mergeUnder (trace : Trace) (path : String) (other : Trace) : Trace :=
  trace.insertMany (other.entries.map fun (p, entry) => (s!"{path}.{p}", entry))

end Trace
end DocOptions
