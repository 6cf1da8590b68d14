import DocOptions.Json.Write
import DocOptions.Plugin.Loading

/-! What a run prints: the loaded configuration, where its values came from, and the findings. -/

namespace DocOptions

/-- A line for each bound field: its path, and the place and text of the directive it was bound
from, with tabs between them. -/
def Trace.lines (trace : Trace) : String :=
  String.join (trace.entries.map fun (path, source) =>
    s!"{path}\t{source.position.text}\t{source.directive.text}\n")

/-- The configuration as JSON, then the trace if it is asked for and not empty. -/
def Loaded.printout (loaded : Loaded Json) (withTrace : Bool) : String :=
  let trace := if withTrace && !TextMap.isEmpty loaded.trace then "\n" ++ Trace.lines loaded.trace
    else ""
  loaded.value.write ++ "\n" ++ trace

namespace Diagnostics

/-- The summary as a line of its own; no findings print nothing. -/
def printout (ds : Diagnostics) : String :=
  if ds.isEmpty then "" else ds.summary ++ "\n"

/-- One if there is a failure; warnings alone are zero. -/
def exitStatus (ds : Diagnostics) : UInt8 :=
  if ds.hasFailures then 1 else 0

end Diagnostics
end DocOptions
