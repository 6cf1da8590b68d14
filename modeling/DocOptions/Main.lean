import DocOptions.Command.Run

/-! The program. It gathers the files that its command line names and the environment, and prints
the outcome; all decisions are made by `runProgram`. -/

namespace DocOptions

/-- The files at some paths, as far as they can be read. -/
def gather (paths : List String) : IO Directory :=
  paths.foldlM (fun (directory : Directory) (path : String) =>
    try return directory.insert path (← IO.FS.readFile path)
    catch _ => return directory) ∅

/-- The environment of this process, which the system lists in a file. -/
def environment : IO (List (String × String)) := do
  let some listed ←
    (try return String.fromUTF8? (← IO.FS.readBinFile "/proc/self/environ") catch _ => return none)
    | return []
  return (Text.cut listed '\x00').map fun entry =>
    let chars := entry.toList
    (String.ofList (chars.takeWhile (· != '=')),
      String.ofList ((chars.dropWhile (· != '=')).drop 1))

end DocOptions

def main (args : List String) : IO UInt32 := do
  let paths :=
    match DocOptions.CommandLine.read args with
    | .ok line => line.paths
    | .error _ => []
  let directory ← DocOptions.gather paths
  let outcome := DocOptions.runProgram directory (← DocOptions.environment) args
  (← IO.getStdout).putStr outcome.output
  (← IO.getStderr).putStr outcome.errors
  return outcome.status.toUInt32
