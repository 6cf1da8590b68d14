import DocOptions.Command.Line
import DocOptions.Directory
import DocOptions.Plugin.Registry
import DocOptions.Printout

/-! Carrying out command lines in a working directory. -/

namespace DocOptions

/-- What a run left behind. -/
inductive Outcome
  /-- The command line was not carried out. -/
  | usage (error : UsageError)
  /-- The settings could not be loaded. -/
  | unreadableSettings
  | invalidSettings (message : String)
  /-- The command could not be carried out. -/
  | failed (message : String)
  | finished (status : UInt8) (output errors : String)
  deriving DecidableEq

namespace Outcome

def status : Outcome → UInt8
  | usage e => if e.isRequest then 0 else 2
  | finished status _ _ => status
  | _ => 1

/-- The text for the standard output. -/
def output : Outcome → String
  | usage e => if e.isRequest then s!"{e.message}\n" else ""
  | finished _ output _ => output
  | _ => ""

/-- The text for the error output. -/
def errors : Outcome → String
  | usage e => if e.isRequest then "" else s!"error: {e.message}\n"
  | unreadableSettings => "Error: Failed to load configuration\n"
  | invalidSettings message => s!"Error: Invalid configuration: {message}\n"
  | failed message => s!"Error: {message}\n"
  | finished _ _ errors => errors

end Outcome

namespace Command

/-- Reads lines; the ones that are no directives are listed as errors. -/
def runParse (lines : List String) : Outcome :=
  let results := lines.map fun line => (line, Directive.read line)
  let directives := results.filterMap fun (_, result) => result.toOption
  let errors := results.filterMap fun (line, result) =>
    match result with
    | .ok _ => none
    | .error e => some s!"{line}: {e.message}\n"
  .finished (if errors.isEmpty then 0 else 1)
    ((Json.array (directives.map Directive.toJson)).write ++ "\n") (String.join errors)

/-- Loads a model. The plugin is looked up before the model is read. -/
def runCheck (directory : Directory) (plugin model : String) (trace : Bool) : Outcome :=
  let unreadable := Outcome.failed s!"Failed to read source model {model}"
  match PluginRegistry.builtin.get plugin with
  | .error e => .failed e.message
  | .ok plugin =>
    match directory.read? model with
    | none => unreadable
    | some text =>
      match plugin.loadText .standard text with
      | .error .malformedModule => unreadable
      | .error e => .failed e.message
      | .ok loaded =>
        .finished loaded.diagnostics.exitStatus (loaded.printout trace)
          loaded.diagnostics.printout

def runPlugins : Outcome :=
  let lines := PluginRegistry.builtin.plugins.map fun plugin => s!"{plugin.name}\t{plugin.scope}\n"
  .finished 0 (String.join lines) ""

def run (directory : Directory) (settings : Settings) : Command → Outcome
  | parse lines => runParse lines
  | check plugin model trace => runCheck directory plugin model (trace || settings.output.trace)
  | plugins => runPlugins

end Command

/-- Reads a command line, loads the settings, and carries the command out. -/
def runProgram (directory : Directory) (environment : List (String × String)) (args : List String) :
    Outcome :=
  match CommandLine.read args with
  | .error e => .usage e
  | .ok line =>
    match Settings.load line.config directory environment with
    | none => .unreadableSettings
    | some settings =>
      match settings.fault? with
      | some message => .invalidSettings message
      | none => line.command.run directory settings

end DocOptions
