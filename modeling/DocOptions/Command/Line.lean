import DocOptions.Command.Arguments
import DocOptions.Settings.Basic

/-! The command line of the program: an option for the settings file, and a command. -/

namespace DocOptions

inductive Command
  /-- Read directives from lines and print them. -/
  | parse (lines : List String)
  /-- Load a model with a plugin and print the configuration. -/
  | check (plugin model : String) (trace : Bool)
  /-- List the plugins. -/
  | plugins
  deriving DecidableEq

structure CommandLine where
  /-- The settings file. -/
  config : Option String
  command : Command
  deriving DecidableEq

namespace UsageError

/-- A short explanation; help and version ask for a text, which is not a fault. -/
def message : UsageError → String
  | displayHelp =>
    "mosaic parse <line>...\nmosaic check --plugin <name> [--trace] <model>\nmosaic plugins\n" ++
      "Every command takes --config <file>."
  | displayVersion => "mosaic 0.1.0"
  | missingRequired => "a required argument is missing"
  | displayHelpOnMissing | missingSubcommand => "a command is missing"
  | unknownArgument => "there is no such argument"
  | invalidSubcommand => "there is no such command"
  | invalidValue => "an option needs a value"
  | tooManyValues => "an option takes no value"
  | repeated => "an option is given twice"

/-- Whether the command line asked for the text. -/
def isRequest : UsageError → Bool
  | displayHelp | displayVersion => true
  | _ => false

end UsageError

namespace CommandLine

def helpOption : OptionSpec := ⟨"help", some 'h', .help⟩

/-- The option for the settings file, which may stand before or after the command. -/
def configOption : OptionSpec := ⟨"config", none, .value true⟩

def rootSpec : CommandSpec where
  options := [configOption, helpOption, ⟨"version", some 'V', .version⟩]
  required := []
  operand := none
  subcommands := ["parse", "check", "plugins", "help"]

def parseSpec : CommandSpec where
  options := [configOption, helpOption]
  required := []
  operand := some ⟨"lines", true, false⟩
  subcommands := []

def checkSpec : CommandSpec where
  options :=
    [⟨"plugin", some 'p', .value false⟩, ⟨"trace", none, .switch⟩, configOption, helpOption]
  required := ["plugin"]
  operand := some ⟨"model", false, true⟩
  subcommands := []

def pluginsSpec : CommandSpec where
  options := [configOption, helpOption]
  required := []
  operand := none
  subcommands := []

/-- Help about a command, which is named by words; the command `help` has none below it. -/
def readHelp : List String → UsageError
  | [] => .displayHelp
  | [word] => if word ∈ rootSpec.subcommands then .displayHelp else .invalidSubcommand
  | _ => .invalidSubcommand

/-- The last value of an argument. -/
def value? (reading : Reading) (name : String) : Option String :=
  (reading.given.lookup name).bind List.getLast?

/-- Reads the arguments of a command. -/
def readCommand (name : String) (args : List String) : Except UsageError (Reading × Command) := do
  let spec :=
    match name with
    | "parse" => parseSpec
    | "check" => checkSpec
    | _ => pluginsSpec
  let reading := (← spec.readFrom .start args).reading
  if !spec.complete reading then throw .missingRequired
  let command :=
    match name with
    | "parse" => .parse ((reading.given.lookup "lines").getD [])
    | "check" =>
      .check ((value? reading "plugin").getD "") ((value? reading "model").getD "")
        (reading.has "trace")
    | _ => .plugins
  return (reading, command)

/-- Reads a command line. A settings file after the command goes before one in front of it. -/
def read (args : List String) : Except UsageError CommandLine := do
  let root ← rootSpec.readFrom .start args
  match root.subcommand with
  | none =>
    if root.reading.given.isEmpty then throw .displayHelpOnMissing else throw .missingSubcommand
  | some ("help", words) => throw (readHelp words)
  | some (name, args) =>
    let (inner, command) ← readCommand name args
    let outer ← root.reading.settle
    return ⟨(value? inner "config").orElse fun _ => value? outer "config", command⟩

/-- The files that a command line may need. -/
def paths (line : CommandLine) : List String :=
  Settings.paths line.config ++
    match line.command with
    | .check _ model _ => [model]
    | _ => []

end CommandLine
end DocOptions
