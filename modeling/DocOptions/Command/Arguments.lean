/-! Reading command lines against the arguments that a command takes. Arguments are taken from left
to right. The values of an argument are checked when the next argument begins, so the first fault
that is found so is the one that is reported. -/

namespace DocOptions

/-- Why a command line was not carried out: it was at fault, or it asked for help. -/
inductive UsageError
  | displayHelp
  | displayHelpOnMissing
  | displayVersion
  | missingRequired
  | missingSubcommand
  | unknownArgument
  | invalidSubcommand
  | invalidValue
  | tooManyValues
  | repeated
  deriving DecidableEq

/-- What an option does. -/
inductive OptionKind
  | help
  | version
  | switch
  /-- It takes a value, which may have to be more than an empty text. -/
  | value (nonEmpty : Bool)
  deriving DecidableEq

structure OptionSpec where
  long : String
  short : Option Char
  kind : OptionKind
  deriving DecidableEq

/-- Arguments that are known by their place. They are required. -/
structure OperandSpec where
  name : String
  /-- Whether all further operands belong to it. -/
  many : Bool
  nonEmpty : Bool
  deriving DecidableEq

/-- What a command takes. -/
structure CommandSpec where
  options : List OptionSpec
  required : List String
  operand : Option OperandSpec
  subcommands : List String

/-- An argument whose values are still being read. -/
structure Pending where
  name : String
  nonEmpty : Bool
  /-- Whether more values may be added at another place. -/
  repeatable : Bool
  values : List String

/-- A command line that has been read up to some place. -/
structure Reading where
  /-- The arguments that have been checked, with their values. -/
  given : List (String × List String)
  pending : Option Pending
  /-- Whether the pending argument still waits for its value. -/
  awaiting : Bool
  /-- Whether only operands follow, after a double hyphen. -/
  operandsOnly : Bool

namespace Reading

def start : Reading := ⟨[], none, false, false⟩

def has (reading : Reading) (name : String) : Bool :=
  (reading.given.lookup name).isSome

/-- Adds values of an argument. -/
def add (reading : Reading) (name : String) (values : List String) : Reading :=
  let earlier := (reading.given.lookup name).getD []
  { reading with
    given := (name, earlier ++ values) :: reading.given.filter (·.1 != name) }

/-- Checks the pending argument: it has a value, it is the only one unless it is repeatable, and the
value is not empty where that matters. -/
def settle (reading : Reading) : Except UsageError Reading :=
  match reading.pending with
  | none => .ok { reading with awaiting := false }
  | some pending =>
    if pending.values.isEmpty then .error .invalidValue
    else if !pending.repeatable && reading.has pending.name then .error .repeated
    else if pending.nonEmpty && pending.values.any (·.isEmpty) then .error .invalidValue
    else .ok { (reading.add pending.name pending.values) with pending := none, awaiting := false }

/-- Begins an option whose value follows or is attached. -/
def beginValue (reading : Reading) (option : OptionSpec) (nonEmpty : Bool)
    (attached : Option String) : Except UsageError Reading := do
  let reading ← reading.settle
  let pending : Pending := ⟨option.long, nonEmpty, false, attached.toList⟩
  match attached with
  | some _ => ({ reading with pending := some pending } : Reading).settle
  | none => return { reading with pending := some pending, awaiting := true }

/-- Takes an option that has no value. -/
def takeSwitch (reading : Reading) (option : OptionSpec) : Except UsageError Reading := do
  let reading ← reading.settle
  match option.kind with
  | .help => throw .displayHelp
  | .version => throw .displayVersion
  | _ => if reading.has option.long then throw .repeated else return reading.add option.long []

/-- Takes an option by its long name, with what follows an equals sign. -/
def takeLong (spec : CommandSpec) (reading : Reading) (body : List Char) :
    Except UsageError Reading :=
  let name := String.ofList (body.takeWhile (· != '='))
  let attached :=
    match body.dropWhile (· != '=') with
    | [] => none
    | _ :: value => some (String.ofList value)
  match spec.options.find? (·.long == name) with
  | none => .error .unknownArgument
  | some option =>
    match option.kind, attached with
    | .value nonEmpty, attached => reading.beginValue option nonEmpty attached
    | _, some _ => .error .tooManyValues
    | _, none => reading.takeSwitch option

/-- Takes options by their short names, which may be written together. The value of the last one may
follow at once or after an equals sign. -/
def takeShort (spec : CommandSpec) (reading : Reading) : List Char → Except UsageError Reading
  | [] => .ok reading
  | c :: rest =>
    match spec.options.find? (·.short == some c) with
    | none => .error .unknownArgument
    | some option =>
      match option.kind with
      | .value nonEmpty =>
        let attached :=
          match rest with
          | [] => none
          | '=' :: value => some (String.ofList value)
          | value => some (String.ofList value)
        reading.beginValue option nonEmpty attached
      | _ => do takeShort spec (← reading.takeSwitch option) rest

/-- Takes an operand. -/
def takeOperand (spec : CommandSpec) (reading : Reading) (arg : String) :
    Except UsageError Reading :=
  let unknown : UsageError :=
    if !spec.subcommands.isEmpty && !(reading.operandsOnly && arg ∈ spec.subcommands) then
      .invalidSubcommand
    else .unknownArgument
  match spec.operand with
  | none => .error unknown
  | some operand =>
    match reading.pending with
    | some pending =>
      if pending.name = operand.name then
        if operand.many then
          .ok { reading with pending := some { pending with values := pending.values ++ [arg] } }
        else .error unknown
      else fresh operand unknown
    | none => fresh operand unknown
where
  /-- The operand after another argument or at the start. -/
  fresh (operand : OperandSpec) (unknown : UsageError) : Except UsageError Reading :=
    if !operand.many && reading.has operand.name then .error unknown
    else do
      let reading ← reading.settle
      return { reading with
        pending := some ⟨operand.name, operand.nonEmpty, operand.many, [arg]⟩ }

/-- Takes one argument that is no subcommand. -/
def take (spec : CommandSpec) (reading : Reading) (arg : String) : Except UsageError Reading :=
  if reading.operandsOnly then reading.takeOperand spec arg
  else
    match arg.toList with
    | ['-', '-'] => .ok { reading with operandsOnly := true }
    | '-' :: '-' :: body => reading.takeLong spec body
    | '-' :: c :: body => reading.takeShort spec (c :: body)
    | _ =>
      match reading.awaiting, reading.pending with
      | true, some pending =>
        .ok { reading with
          pending := some { pending with values := pending.values ++ [arg] }, awaiting := false }
      | _, _ => reading.takeOperand spec arg

end Reading

/-- The arguments of a command that were read, and the subcommand with what follows it. -/
structure Invocation where
  reading : Reading
  subcommand : Option (String × List String)

namespace CommandSpec

/-- Reads arguments up to a subcommand. A word is no subcommand where the value of an option is
awaited or after a double hyphen. -/
def readFrom (spec : CommandSpec) (reading : Reading) :
    List String → Except UsageError Invocation
  | [] => do return ⟨← reading.settle, none⟩
  | arg :: rest =>
    if arg ∈ spec.subcommands ∧ !reading.awaiting ∧ !reading.operandsOnly then
      .ok ⟨reading, some (arg, rest)⟩
    else
      match reading.take spec arg with
      | .error e => .error e
      | .ok reading => spec.readFrom reading rest

/-- Whether everything required was given. -/
def complete (spec : CommandSpec) (reading : Reading) : Bool :=
  spec.required.all reading.has && spec.operand.all fun operand => reading.has operand.name

end CommandSpec
end DocOptions
