import GatewayDirectory.Table
import GatewayDirectory.Text.Blank

/-!
# Command line arguments

A command takes options with a value and flags without. A value comes from the command line, or else
from a variable of the environment, or else from a default. Arguments are read in order, and the
first fault is the one reported; a value that stands as an argument of its own is checked only when
the next option is read.
-/

namespace GatewayDirectory.Cli

/-- What the value of an option must be. -/
inductive ValueKind where
  | text
  | path
  /-- One of these words. -/
  | choice (words : List String)
  /-- A natural number of 64 bits. -/
  | natural
  /-- A natural number of 32 bits, at least one. -/
  | positive
  /-- What a function accepts, which answers the text it is shown as. -/
  | checked (accept : String → Option String) (complaint : String)

/-- An option with a value. -/
structure OptionSpec where
  long : String
  kind : ValueKind
  environment? : Option String
  default? : Option String
  required : Bool

/-- A flag. -/
structure FlagSpec where
  long : String
  short? : Option Char

/-- A command. -/
structure CommandSpec where
  name : String
  version : String
  options : List OptionSpec
  flags : List FlagSpec

/-- Why arguments are refused. -/
inductive UsageError where
  | unexpectedArgument (text : String)
  | unexpectedValue (value option : String)
  | missingValue (option : String)
  | invalidChoice (value option : String)
  | invalidValue (value option reason : String)
  | repeated (option : String)
  | missingRequired
deriving DecidableEq, Inhabited

/-- The first line of the message of a usage error. -/
def UsageError.message : UsageError → String
  | .unexpectedArgument text => "error: unexpected argument '" ++ text ++ "' found"
  | .unexpectedValue value option =>
    "error: unexpected value '" ++ value ++ "' for '" ++ option ++ "' found; no more were expected"
  | .missingValue option =>
    "error: a value is required for '" ++ option ++ "' but none was supplied"
  | .invalidChoice value option => "error: invalid value '" ++ value ++ "' for '" ++ option ++ "'"
  | .invalidValue value option reason =>
    "error: invalid value '" ++ value ++ "' for '" ++ option ++ "': " ++ reason
  | .repeated option => "error: the argument '" ++ option ++ "' cannot be used multiple times"
  | .missingRequired => "error: the following required arguments were not provided:"

/-- What a command line asks for. -/
inductive Request where
  | version
  /-- The values of the options and the flags that are set. -/
  | run (values : Table String) (flags : List String)
deriving Inhabited

/-- How an option is named in messages. -/
def OptionSpec.shown (o : OptionSpec) : String :=
  let placeholder := o.long.map fun c => if c = '-' then '_' else c.toUpper
  "--" ++ o.long ++ " <" ++ placeholder ++ ">"

/-- How a flag is named in messages. -/
def FlagSpec.shown (f : FlagSpec) : String := "--" ++ f.long

/-- The integer that a text spells, or why it spells none in the range. -/
def readInteger (signed : Bool) (s : String) : Except String Int :=
  let cs := s.toList
  let (negative, digits) := match cs with
    | '+' :: rest => (false, rest)
    | '-' :: rest => if signed then (true, rest) else (false, cs)
    | _ => (false, cs)
  if cs.isEmpty then .error "cannot parse integer from empty string"
  else
    match Text.natural? digits with
    | none => .error "invalid digit found in string"
    | some n =>
      if signed then
        if negative then
          if 0x8000000000000000 < n then .error "number too small to fit in target type"
          else .ok (-n)
        else if 0x8000000000000000 ≤ n then .error "number too large to fit in target type"
        else .ok n
      else if UInt64.size ≤ n then .error "number too large to fit in target type"
      else .ok n

/-- Checks a value, and answers it as the command gets it. -/
def OptionSpec.check (o : OptionSpec) (value : String) : Except UsageError String :=
  match o.kind with
  | .text => .ok value
  | .path => if value = "" then .error (.missingValue o.shown) else .ok value
  | .choice words =>
    if words.contains value then .ok value
    else if value = "" then .error (.missingValue o.shown)
    else .error (.invalidChoice value o.shown)
  | .natural =>
    match readInteger false value with
    | .ok n => .ok (toString n)
    | .error reason => .error (.invalidValue value o.shown reason)
  | .positive =>
    match readInteger true value with
    | .error reason => .error (.invalidValue value o.shown reason)
    | .ok n =>
      if 1 ≤ n ∧ n ≤ 4294967295 then .ok (toString n)
      else .error (.invalidValue value o.shown (toString n ++ " is not in 1..=4294967295"))
  | .checked accept complaint =>
    match accept value with
    | some shown => .ok shown
    | none => .error (.invalidValue value o.shown complaint)

/-- What has been read of a command line. -/
structure Reading where
  values : Table String
  flags : List String
  /-- An option whose value is still to be checked, if the value has been read at all. -/
  pending : Option (OptionSpec × Option String)

namespace Reading

/-- Nothing read yet. -/
def start : Reading := ⟨.empty, [], none⟩

/-- Takes a value for an option. -/
def give (r : Reading) (o : OptionSpec) (value : String) : Except UsageError Reading := do
  if r.values.contains o.long then .error (.repeated o.shown)
  else do
    let value ← o.check value
    .ok { r with values := r.values.insert o.long value, pending := none }

/-- Settles the option that was read last. -/
def settle (r : Reading) : Except UsageError Reading :=
  match r.pending with
  | none => .ok r
  | some (o, some value) => r.give o value
  | some (o, none) => .error (.missingValue o.shown)

/-- Sets a flag. -/
def setFlag (r : Reading) (f : FlagSpec) : Except UsageError Reading := do
  let r ← r.settle
  if r.flags.contains f.long then .error (.repeated f.shown)
  else .ok { r with flags := f.long :: r.flags }

end Reading

/-- An argument split at its first equals sign. -/
def splitValue (arg : String) : String × Option String :=
  let cs := arg.toList
  let name := cs.takeWhile (· != '=')
  match cs.drop name.length with
  | [] => (arg, none)
  | _ :: value => (String.ofList name, some (String.ofList value))

/-- Reads a run of short flags; `none` asks for the version. -/
def readShort (spec : CommandSpec) : List Char → Reading → Except UsageError (Option Reading)
  | [], r => .ok (some r)
  | c :: rest, r =>
    match spec.flags.find? fun f => f.short? == some c with
    | some f => do readShort spec rest (← r.setFlag f)
    | none =>
      if c = 'V' then do
        let _ ← r.settle
        .ok none
      else .error (.unexpectedArgument ("-" ++ String.singleton c))

/-- Reads the arguments of a command line; `none` asks for the version. -/
def readArguments (spec : CommandSpec) : List String → Reading → Except UsageError (Option Reading)
  | [], r => do .ok (some (← r.settle))
  | arg :: rest, r =>
    match arg.toList with
    | '-' :: '-' :: [] =>
      match rest with
      | [] => do .ok (some (← r.settle))
      | extra :: _ => .error (.unexpectedArgument extra)
    | '-' :: '-' :: long =>
      let (name, value?) := splitValue (String.ofList long)
      match spec.options.find? fun o => o.long == name with
      | some o => do
        let r ← r.settle
        match value? with
        | some value => readArguments spec rest (← r.give o value)
        | none => readArguments spec rest { r with pending := some (o, none) }
      | none =>
        match spec.flags.find? fun f => f.long == name with
        | some f =>
          match value? with
          | some value => .error (.unexpectedValue value f.shown)
          | none => do readArguments spec rest (← r.setFlag f)
        | none =>
          if name = "version" then
            match value? with
            | some value => .error (.unexpectedValue value "--version")
            | none => do
              let _ ← r.settle
              .ok none
          else .error (.unexpectedArgument ("--" ++ name))
    | '-' :: c :: short =>
      do
        match ← readShort spec (c :: short) r with
        | none => .ok none
        | some r => readArguments spec rest r
    | _ =>
      match r.pending with
      | some (o, none) => readArguments spec rest { r with pending := some (o, some arg) }
      | _ => .error (.unexpectedArgument arg)

/-- Fills an option that the command line leaves out from the environment or its default. -/
def fillOption (env : String → Option String) (values : Table String) (o : OptionSpec) :
    Except UsageError (Table String) :=
  if values.contains o.long then .ok values
  else
    match o.environment?.bind env with
    | some value => do .ok (values.insert o.long (← o.check value))
    | none => .ok values

/-- Fills an option that neither the command line nor the environment gives from its default. -/
def defaultOption (values : Table String) (o : OptionSpec) : Table String :=
  match o.default? with
  | some value => if values.contains o.long then values else values.insert o.long value
  | none => values

/-- What a command line asks a command to do. -/
def CommandSpec.read (spec : CommandSpec) (env : String → Option String) (args : List String) :
    Except UsageError Request := do
  match ← readArguments spec args .start with
  | none => .ok .version
  | some r =>
    let values ← spec.options.foldlM (fillOption env) r.values
    if spec.options.all fun o => !o.required || values.contains o.long then
      .ok (.run (spec.options.foldl defaultOption values) r.flags)
    else .error .missingRequired

end GatewayDirectory.Cli
