import GeoTables.Service.Configuration

/-!
# Arguments of the command line

An option is given by its name after two dashes, or by its letter after one,
and takes one value: the rest of the argument, with or without an equals sign
in between, or the next argument.  An argument that starts with a dash is never
a value, save a single dash.

A value that stands in an argument of its own is only looked at when the next
option begins or the arguments end.  Until then an argument that is not known
is the fault that counts.
-/

namespace GeoTables

/-- An option of the command line. -/
inductive CommandOption where
  | listen
  | dataDirectory
  | tables
  | apiName
  | timeout
  | maxLimit
  | cacheCapacity
  deriving DecidableEq, Repr

namespace CommandOption

/-- All options. -/
def all : List CommandOption :=
  [.listen, .dataDirectory, .tables, .apiName, .timeout, .maxLimit, .cacheCapacity]

/-- The name of the option. -/
def name : CommandOption → String
  | .listen => "listen"
  | .dataDirectory => "data-dir"
  | .tables => "tables"
  | .apiName => "api-name"
  | .timeout => "request-timeout-ms"
  | .maxLimit => "max-limit"
  | .cacheCapacity => "cache-capacity"

/-- The letter of the option, if it has one. -/
def letter? : CommandOption → Option Char
  | .listen => some 'l'
  | .dataDirectory => some 'd'
  | .tables => some 't'
  | _ => none

end CommandOption

/-- Why the arguments cannot be used. -/
inductive ArgumentFault where
  | unknownArgument
  | missingValue
  | invalidValue
  | repeated
  | superfluousValue
  | helpRequested
  deriving DecidableEq, Repr

namespace ArgumentFault

/-- The wording of a fault. -/
def message : ArgumentFault → String
  | .unknownArgument => "unexpected argument"
  | .missingValue => "a value is required"
  | .invalidValue => "invalid value"
  | .repeated => "an option cannot be used multiple times"
  | .superfluousValue => "an option takes no value"
  | .helpRequested => "help requested"

end ArgumentFault

/-- The options read so far, and the one whose value may still be to come. -/
structure ArgumentState where
  configuration : Configuration
  given : List CommandOption
  pending : Option (CommandOption × Option (List Char))

namespace ArgumentState

/-- No option has been read. -/
def initial : ArgumentState := ⟨.standard, [], none⟩

/-- The number of 64 bits that a value gives. -/
def numberOf (value : List Char) : Except ArgumentFault Nat :=
  match Text.unsignedWithin? 64 value with
  | some number => .ok number
  | none => .error .invalidValue

/-- The path that a value gives, which may not be empty. -/
def pathOf (value : List Char) : Except ArgumentFault String :=
  if value.isEmpty then .error .missingValue else .ok (String.ofList value)

/-- Set an option of a configuration. -/
def assign
    (configuration : Configuration)
    (option : CommandOption)
    (value : List Char) :
    Except ArgumentFault Configuration :=
  match option with
  | .listen => .ok { configuration with listen := String.ofList value }
  | .dataDirectory => do return { configuration with dataDirectory := ← pathOf value }
  | .tables => do return { configuration with tablesPath := some (← pathOf value) }
  | .apiName =>
      .ok { configuration with apiName := Text.withoutSlashes (String.ofList value) }
  | .timeout => do return { configuration with timeoutMilliseconds := ← numberOf value }
  | .maxLimit => do return { configuration with maxLimit := some (← numberOf value) }
  | .cacheCapacity => do return { configuration with cacheCapacity := ← numberOf value }

/-- Take an option with its value, which may be given only once. -/
def take
    (state : ArgumentState)
    (option : CommandOption)
    (value : List Char) :
    Except ArgumentFault ArgumentState :=
  if state.given.contains option then
    .error .repeated
  else do
    return {
      configuration := ← assign state.configuration option value
      given := option :: state.given
      pending := none }

/-- Take the option whose value was to come. -/
def settle (state : ArgumentState) : Except ArgumentFault ArgumentState :=
  match state.pending with
  | none => .ok state
  | some (_, none) => .error .missingValue
  | some (option, some value) => state.take option value

/-- Take an option with the value that is attached to it, if there is one. -/
def start
    (state : ArgumentState)
    (option : CommandOption)
    (attached : Option (List Char)) :
    Except ArgumentFault ArgumentState := do
  let settled ← state.settle
  match attached with
  | some value => settled.take option value
  | none => return { settled with pending := some (option, none) }

/-- The request for help, once the option before it is taken. -/
def help (state : ArgumentState) : Except ArgumentFault ArgumentState := do
  let _ ← state.settle
  throw .helpRequested

/-- Take an argument that starts with two dashes. -/
def long (state : ArgumentState) (argument : List Char) : Except ArgumentFault ArgumentState :=
  let name := String.ofList (argument.takeWhile (· != '='))
  let attached := match argument.dropWhile (· != '=') with
    | _ :: value => some value
    | [] => none
  match CommandOption.all.find? fun option => option.name == name with
  | some option => state.start option attached
  | none =>
      if name = "help" then
        if attached.isSome then .error .superfluousValue else state.help
      else
        .error .unknownArgument

/-- The value that follows the letter of an option within one argument. -/
def attachedToLetter : List Char → Option (List Char)
  | [] => none
  | '=' :: value => some value
  | value => some value

/-- Take an argument that starts with one dash. -/
def short
    (state : ArgumentState)
    (letter : Char)
    (rest : List Char) :
    Except ArgumentFault ArgumentState :=
  match CommandOption.all.find? fun option => option.letter? == some letter with
  | some option => state.start option (attachedToLetter rest)
  | none => if letter = 'h' then state.help else .error .unknownArgument

/-- Take an argument that does not start like an option. -/
def plain (state : ArgumentState) (argument : List Char) : Except ArgumentFault ArgumentState :=
  match state.pending with
  | some (option, none) => .ok { state with pending := some (option, some argument) }
  | _ => .error .unknownArgument

/-- Take one argument. -/
def step (state : ArgumentState) (argument : List Char) : Except ArgumentFault ArgumentState :=
  match argument with
  | '-' :: '-' :: name => state.long name
  | '-' :: letter :: rest => state.short letter rest
  | argument => state.plain argument

/-- Take all arguments; after two dashes that stand alone no other one may follow. -/
def takeAll (state : ArgumentState) : List (List Char) → Except ArgumentFault ArgumentState
  | [] => state.settle
  | argument :: rest =>
      if argument = ['-', '-'] then
        if rest.isEmpty then state.settle else .error .unknownArgument
      else do
        takeAll (← state.step argument) rest

end ArgumentState

/-- The configuration that arguments give. -/
def Configuration.ofArguments (arguments : List String) : Except ArgumentFault Configuration := do
  return (← ArgumentState.initial.takeAll (arguments.map String.toList)).configuration

end GeoTables
