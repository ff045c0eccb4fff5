import ManagedCluster.Duration.Parse
import ManagedCluster.Options

/-! # Options on a command line

Every option has a long name and an environment variable. A value stands in the argument of its
name, after an equals sign, or in the next argument. The command line counts before the
environment, and the environment before the defaults. There are no arguments but options.
-/

namespace ManagedCluster

/-- Why a command line gives no options. -/
inductive CommandLineError where
  /-- Not wrong: the help text was asked for. -/
  | helpRequested
  | unknownArgument (argument : String)
  | missingValue (option : String)
  | badValue (option value : String)
  | repeated (option : String)
  /-- A value for an argument that takes none. -/
  | needlessValue (argument : String)
  deriving Repr, DecidableEq

/-- One option of the command line. -/
structure CommandOption where
  /-- The name that follows two hyphens. -/
  name : String
  /-- The environment variable. -/
  variableName : String
  /-- The options with this value, if it is one. -/
  set? : String → Options → Option Options

namespace CommandOption

def duration? (value : String) : Option Duration := (Duration.parse value).toOption

/-- The natural number of 32 bits that an argument writes. A sign can stand before it. -/
def word32? (value : String) : Option UInt32 :=
  let number := match value.toList with
    | '-' :: digits => if digits.head? = some '+' then none else
      ((Numeral.read UInt32.size digits).toOption).filter (· = 0)
    | digits => (Numeral.read UInt32.size digits).toOption
  number.map UInt32.ofNat

def ofDuration (name variableName : String) (set : Duration → Options → Options) :
    CommandOption where
  name := name
  variableName := variableName
  set? value options := (duration? value).map fun duration => set duration options

def all : List CommandOption := [
  { name := "default-project"
    variableName := "DATAPROC_PROJECT"
    set? := fun value options => some { options with defaultProject := some value } },
  ofDuration "create-timeout" "DATAPROC_CREATE_TIMEOUT"
    fun v options => { options with createTimeout := v },
  ofDuration "update-timeout" "DATAPROC_UPDATE_TIMEOUT"
    fun v options => { options with updateTimeout := v },
  ofDuration "delete-timeout" "DATAPROC_DELETE_TIMEOUT"
    fun v options => { options with deleteTimeout := v },
  ofDuration "poll-interval" "DATAPROC_POLL_INTERVAL"
    fun v options => { options with pollInterval := v },
  ofDuration "initial-backoff" "DATAPROC_INITIAL_BACKOFF"
    fun v options => { options with initialBackoff := v },
  ofDuration "max-backoff" "DATAPROC_MAX_BACKOFF"
    fun v options => { options with maxBackoff := v },
  { name := "bucket-delete-attempts"
    variableName := "DATAPROC_BUCKET_DELETE_ATTEMPTS"
    set? := fun value options =>
      (word32? value).map fun attempts => { options with bucketDeleteAttempts := attempts } }]

end CommandOption

/-- What an argument is by its form. -/
inductive Argument where
  /-- All that follows are no options. -/
  | endOfOptions
  | long (name : String) (value : Option String)
  | short (letter : Char)
  | word (text : String)
  deriving Repr, DecidableEq

namespace Argument

def ofText (text : String) : Argument :=
  match text.toList with
  | ['-', '-'] => endOfOptions
  | '-' :: '-' :: rest =>
    let name := String.ofList (rest.takeWhile (· != '='))
    match rest.dropWhile (· != '=') with
    | [] => long name none
    | _ :: value => long name (some (String.ofList value))
  | '-' :: letter :: _ => short letter
  | _ => word text

end Argument

/-- What is known after some arguments. -/
structure CommandLine where
  options : Options := default
  /-- The names of the options that are set. -/
  given : List String := []
  /-- The last option that is not set yet, and its value if it was there. -/
  pending : Option (CommandOption × Option String) := none

namespace CommandLine

/-- Set an option that was not set before. -/
def assign (line : CommandLine) (option : CommandOption) (value : String) :
    Except CommandLineError CommandLine :=
  if line.given.contains option.name then .error (.repeated option.name)
  else
    match option.set? value line.options with
    | some options => .ok { line with options := options, given := option.name :: line.given }
    | none => .error (.badValue option.name value)

/-- Set the option that is not set yet. -/
def settle (line : CommandLine) : Except CommandLineError CommandLine :=
  match line.pending with
  | none => .ok line
  | some (option, none) => .error (.missingValue option.name)
  | some (option, some value) => { line with pending := none }.assign option value

/-- Go on after an argument with two hyphens in front. -/
def long (line : CommandLine) (name : String) (value : Option String) :
    Except CommandLineError CommandLine := do
  match CommandOption.all.find? (·.name == name), value with
  | some option, some value => (← line.settle).assign option value
  | some option, none => return { ← line.settle with pending := some (option, none) }
  | none, value =>
    if name != "help" then throw (.unknownArgument name)
    if value.isSome then throw (.needlessValue name)
    discard line.settle
    throw .helpRequested

/-- Read arguments in order. The value of an option is only looked at when the next option comes. -/
def readFrom (line : CommandLine) : List String → Except CommandLineError CommandLine
  | [] => line.settle
  | text :: rest =>
    match Argument.ofText text with
    | .endOfOptions =>
      match rest with
      | [] => line.settle
      | word :: _ => .error (.unknownArgument word)
    | .long name value =>
      match line.long name value with
      | .ok line => readFrom line rest
      | .error error => .error error
    | .short letter =>
      if letter == 'h' then line.settle.bind fun _ => .error .helpRequested
      else .error (.unknownArgument text)
    | .word value =>
      match line.pending with
      | some (option, none) => readFrom { line with pending := some (option, some value) } rest
      | _ => .error (.unknownArgument value)

/-- Set an option by its environment variable, unless it is set. -/
def assignFrom (environment : List (String × String)) (line : CommandLine)
    (option : CommandOption) : Except CommandLineError CommandLine :=
  match environment.lookup option.variableName with
  | some value => if line.given.contains option.name then .ok line else line.assign option value
  | none => .ok line

end CommandLine

def Options.ofCommandLine (arguments : List String) (environment : List (String × String)) :
    Except CommandLineError Options := do
  let line ← CommandLine.readFrom {} arguments
  let line ← CommandOption.all.foldlM (CommandLine.assignFrom environment) line
  return line.options

end ManagedCluster
