import ManifestTree.Argument
import ManifestTree.Config
import ManifestTree.Text.Terminal

/-!
# Arguments of the command line

A subcommand comes first, then its options and at most one positional argument. An option is written long or short, its value behind
it or attached, and short flags can be run together; after `--` everything is positional. A value that stands alone is only checked
when the next argument has been recognised or the line ends, so that of two faults the unrecognised argument is reported first.
-/

namespace ManifestTree.CommandLine

/-- What can be set on a command line. -/
inductive Parameter where
  | environment
  | resources
  | resource
  | relative
  | outputDirectory
  | help
  | version
  deriving DecidableEq

namespace Parameter

/-- How a message names a parameter. -/
def display : Parameter → String
  | .environment => "--environment <ENVIRONMENT>"
  | .resources => "--resource <RESOURCES>"
  | .resource => "<RESOURCE>"
  | .relative => "--relative"
  | .outputDirectory => "--output-dir <OUTPUT_DIR>"
  | .help => "--help"
  | .version => "--version"

/-- The long name of an option. -/
def long? : Parameter → Option String
  | .environment => some "environment"
  | .resources => some "resource"
  | .resource => none
  | .relative => some "relative"
  | .outputDirectory => some "output-dir"
  | .help => some "help"
  | .version => some "version"

/-- The short name of an option. -/
def short? : Parameter → Option Char
  | .environment => some 'e'
  | .resources => some 'r'
  | .outputDirectory => some 'o'
  | .help => some 'h'
  | .version => some 'V'
  | .resource | .relative => none

/-- Whether a parameter has a value. -/
def takesValue : Parameter → Bool
  | .environment | .resources | .resource | .outputDirectory => true
  | .relative | .help | .version => false

/-- Whether a parameter can be set more than once. -/
def isRepeatable : Parameter → Bool
  | .resources => true
  | .environment | .resource | .relative | .outputDirectory | .help | .version => false

end Parameter

/-- Why a command line is refused. -/
inductive UsageError where
  | unexpectedArgument (argument : String)
  | unrecognizedSubcommand (argument : String)
  | missingValue (parameter : Parameter)
  | invalidValue (value : String) (parameter : Parameter)
  | unexpectedValue (value : String) (parameter : Parameter)
  | repeated (parameter : Parameter)
  | missingRequired
  | notText
  deriving DecidableEq

/-- The first line of the message for a refused command line. Of what the user wrote only the visible characters are shown. -/
def UsageError.message : UsageError → String
  | .unexpectedArgument argument => s!"error: unexpected argument '{Terminal.visible argument}' found"
  | .unrecognizedSubcommand argument => s!"error: unrecognized subcommand '{Terminal.visible argument}'"
  | .missingValue parameter => s!"error: a value is required for '{parameter.display}' but none was supplied"
  | .invalidValue value parameter => s!"error: invalid value '{Terminal.visible value}' for '{parameter.display}'"
  | .unexpectedValue value parameter =>
    s!"error: unexpected value '{Terminal.visible value}' for '{parameter.display}' found; no more were expected"
  | .repeated parameter => s!"error: the argument '{parameter.display}' cannot be used multiple times"
  | .missingRequired => "error: the following required arguments were not provided:"
  | .notText => "error: invalid UTF-8 was detected in one or more arguments"

/-- The subcommands. -/
inductive Subcommand where
  | render
  | path
  | crds
  | list
  | charts
  deriving DecidableEq

namespace Subcommand

/-- The subcommand of a name. -/
def ofName? : String → Option Subcommand
  | "render" => some .render
  | "path" => some .path
  | "crds" => some .crds
  | "list" => some .list
  | "charts" => some .charts
  | _ => none

/-- The options of a subcommand. -/
def options : Subcommand → List Parameter
  | .render => [.environment, .resources, .help]
  | .path => [.environment, .relative, .help]
  | .crds => [.outputDirectory, .help]
  | .list | .charts => [.help]

/-- The positional argument of a subcommand. -/
def positional? : Subcommand → Option Parameter
  | .path => some .resource
  | .render | .crds | .list | .charts => none

end Subcommand

/-- What a run is asked to do. -/
inductive Command where
  | render (environment : Environment) (resources : List Resource)
  | path (resource : Resource) (environment : Environment) (relative : Bool)
  | crds (outputDirectory? : Option Path)
  | list
  | charts
  deriving DecidableEq

/-- What the arguments ask for. -/
inductive Request where
  | run (command : Command)
  | version
  | help
  /-- Nothing was asked for: a summary is shown, and the run fails. -/
  | overview
  deriving DecidableEq

/-- The values set so far. -/
structure Values where
  environment? : Option Environment := none
  resources : List Resource := []
  resource? : Option Resource := none
  outputDirectory? : Option Path := none
  relative : Bool := false

namespace Values

/-- Whether a parameter has been set. -/
def has (v : Values) : Parameter → Bool
  | .environment => v.environment?.isSome
  | .resources => !v.resources.isEmpty
  | .resource => v.resource?.isSome
  | .relative => v.relative
  | .outputDirectory => v.outputDirectory?.isSome
  | .help | .version => false

/-- The fault of a value that a parameter does not take. -/
def refuse (parameter : Parameter) (value : String) : UsageError :=
  if value = "" then .missingValue parameter else .invalidValue value parameter

/-- A value that has to be the name of something. -/
def named (α : Type) [Named α] (parameter : Parameter) (value : String) : Except UsageError α :=
  match Argument.ofArgument? α false value with
  | some a => .ok a
  | none => .error (refuse parameter value)

/-- The values with a parameter set. The value of a flag is not looked at. -/
def set (v : Values) (parameter : Parameter) (value : String) : Except UsageError Values :=
  match parameter with
  | .environment => do return { v with environment? := some (← named Environment parameter value) }
  | .resources => do return { v with resources := v.resources ++ [← named Resource parameter value] }
  | .resource => do return { v with resource? := some (← named Resource parameter value) }
  | .outputDirectory =>
    if value = "" then .error (refuse parameter value)
    else .ok { v with outputDirectory? := some (Path.ofString value) }
  | .relative => .ok { v with relative := true }
  | .help | .version => .ok v

end Values

/-- Where a reader of arguments stands: the values set, the parameter whose value is still to be checked and that value if it has
been seen, and whether the positional argument has been seen. -/
structure Progress where
  values : Values := {}
  pending? : Option (Parameter × Option String) := none
  hasPositional : Bool := false

/-- Where reading stops: with a fault, or because help was asked for. -/
inductive Stop where
  | fault (error : UsageError)
  | help

namespace Progress

/-- Sets a parameter, which may only be set once unless it is repeatable. -/
def accept (p : Progress) (parameter : Parameter) (value : String) : Except Stop Progress :=
  if parameter = .help then .error .help
  else if p.values.has parameter && !parameter.isRepeatable then .error (.fault (.repeated parameter))
  else match p.values.set parameter value with
    | .ok values => .ok { p with values }
    | .error e => .error (.fault e)

/-- Checks the value that is still to be checked. -/
def settle (p : Progress) : Except Stop Progress :=
  match p.pending? with
  | none => .ok p
  | some (parameter, none) => .error (.fault (.missingValue parameter))
  | some (parameter, some value) => { p with pending? := none }.accept parameter value

/-- Sets an option whose value is attached to it, or a flag. -/
def setNow (p : Progress) (parameter : Parameter) (value : String) : Except Stop Progress := do
  (← p.settle).accept parameter value

/-- Goes on to a parameter whose value is to be checked later. -/
def setLater (p : Progress) (parameter : Parameter) (value? : Option String) : Except Stop Progress := do
  return { ← p.settle with pending? := some (parameter, value?) }

end Progress

/-- The part of an argument before its first equals sign, and the part after it. -/
def splitEquals (cs : List Char) : String × Option String :=
  let name := String.ofList (cs.takeWhile (· ≠ '='))
  match cs.dropWhile (· ≠ '=') with
  | [] => (name, none)
  | _ :: value => (name, some (String.ofList value))

/-- Reads an option by its long name. -/
def readLong (sub : Subcommand) (p : Progress) (name : String) (value? : Option String) : Except Stop Progress :=
  match sub.options.find? (·.long? = some name) with
  | none => .error (.fault (.unexpectedArgument s!"--{name}"))
  | some parameter =>
    match parameter.takesValue, value? with
    | true, some value => p.setNow parameter value
    | true, none => p.setLater parameter none
    | false, some value => .error (.fault (.unexpectedValue value parameter))
    | false, none => p.setNow parameter ""

/-- Reads options by their short names, one after the other; what stands behind an option with a value is that value. -/
def readShort (sub : Subcommand) (p : Progress) : List Char → Except Stop Progress
  | [] => .ok p
  | c :: rest =>
    match sub.options.find? (·.short? = some c) with
    | none => .error (.fault (.unexpectedArgument (String.ofList ['-', c])))
    | some parameter =>
      if parameter.takesValue then
        match rest with
        | [] => p.setLater parameter none
        | '=' :: value => p.setNow parameter (String.ofList value)
        | value => p.setNow parameter (String.ofList value)
      else do readShort sub (← p.setNow parameter "") rest

/-- Reads a positional argument. -/
def readPositional (sub : Subcommand) (p : Progress) (argument : String) : Except Stop Progress :=
  match sub.positional? with
  | some parameter =>
    if p.hasPositional then .error (.fault (.unexpectedArgument argument))
    else do return { ← p.setLater parameter (some argument) with hasPositional := true }
  | none => .error (.fault (.unexpectedArgument argument))

/-- Reads the arguments of a subcommand. -/
def readArguments (sub : Subcommand) : Progress → List String → Except Stop Progress
  | p, [] => p.settle
  | p, argument :: rest =>
    match argument.toList with
    | ['-', '-'] => do (← rest.foldlM (readPositional sub) p).settle
    | '-' :: '-' :: long => do
      let (name, value?) := splitEquals long
      readArguments sub (← readLong sub p name value?) rest
    | '-' :: c :: short => do readArguments sub (← readShort sub p (c :: short)) rest
    | _ =>
      match p.pending? with
      | some (parameter, none) => readArguments sub { p with pending? := some (parameter, some argument) } rest
      | _ => do readArguments sub (← readPositional sub p argument) rest

/-- The values with the environment taken from its variable where the arguments leave it out. -/
def withVariable (sub : Subcommand) (vars : Variables) (v : Values) : Except UsageError Values :=
  if v.environment?.isSome || !sub.options.contains .environment then .ok v
  else match vars "ENVIRONMENT" with
    | none => .ok v
    | some bytes =>
      match Utf8.decode? bytes with
      | none => .error .notText
      | some value => v.set .environment value

/-- The command that a subcommand and its values make, if every required value is there. -/
def Subcommand.command (sub : Subcommand) (v : Values) : Except UsageError Command :=
  match sub with
  | .render =>
    match v.environment? with
    | some e => .ok (.render e v.resources)
    | none => .error .missingRequired
  | .path =>
    match v.resource?, v.environment? with
    | some r, some e => .ok (.path r e v.relative)
    | _, _ => .error .missingRequired
  | .crds => .ok (.crds v.outputDirectory?)
  | .list => .ok .list
  | .charts => .ok .charts

/-- Reads a subcommand's arguments, and what the variables add to them. -/
def readSubcommand (sub : Subcommand) (vars : Variables) (arguments : List String) : Except UsageError Request :=
  match readArguments sub {} arguments with
  | .error (.fault e) => .error e
  | .error .help => .ok .help
  | .ok p => do return .run (← sub.command (← withVariable sub vars p.values))

/-- Reads what stands behind the `help` subcommand: the name of one subcommand at most. -/
def readHelp : List String → Except UsageError Request
  | [] => .ok .help
  | [name] =>
    if name = "help" ∨ (Subcommand.ofName? name).isSome then .ok .help else .error (.unrecognizedSubcommand name)
  | name :: other :: _ =>
    if name = "help" ∨ (Subcommand.ofName? name).isSome then .error (.unrecognizedSubcommand other)
    else .error (.unrecognizedSubcommand name)

/-- Reads a flag that stands before any subcommand. -/
def readFlag (written : String) (parameter? : Option Parameter) (value? : Option String) : Except UsageError Request :=
  match parameter?, value? with
  | none, _ => .error (.unexpectedArgument written)
  | some parameter, some value => .error (.unexpectedValue value parameter)
  | some .version, none => .ok .version
  | some _, none => .ok .help

/-- The flags that can stand before any subcommand. -/
def flags : List Parameter := [.help, .version]

/-- What the arguments of a run ask for. -/
def read (vars : Variables) : List String → Except UsageError Request
  | [] => .ok .overview
  | argument :: rest =>
    match Subcommand.ofName? argument, argument.toList with
    | some sub, _ => readSubcommand sub vars rest
    | none, ['-', '-'] =>
      match rest with
      | [] => .ok .overview
      | name :: _ =>
        if name = "help" ∨ (Subcommand.ofName? name).isSome then .error (.unexpectedArgument name)
        else .error (.unrecognizedSubcommand name)
    | none, '-' :: '-' :: long =>
      let (name, value?) := splitEquals long
      readFlag s!"--{name}" (flags.find? (·.long? = some name)) value?
    | none, '-' :: c :: _ => readFlag (String.ofList ['-', c]) (flags.find? (·.short? = some c)) none
    | none, _ => if argument = "help" then readHelp rest else .error (.unrecognizedSubcommand argument)

end ManifestTree.CommandLine
