import DebugProbe.CommandLine.Help
import DebugProbe.Text.Hex
import DebugProbe.WireProtocol

/-!
# Arguments of the command line

Options of the program come before the subcommand, options of a subcommand may stand anywhere after
it. The value of an option follows it, or is attached with an equals sign, and only an attached
value may begin with a hyphen. Each option may be given once. Values are read as they are met, so an
invalid one counts before a request for help that follows it, but not after one.
Specification: `SPEC_FULL.md` §6.
-/

namespace DebugProbe

/-- Why the arguments lead to no run of the program. -/
inductive ArgumentStop where
  | help (topic : HelpTopic)
  | version
  | rejected
  deriving DecidableEq, Repr

/-- What the program is to do. -/
inductive Subcommand where
  | list
  | info
  | read (address length : UInt32) (protocol : Option WireProtocol)
  | updateFirmware (image : String) (checksum : Option UInt32)
  deriving DecidableEq, Repr

/-- What the arguments ask for. -/
structure Invocation where
  /-- The configuration file. -/
  config : Option String
  /-- The selector of the probe. -/
  probe : Option String
  subcommand : Subcommand
  deriving DecidableEq, Repr

/-- The form of an argument. -/
inductive Argument where
  /-- Two hyphens: every later argument stands for itself. -/
  | escape
  /-- Two hyphens and a name, perhaps with a value attached. -/
  | long (name : String) (value : Option String)
  /-- A hyphen and letters, of which the first one decides. -/
  | short (letter : Char)
  | plain (text : String)
  deriving DecidableEq, Repr

namespace Argument

/-- The form of an argument. A single hyphen stands for itself. -/
def ofText (text : String) : Argument :=
  match text.toList with
  | ['-', '-'] => .escape
  | '-' :: '-' :: rest =>
    let name := rest.takeWhile (· != '=')
    match rest.dropWhile (· != '=') with
    | _ :: value => .long (String.ofList name) (some (String.ofList value))
    | [] => .long (String.ofList name) none
  | '-' :: letter :: _ => .short letter
  | _ => .plain text

end Argument

/-- The outcome of reading arguments. -/
abbrev ArgumentResult (α : Type) := Except ArgumentStop α

namespace ArgumentResult

variable {α : Type}

/-- A value that has to be there. -/
def require (value : Option α) : ArgumentResult α :=
  match value with
  | some found => .ok found
  | none => .error .rejected

/-- Fills a place that must be empty so far. -/
def fill (place value : Option α) : ArgumentResult (Option α) :=
  match place, value with
  | none, some given => .ok (some given)
  | _, _ => .error .rejected

end ArgumentResult

/-- A 32-bit number: hexadecimal after `0x` or `0X`, else decimal. -/
def parseNumber? (text : String) : Option UInt32 :=
  UInt32.ofNat <$> match text.toList with
    | '0' :: 'x' :: digits | '0' :: 'X' :: digits => Hex.unsigned? 16 UInt32.size digits
    | digits => Hex.unsigned? 10 UInt32.size digits

/-- The name of a file, which must not be empty. -/
def fileName? (text : String) : Option String := if text.isEmpty then none else some text

/-- How the arguments of a subcommand are taken in: plain ones one after the other, and the values
of its options by name. -/
structure ArgumentGrammar (σ : Type) where
  topic : HelpTopic
  plain : σ → String → ArgumentResult σ
  options : List (String × (σ → String → ArgumentResult σ))

namespace ArgumentGrammar

variable {σ : Type}

/-- Takes in arguments that stand for themselves. -/
def parsePlain (grammar : ArgumentGrammar σ) (state : σ) (arguments : List String) :
    ArgumentResult σ :=
  arguments.foldlM grammar.plain state

/-- Takes in the arguments of a subcommand. -/
def parse (grammar : ArgumentGrammar σ) (state : σ) : List String → ArgumentResult σ
  | [] => .ok state
  | argument :: rest =>
    match Argument.ofText argument with
    | .escape => grammar.parsePlain state rest
    | .plain text => do grammar.parse (← grammar.plain state text) rest
    | .short letter => .error (if letter = 'h' then .help grammar.topic else .rejected)
    | .long name attached =>
      match grammar.options.lookup name, attached with
      | some store, some value => do grammar.parse (← store state value) rest
      | some store, none =>
        match rest with
        | [] => .error .rejected
        | following :: rest =>
          match Argument.ofText following with
          | .plain value => do grammar.parse (← store state value) rest
          | _ => .error .rejected
      | none, _ =>
        .error (if name = "help" ∧ attached = none then .help grammar.topic else .rejected)

end ArgumentGrammar

namespace Subcommand

/-- A subcommand without arguments. -/
def bare (topic : HelpTopic) : ArgumentGrammar Unit where
  topic := topic
  plain _ _ := .error .rejected
  options := []

/-- Arguments of the subcommand that reads memory. -/
structure ReadArguments where
  address : Option UInt32 := none
  length : Option UInt32 := none
  protocol : Option WireProtocol := none

/-- Takes in the arguments of the subcommand that reads memory. -/
def readGrammar : ArgumentGrammar ReadArguments where
  topic := .read
  plain arguments text :=
    if arguments.address.isNone then do
      return { arguments with address := ← ArgumentResult.fill none (parseNumber? text) }
    else do
      return { arguments with
        length := ← ArgumentResult.fill arguments.length (parseNumber? text) }
  options := [("protocol", fun arguments text ↦ do
    return { arguments with
      protocol := ← ArgumentResult.fill arguments.protocol (WireProtocol.parse? text) })]

/-- Arguments of the subcommand that replaces firmware. -/
structure UpdateArguments where
  image : Option String := none
  checksum : Option UInt32 := none

/-- Takes in the arguments of the subcommand that replaces firmware. -/
def updateGrammar : ArgumentGrammar UpdateArguments where
  topic := .updateFirmware
  plain arguments text := do
    return { arguments with image := ← ArgumentResult.fill arguments.image (fileName? text) }
  options := [("checksum", fun arguments text ↦ do
    return { arguments with
      checksum := ← ArgumentResult.fill arguments.checksum (parseNumber? text) })]

/-- Reads the arguments of the subcommand on a topic; help names at most one other topic. -/
def parse (topic : HelpTopic) (arguments : List String) : ArgumentResult Subcommand :=
  match topic with
  | .list => do
    (bare .list).parse () arguments
    return .list
  | .info => do
    (bare .info).parse () arguments
    return .info
  | .read => do
    let found ← readGrammar.parse {} arguments
    return .read (← ArgumentResult.require found.address) (← ArgumentResult.require found.length)
      found.protocol
  | .updateFirmware => do
    let found ← updateGrammar.parse {} arguments
    return .updateFirmware (← ArgumentResult.require found.image) found.checksum
  | .program | .help =>
    match arguments with
    | [] => .error (.help .program)
    | [name] =>
      match HelpTopic.ofName? name with
      | some other => .error (.help other)
      | none => .error .rejected
    | _ => .error .rejected

end Subcommand

/-- An option of the program. -/
inductive ProgramOption where
  | config
  | probe
  deriving DecidableEq, Repr

/-- The option of a name. -/
def ProgramOption.ofName? : String → Option ProgramOption
  | "config" => some config
  | "probe" => some probe
  | _ => none

/-- The options of the program. -/
structure ProgramOptions where
  config : Option String := none
  probe : Option String := none
  /-- An option whose value was given apart from it; it counts only once the next option or the end
  of the arguments is reached. -/
  pending : Option (ProgramOption × String) := none
  deriving DecidableEq, Repr

namespace ProgramOptions

/-- Takes in the value of an option. -/
def store (options : ProgramOptions) (option : ProgramOption) (value : String) :
    ArgumentResult ProgramOptions :=
  match option with
  | .config => do
    return { options with config := ← ArgumentResult.fill options.config (fileName? value) }
  | .probe => do
    return { options with probe := ← ArgumentResult.fill options.probe (some value) }

/-- Takes in the value that was given apart from its option. -/
def settle (options : ProgramOptions) : ArgumentResult ProgramOptions :=
  match options.pending with
  | some (option, value) => { options with pending := none }.store option value
  | none => .ok options

end ProgramOptions

namespace Invocation

/-- Reads all arguments after the name of the program. -/
def parseFrom (options : ProgramOptions) :
    List String → ArgumentResult (ProgramOptions × Subcommand)
  | [] => .error .rejected
  | argument :: rest =>
    match Argument.ofText argument with
    | .escape => .error .rejected
    | .plain text => do
      let topic ← ArgumentResult.require (HelpTopic.ofName? text)
      let subcommand ← Subcommand.parse topic rest
      return (← options.settle, subcommand)
    | .short letter => do
      let _ ← options.settle
      throw (if letter = 'h' then .help .program else if letter = 'V' then .version else .rejected)
    | .long name attached => do
      let settled ← options.settle
      match ProgramOption.ofName? name, attached with
      | some option, some value => parseFrom (← settled.store option value) rest
      | some option, none =>
        match rest with
        | [] => throw .rejected
        | following :: rest =>
          match Argument.ofText following with
          | .plain value => parseFrom { settled with pending := some (option, value) } rest
          | _ => throw .rejected
      | none, some _ => throw .rejected
      | none, none =>
        throw (if name = "help" then .help .program
          else if name = "version" then .version else .rejected)

/-- What the arguments ask for, with the configuration file from the environment if they name
none. -/
def parse (configVariable : Option String) (arguments : List String) :
    ArgumentResult Invocation := do
  let (options, subcommand) ← parseFrom {} arguments
  let config ← match options.config, configVariable with
    | none, some name => some <$> ArgumentResult.require (fileName? name)
    | config, _ => pure config
  return ⟨config, options.probe, subcommand⟩

end Invocation

end DebugProbe
