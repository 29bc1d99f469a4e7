import DebugProbe.CommandLine.Arguments
import DebugProbe.CommandLine.Directory
import DebugProbe.Config.Load
import DebugProbe.Firmware.Image
import DebugProbe.Probe.Selector

/-!
# Running the program

A run reads its arguments, then its configuration, then the selector of the probe, and then does
what the subcommand says. No bus is searched, so no probe is ever found: a subcommand that needs one
fails where it would open it.
Specification: `SPEC_FULL.md` §6.
-/

namespace DebugProbe

/-- How a run ends. -/
inductive Outcome where
  /-- The run prints a text and succeeds. -/
  | printed (text : String)
  /-- The run fails with a message. -/
  | failed (message : String)
  /-- The arguments make no sense. -/
  | rejected
  deriving DecidableEq, Repr

namespace Outcome

/-- What the program exits with. -/
def exitCode : Outcome → Nat
  | printed _ => 0
  | failed _ => 1
  | rejected => 2

/-- What the program prints. -/
def output : Outcome → String
  | printed text => text
  | _ => ""

/-- The line with which a failure is reported. -/
def errorLine? : Outcome → Option String
  | failed message =>
    some (String.ofList (("Error: " ++ message).toList.takeWhile (· != '\n')))
  | _ => none

end Outcome

namespace CommandLine

/-- The environment variable that names the configuration file. -/
def configVariable : String := "DAPWIRE_CONFIG"

/-- The probes that are attached. -/
def attached : List ProbeListing := []

/-- A step of a run, which may fail with a message. -/
abbrev Step (α : Type) := Except String α

/-- Chooses a probe among those attached. -/
def choose (selector : Option ProbeSelector) : Step ProbeListing :=
  (ProbeListing.choose attached selector).mapError (·.message)

/-- The list of probes with their positions. -/
def listText (listings : List ProbeListing) : String :=
  if listings.isEmpty then "No CMSIS-DAP probes found\n"
  else String.join (listings.zipIdx.map fun (listing, position) ↦
    "[" ++ toString position ++ "]: " ++ listing.text ++ "\n")

/-- The image for an update. -/
def readImage (files : Directory) (name : String) (checksum : Option UInt32) :
    Step FirmwareImage := do
  match files.read? name with
  | none => throw ("reading " ++ name)
  | some data => (FirmwareImage.ofBytes data checksum).mapError (·.message)

/-- Does what a subcommand says, up to the choice of a probe. -/
def perform (files : Directory) (selector : Option ProbeSelector) : Subcommand → Step String
  | .list => return listText attached
  | .info | .read .. => do
    let _ ← choose selector
    return ""
  | .updateFirmware name checksum => do
    let _ ← readImage files name checksum
    let _ ← choose selector
    return ""

/-- The steps of a run after its arguments were read. -/
def steps (files : Directory) (environment : List (String × String)) (invocation : Invocation) :
    Step String := do
  let config ← (Config.load (invocation.config.bind files.read?) environment).mapError
    fun _ ↦ "loading configuration"
  let selector ← match invocation.probe.or config.probe.selector with
    | some text => some <$> (ProbeSelector.parse text).mapError (·.message)
    | none => pure none
  perform files selector invocation.subcommand

/-- The whole run. -/
def run (files : Directory) (environment : List (String × String)) (arguments : List String) :
    Outcome :=
  let configFile := environment.lookup configVariable
  match Invocation.parse configFile arguments with
  | .error (.help topic) => .printed (topic.text configFile)
  | .error .version => .printed HelpTopic.version
  | .error .rejected => .rejected
  | .ok invocation =>
    match steps files environment invocation with
    | .ok text => .printed text
    | .error message => .failed message

/-- The files that a run may read. -/
def fileNames (environment : List (String × String)) (arguments : List String) : List String :=
  match Invocation.parse (environment.lookup configVariable) arguments with
  | .ok invocation =>
    invocation.config.toList ++ match invocation.subcommand with
      | .updateFirmware image _ => [image]
      | _ => []
  | .error _ => []

end CommandLine

end DebugProbe
