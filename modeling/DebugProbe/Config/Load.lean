import DebugProbe.Bytes
import DebugProbe.Config.Environment
import DebugProbe.Config.Read
import DebugProbe.Toml.Document

/-!
# Loading the configuration

The configuration comes in layers: the built-in values, over them a file, and over that the
environment. The layers are merged before any value is looked at, so a value that an upper layer
replaces can be of any type. A file that is not well formed fails whatever the environment says.
Specification: `SPEC_FULL.md` §9.
-/

namespace DebugProbe

namespace Config

/-- The settings of a document. -/
def documentEntries (text : String) : ConfigResult (List (String × Setting)) :=
  match Toml.parse? text with
  | some entries => .ok entries
  | none => .error ⟨.malformed, []⟩

/-- The configuration that a document describes. -/
def ofToml (text : String) : ConfigResult Config := do
  ofEntries (← documentEntries text)

/-- The settings of a file, which has to be text; none if there is no file. -/
def fileEntries : Option Bytes → ConfigResult (List (String × Setting))
  | none => .ok []
  | some bytes =>
    match String.fromUTF8? bytes.toByteArray with
    | some text => documentEntries text
    | none => .error ⟨.malformed, []⟩

/-- The configuration from the content of a file, if there is one, and environment variables. -/
def load (file : Option Bytes) (environment : List (String × String)) : ConfigResult Config := do
  let base ← fileEntries file
  ofEntries (Setting.mergeEntries base (Environment.entries environment))

end Config

end DebugProbe
