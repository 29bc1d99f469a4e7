/-!
# Wire protocols

The two ways in which a probe can talk to a target's debug port. A protocol has a display name, the
lower-case key that configuration files use, and a case-insensitive reading for command lines.
Specification: `SPEC_FULL.md` §§3/9.
-/

namespace DebugProbe

/-- How the probe talks to the target. -/
inductive WireProtocol where
  /-- Serial Wire Debug, two wires. -/
  | swd
  /-- The IEEE 1149.1 test access port. -/
  | jtag
  deriving DecidableEq, Repr

namespace WireProtocol

/-- The protocol to try when this one is unavailable. -/
def other : WireProtocol → WireProtocol
  | swd => jtag
  | jtag => swd

/-- The name shown to people. -/
def name : WireProtocol → String
  | swd => "SWD"
  | jtag => "JTAG"

/-- The spelling in configuration files. -/
def key : WireProtocol → String
  | swd => "swd"
  | jtag => "jtag"

/-- The name in the description of a command's parameters. -/
def label : WireProtocol → String
  | swd => "Swd"
  | jtag => "Jtag"

/-- The protocol with a given configuration key. -/
def ofKey? : String → Option WireProtocol
  | "swd" => some swd
  | "jtag" => some jtag
  | _ => none

/-- The character with the ASCII capitals made small. -/
def lowerAscii (c : Char) : Char := if 'A' ≤ c ∧ c ≤ 'Z' then Char.ofNat (c.toNat + 32) else c

/-- Reads a protocol without regard to the case of ASCII letters. -/
def parse? (text : String) : Option WireProtocol := ofKey? (text.map lowerAscii)

/-- The complaint about a text that names no protocol. -/
def invalidMessage (text : String) : String :=
  "'" ++ text ++ "' is not a valid protocol. Choose from [swd, jtag]."

end WireProtocol

end DebugProbe
