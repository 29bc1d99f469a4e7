/-!
# Help texts

The texts that describe the program and its subcommands to the user, and its version.
Specification: `SPEC_FULL.md` §6.
-/

namespace DebugProbe

/-- What help can be asked about. -/
inductive HelpTopic where
  | program
  | list
  | info
  | read
  | updateFirmware
  | help
  deriving DecidableEq, Repr

namespace HelpTopic

/-- The subcommand of a name. -/
def ofName? : String → Option HelpTopic
  | "list" => some list
  | "info" => some info
  | "read" => some read
  | "update-firmware" => some updateFirmware
  | "help" => some help
  | _ => none

/-- Lines, each with a line feed at its end. -/
def paragraph (lines : List String) : String := String.join (lines.map (· ++ "\n"))

/-- The help on a topic. The help on the program shows which configuration file the environment
names. -/
def text (configVariable : Option String) : HelpTopic → String
  | program => paragraph [
      "Talk to CMSIS-DAP debug probes",
      "",
      "Usage: dapwire [OPTIONS] <COMMAND>",
      "",
      "Commands:",
      "  list             List attached probes",
      "  info             Show what the probe reports about itself",
      "  read             Read target memory and print it as hex",
      "  update-firmware  Replace the probe firmware",
      "  help             Print this message or the help of the given subcommand(s)",
      "",
      "Options:",
      "      --config <CONFIG>  TOML configuration file [env: DAPWIRE_CONFIG="
        ++ configVariable.getD "" ++ "]",
      "      --probe <PROBE>    Probe to use, as VID:PID[:SERIAL]",
      "  -h, --help             Print help",
      "  -V, --version          Print version"]
  | list => paragraph [
      "List attached probes",
      "",
      "Usage: dapwire list",
      "",
      "Options:",
      "  -h, --help  Print help"]
  | info => paragraph [
      "Show what the probe reports about itself",
      "",
      "Usage: dapwire info",
      "",
      "Options:",
      "  -h, --help  Print help"]
  | read => paragraph [
      "Read target memory and print it as hex",
      "",
      "Usage: dapwire read [OPTIONS] <ADDRESS> <LEN>",
      "",
      "Arguments:",
      "  <ADDRESS>  ",
      "  <LEN>      ",
      "",
      "Options:",
      "      --protocol <PROTOCOL>  ",
      "  -h, --help                 Print help"]
  | updateFirmware => paragraph [
      "Replace the probe firmware",
      "",
      "Usage: dapwire update-firmware [OPTIONS] <IMAGE>",
      "",
      "Arguments:",
      "  <IMAGE>  ",
      "",
      "Options:",
      "      --checksum <CHECKSUM>  Expected CRC-32 of the image",
      "  -h, --help                 Print help"]
  | help => paragraph [
      "Print this message or the help of the given subcommand(s)",
      "",
      "Usage: dapwire help [COMMAND]...",
      "",
      "Arguments:",
      "  [COMMAND]...  Print help for the subcommand(s)"]

/-- Name and version of the program. -/
def version : String := paragraph ["dapwire 0.1.0"]

end HelpTopic

end DebugProbe
