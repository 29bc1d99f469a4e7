/-!
# Commands

Every exchange with a probe is a command: its code is the first byte of the command frame and of
the answer to it.
Specification: `SPEC_FULL.md` §4.1.
-/

namespace DebugProbe

/-- The commands that a probe understands. -/
inductive Command where
  | info
  | hostStatus
  | connect
  | disconnect
  | transferConfigure
  | transfer
  | transferBlock
  | transferAbort
  | writeAbort
  | resetTarget
  | swjPins
  | swjClock
  | swjSequence
  | swdConfigure
  | jtagSequence
  | jtagConfigure
  | enterBootloader
  | bootloaderHandshake
  | firmwareChunk
  | firmwareChecksum
  | bootloaderReboot
  deriving DecidableEq, Repr

namespace Command

/-- The byte that stands for a command in frames. -/
def code : Command → UInt8
  | info => 0x00
  | hostStatus => 0x01
  | connect => 0x02
  | disconnect => 0x03
  | transferConfigure => 0x04
  | transfer => 0x05
  | transferBlock => 0x06
  | transferAbort => 0x07
  | writeAbort => 0x08
  | resetTarget => 0x0A
  | swjPins => 0x10
  | swjClock => 0x11
  | swjSequence => 0x12
  | swdConfigure => 0x13
  | jtagSequence => 0x14
  | jtagConfigure => 0x15
  | enterBootloader => 0x80
  | bootloaderHandshake => 0x81
  | firmwareChunk => 0x82
  | firmwareChecksum => 0x83
  | bootloaderReboot => 0x84

/-- The name of a command in messages. -/
def label : Command → String
  | info => "Info"
  | hostStatus => "HostStatus"
  | connect => "Connect"
  | disconnect => "Disconnect"
  | transferConfigure => "TransferConfigure"
  | transfer => "Transfer"
  | transferBlock => "TransferBlock"
  | transferAbort => "TransferAbort"
  | writeAbort => "WriteAbort"
  | resetTarget => "ResetTarget"
  | swjPins => "SwjPins"
  | swjClock => "SwjClock"
  | swjSequence => "SwjSequence"
  | swdConfigure => "SwdConfigure"
  | jtagSequence => "JtagSequence"
  | jtagConfigure => "JtagConfigure"
  | enterBootloader => "EnterBootloader"
  | bootloaderHandshake => "BootloaderHandshake"
  | firmwareChunk => "FirmwareChunk"
  | firmwareChecksum => "FirmwareChecksum"
  | bootloaderReboot => "BootloaderReboot"

/-- No two commands share a code. -/
theorem code_injective {a b : Command} (h : a.code = b.code) : a = b := by
  cases a <;> cases b <;> first | rfl | (exact absurd h (by decide))

end Command

end DebugProbe
