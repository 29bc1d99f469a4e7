import DebugProbe.Action
import DebugProbe.Command.Transfer
import DebugProbe.Register.MemoryAccess
import DebugProbe.Simulator.Memory

/-!
# A simulated target

A debug port with one memory access port behind it, and plain storage at every other access port
register. The answers to accesses can be prepared in advance; an access that is not answered OK
changes nothing but the sticky flag. SELECT decides which access port register an access means, and
the address register of the memory port counts up within windows of 1 KiB.
Specification: `SPEC_FULL.md` §10.
-/

namespace DebugProbe

/-- A prepared answer of the target. -/
inductive TargetAnswer where
  | ok
  | wait
  | fault
  | noAck
  | parity
  deriving DecidableEq, Repr

/-- The state of a target. -/
structure Target where
  dpidr : UInt32 := 0x2BA01477
  /-- CTRL/STAT as written, without acknowledges and sticky flags. -/
  controlStatus : UInt32 := 0
  /-- Whether power requests are acknowledged. -/
  acknowledgesPower : Bool := true
  select : UInt32 := 0
  sticky : Bool := false
  /-- The result of the last access port read. -/
  readBuffer : UInt32 := 0
  csw : UInt32 := 0
  tar : UInt32 := 0
  /-- All other access port registers, by port and address. -/
  registers : Std.HashMap (UInt8 × UInt8) UInt32 := ∅
  memory : Memory := {}
  /-- Answers to the next accesses; once they are used up every access is answered OK. -/
  answers : List TargetAnswer := []
  /-- Values written to ABORT, oldest first. -/
  aborts : Array UInt32 := #[]
  /-- Values written to SELECT, oldest first. -/
  selects : Array UInt32 := #[]
  /-- Values written to the address register of the memory port, oldest first. -/
  addresses : Array UInt32 := #[]

namespace Target

/-- Takes the next prepared answer. -/
def takeAnswer (target : Target) : TargetAnswer × Target :=
  match target.answers with
  | [] => (.ok, target)
  | answer :: rest => (answer, { target with answers := rest })

/-- A write of ABORT. -/
def writeAbort (target : Target) (value : UInt32) : Target :=
  { target with
    aborts := target.aborts.push value
    sticky := target.sticky && !Abort.stickyErrorClear.test value }

/-- CTRL/STAT as it reads. -/
def readControlStatus (target : Target) : UInt32 :=
  let powered (request ack : BitField) (word : UInt32) : UInt32 :=
    if target.acknowledgesPower && request.test word then ack.put true word else word
  let word := powered ControlStatus.debugPowerRequest ControlStatus.debugPowerAck
    (powered ControlStatus.systemPowerRequest ControlStatus.systemPowerAck target.controlStatus)
  if target.sticky then ControlStatus.stickyError.put true word else word

/-- A read of a debug port register; the register bank makes no difference. -/
def readDebug (target : Target) (address : UInt8) : UInt32 :=
  if address = 0x0 then target.dpidr
  else if address = 0x4 then target.readControlStatus
  else if address = 0x8 then target.select
  else target.readBuffer

/-- A write of a debug port register; the register bank makes no difference. -/
def writeDebug (target : Target) (address : UInt8) (value : UInt32) : Target :=
  if address = 0x0 then target.writeAbort value
  else if address = 0x4 then { target with controlStatus := value &&& 0x50000F01 }
  else if address = 0x8 then
    { target with select := value, selects := target.selects.push value }
  else target

/-- The access port and register address that an access means while SELECT has its value. -/
def selected (target : Target) (address : UInt8) : UInt8 × UInt8 :=
  (Select.accessPort.getByte target.select,
    (Select.accessPortBank.getByte target.select <<< 4) ||| address)

/-- Counts the address register up, if single increment is on, within its window. -/
def advance (target : Target) : Target :=
  if ControlWord.increment.get target.csw = 1 then
    let step : UInt32 := 1 <<< ControlWord.size.get target.csw
    { target with
      tar := (target.tar &&& ~~~(0x3FF : UInt32)) ||| ((target.tar + step) &&& 0x3FF) }
  else target

/-- The address of the word that holds the byte at the address register. -/
def wordAddress (target : Target) : UInt32 := target.tar &&& ~~~(3 : UInt32)

/-- A read of an access port register. -/
def readAccess (target : Target) (address : UInt8) : UInt32 × Target :=
  let key := target.selected address
  if key = (0, 0x00) then (target.csw, target)
  else if key = (0, 0x04) then (target.tar, target)
  else if key = (0, 0x0C) then (target.memory.word target.wordAddress, target.advance)
  else if key = (0, 0xFC) then (0x24770011, target)
  else (target.registers.getD key 0, target)

/-- Stores a word that was written to the data register: one byte lane of it, or all of it. -/
def store (target : Target) (value : UInt32) : Target :=
  if ControlWord.size.get target.csw = 0 then
    let lane := (value >>> ((target.tar &&& 3) * 8)).toUInt8
    { target with memory := target.memory.setByte target.tar lane }
  else
    { target with memory := target.memory.setBytes target.wordAddress (Bytes.ofUInt32 value) }

/-- A write of an access port register. -/
def writeAccess (target : Target) (address : UInt8) (value : UInt32) : Target :=
  let key := target.selected address
  if key = (0, 0x00) then { target with csw := value }
  else if key = (0, 0x04) then
    { target with tar := value, addresses := target.addresses.push value }
  else if key = (0, 0x0C) then (target.store value).advance
  else { target with registers := target.registers.insert key value }

/-- Carries an access out, giving the word of a read. -/
def perform (transfer : Transfer) (target : Target) : Option UInt32 × Target :=
  let address := transfer.address &&& 0x0C
  match transfer.port, transfer.value with
  | .debug, none => (some (target.readDebug address), target)
  | .debug, some value => (none, target.writeDebug address value)
  | .access, none =>
    let (word, after) := target.readAccess address
    (some word, { after with readBuffer := word })
  | .access, some value => (none, target.writeAccess address value)

/-- The status byte of a prepared answer that is not OK. -/
def TargetAnswer.failureCode? : TargetAnswer → Option UInt8
  | .ok => none
  | .wait => some 0x02
  | .fault => some 0x04
  | .noAck => some 0x07
  | .parity => some 0x08

/-- Answers an access: carries it out, or fails with the status byte of the answer. While the sticky
flag is set access port accesses are answered FAULT. -/
def access (transfer : Transfer) : Action Target UInt8 (Option UInt32) :=
  Action.ofFun fun target ↦
    let (answer, target) := target.takeAnswer
    match TargetAnswer.failureCode? answer with
    | some code => (.error code, { target with sticky := target.sticky || answer == .fault })
    | none =>
      if transfer.port = .access ∧ target.sticky then (.error 0x04, target)
      else
        let (word, after) := target.perform transfer
        (.ok word, after)

end Target

end DebugProbe
