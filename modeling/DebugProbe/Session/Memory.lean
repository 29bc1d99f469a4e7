import DebugProbe.MemorySpan
import DebugProbe.Register.MemoryAccess
import DebugProbe.Session.Access

/-!
# Target memory

Memory is accessed through a memory access port. For each span of the plan the access size and the
address are set up; a single byte then goes through its lane of the data register, and a run of
words is one block transfer, in which the address is set again after every WAIT.
Specification: `SPEC_FULL.md` §4.4.
-/

namespace DebugProbe

namespace Session

variable {σ : Type} [Transport σ]

/-- Queues accesses; if one is refused the batch is dropped. -/
def queueAll (packetSize : Nat) : List RegisterAccess → Action (Link σ) AccessError Unit
  | [] => pure ()
  | access :: rest => do
    let _ ← (Link.queue packetSize access).onError fun _ ↦ Link.discard
    queueAll packetSize rest

/-- The values of responses, or the first failure among them. -/
def results : List AccessResponse → Except AccessError (List (Option UInt32))
  | [] => .ok []
  | response :: rest => do
    let value ← response.result
    return value :: (← results rest)

/-- Runs accesses as one batch, and fails with the first failure among them. -/
def runAll (config : TransferConfig) (accesses : List RegisterAccess) :
    Action (Link σ) AccessError (List (Option UInt32)) := do
  Link.checkNoneQueued
  queueAll (← Link.onProbe Probe.packetSize) accesses
  Action.ofExcept (results (← Link.flush config))

/-- Sets up the memory port for accesses of a size from an address on. -/
def setUp (port : MemoryPort) (size : AccessSize) (address : UInt32) : List RegisterAccess :=
  [.write port.csw (ControlWord.ofSize size).word, .write port.tar address]

/-- Reads the bytes of a span. -/
def readSpan (config : TransferConfig) (port : MemoryPort) :
    MemorySpan → Action (Link σ) AccessError Bytes
  | .byte address => do
    let values ← runAll config (setUp port .byte address ++ [.read port.drw])
    let word ← Action.ofExcept (requireValue values.getLast?.join)
    return [(word >>> MemorySpan.laneShift address).toUInt8]
  | .words address count => do
    let _ ← runAll config (setUp port .word address)
    return Bytes.ofWords (← Link.readBlock config port.drw count (some ⟨port.tar, address⟩))

/-- Writes bytes to a span of their number. -/
def writeSpan (config : TransferConfig) (port : MemoryPort) (data : Bytes) :
    MemorySpan → Action (Link σ) AccessError Unit
  | .byte address => do
    let value := (data.byteAt 0).toUInt32 <<< MemorySpan.laneShift address
    let _ ← runAll config (setUp port .byte address ++ [.write port.drw value])
  | .words address count => do
    let _ ← runAll config (setUp port .word address)
    Link.writeBlock config port.drw (data.words count) (some ⟨port.tar, address⟩)

/-- Reads spans one after the other. -/
def readSpans (config : TransferConfig) (port : MemoryPort) :
    List MemorySpan → Action (Link σ) AccessError Bytes
  | [] => pure []
  | span :: rest => do
    let front ← readSpan config port span
    return front ++ (← readSpans config port rest)

/-- Writes spans one after the other. -/
def writeSpans (config : TransferConfig) (port : MemoryPort) :
    List MemorySpan → Bytes → Action (Link σ) AccessError Unit
  | [], _ => pure ()
  | span :: rest, data => do
    writeSpan config port (data.take span.size) span
    writeSpans config port rest (data.drop span.size)

/-- The configured memory access port. -/
def memoryPort (session : Session σ) : MemoryPort := ⟨session.config.session.memoryPort⟩

/-- Reads `size` bytes of memory from an address on. -/
def readMemory (address : UInt32) (size : Nat) : Action (Session σ) OperationError Bytes :=
  operate (.readMemory address size) do
    prepare
    let session ← get
    onLink (readSpans session.config.transfer session.memoryPort (MemorySpan.plan address size))

/-- Writes bytes to memory from an address on. -/
def writeMemory (address : UInt32) (data : Bytes) : Action (Session σ) OperationError Unit :=
  operate (.writeMemory address data.length) do
    prepare
    let session ← get
    onLink (writeSpans session.config.transfer session.memoryPort
      (MemorySpan.plan address data.length) data)

end Session

end DebugProbe
