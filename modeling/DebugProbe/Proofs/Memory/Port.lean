import DebugProbe.Proofs.Link.Performed
import DebugProbe.Proofs.Memory.Contents
import DebugProbe.Register.MemoryAccess
import DebugProbe.MemorySpan

/-!
# Targets with a memory access port

What a target has to do with accesses to the control word, the address and the data register of a
memory access port. Nothing is said about other registers, or about accesses with other control
words.
-/

namespace DebugProbe

/-- The state of a memory access port and the memory behind it. -/
structure PortState where
  csw : UInt32
  tar : UInt32
  memory : Contents

namespace AccessSize

/-- Number of bytes. -/
def width : AccessSize → Nat
  | byte => 1
  | word => 4

/-- The bytes that a data word carries, each on the lane of its address. -/
def lanes (size : AccessSize) (address word : UInt32) : Bytes :=
  (List.range size.width).map fun offset ↦
    (word >>> MemorySpan.laneShift (address + UInt32.ofNat offset)).toUInt8

end AccessSize

namespace PortState

/-- An access to the data register counts the address up, in its low ten bits only. -/
def advance (size : AccessSize) (state : PortState) : PortState :=
  { state with
    tar := state.tar - state.tar % 0x400 + (state.tar + UInt32.ofNat size.width) % 0x400 }

/-- The port is set up for aligned accesses of a size, with single increment. -/
def SetFor (size : AccessSize) (state : PortState) : Prop :=
  state.csw = (ControlWord.ofSize size).word ∧ state.tar.toNat % size.width = 0

/-- A word written to the data register is stored at the address. -/
def store (size : AccessSize) (value : UInt32) (state : PortState) : PortState :=
  { state with memory := state.memory.overlay state.tar.toNat (size.lanes state.tar value) }

end PortState

variable {τ : Type}

/-- A target with a memory access port: what it does with the accesses that are performed, and that
an access which is refused is not performed. -/
structure MemoryTarget (model : TargetModel τ) (port : MemoryPort) (select : τ → UInt32)
    (observe : τ → PortState) : Prop where
  tracks : model.TracksSelect select
  refuses : ∀ {transfer code state next}, model.refuses transfer code state next →
    observe next = observe state
  debug : ∀ {transfer word state next}, model.completes transfer word state next →
    transfer.port = .debug → observe next = observe state
  csw : ∀ {value word state next},
    model.completes (RegisterAccess.write port.csw value).wire word state next →
    port.csw.ReachedUnder (select state) → observe next = { observe state with csw := value }
  tar : ∀ {value word state next},
    model.completes (RegisterAccess.write port.tar value).wire word state next →
    port.tar.ReachedUnder (select state) → observe next = { observe state with tar := value }
  read : ∀ {size word state next},
    model.completes (RegisterAccess.read port.drw).wire (some word) state next →
    port.drw.ReachedUnder (select state) → (observe state).SetFor size →
    size.lanes (observe state).tar word =
        (observe state).memory.bytes (observe state).tar.toNat size.width ∧
      observe next = (observe state).advance size
  write : ∀ {size value word state next},
    model.completes (RegisterAccess.write port.drw value).wire word state next →
    port.drw.ReachedUnder (select state) → (observe state).SetFor size →
    observe next = ((observe state).store size value).advance size

/-- What accesses to the data register do to the memory if each goes to the address behind the one
before. -/
inductive MemorySteps (port : MemoryPort) (size : AccessSize) :
    (address : Nat) → List RegisterAccess → Contents → List UInt32 → Contents → Prop
  | nil (address : Nat) (memory : Contents) : MemorySteps port size address [] memory [] memory
  | read {address : Nat} {rest : List RegisterAccess} {memory last : Contents} {word : UInt32}
      {words : List UInt32}
      (holds : size.lanes (UInt32.ofNat address) word = memory.bytes address size.width)
      (later : MemorySteps port size (address + size.width) rest memory words last) :
      MemorySteps port size address (.read port.drw :: rest) memory (word :: words) last
  | write {address : Nat} {rest : List RegisterAccess} {memory last : Contents} {value : UInt32}
      {words : List UInt32}
      (later : MemorySteps port size (address + size.width) rest
        (memory.overlay (UInt32.ofNat address).toNat (size.lanes (UInt32.ofNat address) value))
        words last) :
      MemorySteps port size address (.write port.drw value :: rest) memory words last

namespace MemoryTarget

variable {model : TargetModel τ} {port : MemoryPort} {select : τ → UInt32} {observe : τ → PortState}

/-- A target with fewer ways of answering does nothing else. -/
theorem restrict {narrow : TargetModel τ} (target : MemoryTarget model port select observe)
    (completes : ∀ {transfer word state next}, narrow.completes transfer word state next →
      model.completes transfer word state next)
    (refuses : ∀ {transfer code state next}, narrow.refuses transfer code state next →
      model.refuses transfer code state next) :
    MemoryTarget narrow port select observe where
  tracks := ⟨fun step ↦ target.tracks.completes (completes step),
    fun step ↦ target.tracks.refuses (refuses step)⟩
  refuses step := target.refuses (refuses step)
  debug step := target.debug (completes step)
  csw step := target.csw (completes step)
  tar step := target.tar (completes step)
  read step := target.read (completes step)
  write step := target.write (completes step)

/-- Refusals and writes of SELECT leave the port alone. -/
theorem observe_of_none (target : MemoryTarget model port select observe) {state last : τ}
    {data : List (Option UInt32)} (performed : model.Performed select [] state data last) :
    data = [] ∧ observe last = observe state := by
  generalize shape : ([] : List RegisterAccess) = accesses at performed
  induction performed with
  | nil state => exact ⟨rfl, rfl⟩
  | refused step _ ih =>
    obtain ⟨none, same⟩ := ih shape
    exact ⟨none, same.trans (target.refuses step)⟩
  | selected step _ ih =>
    obtain ⟨none, same⟩ := ih shape
    exact ⟨none, same.trans (target.debug step rfl)⟩
  | access => nomatch shape

/-- The first of several accesses meets the port as it was. -/
theorem observe_of_cons (target : MemoryTarget model port select observe) {state last : τ}
    {access : RegisterAccess} {rest : List RegisterAccess} {data : List (Option UInt32)}
    (performed : model.Performed select (access :: rest) state data last) :
    ∃ word later before next, data = word :: later ∧ word.isSome = access.wire.isRead ∧
      observe before = observe state ∧ access.register.ReachedUnder (select before) ∧
      model.completes access.wire word before next ∧
      model.Performed select rest next later last := by
  generalize shape : access :: rest = accesses at performed
  induction performed with
  | nil state => nomatch shape
  | refused step _ ih =>
    obtain ⟨word, later, before, next, data, kind, same, reached, completes, others⟩ := ih shape
    exact ⟨word, later, before, next, data, kind, same.trans (target.refuses step), reached,
      completes, others⟩
  | selected step _ ih =>
    obtain ⟨word, later, before, next, data, kind, same, reached, completes, others⟩ := ih shape
    exact ⟨word, later, before, next, data, kind, same.trans (target.debug step rfl), reached,
      completes, others⟩
  | @access access' rest' state next last word data reached kind step later _ =>
    obtain ⟨rfl, rfl⟩ := List.cons.inj shape
    exact ⟨word, data, state, next, rfl, kind, rfl, reached, step, later⟩

end MemoryTarget

end DebugProbe
