import DebugProbe.Proofs.Bounds.Link
import DebugProbe.Proofs.Memory.Plan
import DebugProbe.Session.Memory

/-!
# Memory accesses inside their data

Bytes that are written are taken from the data at an offset, which goes on by the size of each span.
The spans cover just as many bytes as there are, so the offset never passes the end; and addresses
are counted in 64 bits, which hold the end of every access.
-/

namespace DebugProbe

/-- As many words are read as were asked for. -/
theorem Bytes.length_words (count : Nat) (bytes : Bytes) : (words count bytes).length = count := by
  induction count generalizing bytes with
  | zero => rfl
  | succ count ih => rw [words, List.length_cons, ih]

namespace Checked

variable {σ ε : Type}

/-- Word runs that cover everything from an aligned address to an aligned end. -/
def runs (address stop : Nat) : Checked σ ε (List MemorySpan) := do
  if address < stop then
    let windowEnd := MemorySpan.windowEnd address
    let _ ← demand (windowEnd < UInt64.size)
    let next := min windowEnd stop
    let bytes ← minus next address
    let later ← runs next stop
    return .words (UInt32.ofNat address) (bytes / 4) :: later
  else return []
termination_by stop - address
decreasing_by
  have := MemorySpan.lt_windowEnd address
  omega

/-- The spans of an access to `size` bytes from an address on. -/
def plan (address : UInt32) (size : Nat) : Checked σ ε (List MemorySpan) := do
  let start := address.toNat
  let stop := start + size
  let _ ← demand (stop < UInt64.size)
  let head := min ((4 - start % 4) % 4) size
  let aligned := start + head
  let wordStop := max aligned (stop - stop % 4)
  let middle ← runs aligned wordStop
  return MemorySpan.bytes start head ++ middle ++ MemorySpan.bytes wordStop (stop - wordStop)

theorem gives_runs {address stop : Nat} (small : stop + MemorySpan.window < UInt64.size) :
    (runs address stop : Checked σ ε _).Gives (.ok (MemorySpan.runs address stop)) := by
  induction address using MemorySpan.runs.induct stop with
  | case1 address less next ih =>
    have above := MemorySpan.lt_windowEnd address
    have near : MemorySpan.windowEnd address < UInt64.size := by
      unfold MemorySpan.windowEnd MemorySpan.window at *
      omega
    rw [runs, if_pos less, MemorySpan.runs, if_pos less]
    exact .found (dif_pos near) (.found (if_pos (by omega)) (.given ih (.ok _)))
  | case2 address past =>
    rw [runs, if_neg past, MemorySpan.runs, if_neg past]
    exact .ok []

/-- The plan of an access that is not absurdly large is computed without passing 64 bits. -/
theorem gives_plan (address : UInt32) {size : Nat} (small : 2 * size < UInt64.size) :
    (plan address size : Checked σ ε _).Gives (.ok (MemorySpan.plan address size)) := by
  have bound : address.toNat < UInt32.size := address.toNat_lt
  have near : address.toNat + size < UInt64.size := by
    unfold UInt64.size UInt32.size at *
    omega
  have ends : max (address.toNat + min ((4 - address.toNat % 4) % 4) size)
      (address.toNat + size - (address.toNat + size) % 4) + MemorySpan.window <
        UInt64.size := by
    unfold MemorySpan.window UInt64.size UInt32.size at *
    omega
  exact .found (dif_pos near) (.given (gives_runs ends) (.ok _))

/-- The words of bytes from a position on, each of four bytes that must be there. -/
def wordsOf (bytes : Bytes) (position : Nat) : (count : Nat) → Checked σ ε (List UInt32)
  | 0 => return []
  | count + 1 => do
    let chunk ← part bytes position (position + 4)
    let later ← wordsOf bytes (position + 4) count
    return UInt32.ofNat (Bytes.number chunk) :: later

theorem gives_wordsOf {bytes : Bytes} {position count : Nat}
    (inside : position + 4 * count ≤ bytes.length) :
    (wordsOf bytes position count : Checked σ ε _).Gives
      (.ok (Bytes.words count (bytes.drop position))) := by
  induction count generalizing position with
  | zero => exact .ok []
  | succ count ih =>
    have fewer : position + 4 + 4 * count ≤ bytes.length := by omega
    refine .part (by omega) (.given (ih fewer) ?_)
    rw [Bytes.words, List.drop_drop]
    exact .ok _

end Checked

namespace Checked.OnSession

variable {σ : Type} [Transport σ]

/-- Queues accesses; if one is refused the batch is dropped. -/
def queueAll (packetSize : Nat) : List RegisterAccess → Checked (Link σ) AccessError Unit
  | [] => pure ()
  | access :: rest => do
    let _ ← (OnLink.queue packetSize access).onError fun _ ↦ Link.discard
    queueAll packetSize rest

/-- Runs accesses as one batch, and fails with the first failure among them. -/
def runAll (config : TransferConfig) (accesses : List RegisterAccess) :
    Checked (Link σ) AccessError (List (Option UInt32)) := do
  ofAction Link.checkNoneQueued
  queueAll (← ofAction (Link.onProbe Probe.packetSize)) accesses
  ofExcept (Session.results (← OnLink.flush config))

/-- Reads the bytes of a span. -/
def readSpan (config : TransferConfig) (port : MemoryPort) :
    MemorySpan → Checked (Link σ) AccessError Bytes
  | .byte address => do
    let values ← runAll config (Session.setUp port .byte address ++ [.read port.drw])
    let word ← ofExcept (Session.requireValue values.getLast?.join)
    return [(word >>> MemorySpan.laneShift address).toUInt8]
  | .words address count => do
    let _ ← runAll config (Session.setUp port .word address)
    return Bytes.ofWords
      (← OnLink.block config port.drw (.read count) (some ⟨port.tar, address⟩))

/-- Reads spans one after the other. -/
def readSpans (config : TransferConfig) (port : MemoryPort) :
    List MemorySpan → Checked (Link σ) AccessError Bytes
  | [] => pure []
  | span :: rest => do
    let front ← readSpan config port span
    return front ++ (← readSpans config port rest)

/-- Writes the bytes from an offset on to a span. -/
def writeSpan (config : TransferConfig) (port : MemoryPort) (data : Bytes) (offset : Nat) :
    MemorySpan → Checked (Link σ) AccessError Unit
  | .byte address => do
    let byte ← item data offset
    let value := byte.toUInt32 <<< MemorySpan.laneShift address
    let _ ← runAll config (Session.setUp port .byte address ++ [.write port.drw value])
  | .words address count => do
    let bytes ← part data offset (offset + 4 * count)
    let words ← wordsOf bytes 0 count
    let _ ← runAll config (Session.setUp port .word address)
    let _ ← OnLink.block config port.drw (.write words) (some ⟨port.tar, address⟩)

/-- Writes the bytes from an offset on to spans, one after the other. -/
def writeSpans (config : TransferConfig) (port : MemoryPort) (data : Bytes) :
    List MemorySpan → (offset : Nat) → Checked (Link σ) AccessError Unit
  | [], _ => pure ()
  | span :: rest, offset => do
    writeSpan config port data offset span
    writeSpans config port data rest (offset + span.size)

end Checked.OnSession

namespace Session

open Checked (Matches)

variable {σ : Type} [Transport σ]

omit [Transport σ] in
theorem matches_queueAll (packetSize : Nat) (accesses : List RegisterAccess) (link : Link σ) :
    (Checked.OnSession.queueAll packetSize accesses).Matches (queueAll packetSize accesses)
      link := by
  induction accesses generalizing link with
  | nil => exact .pure _ _
  | cons access rest ih =>
    exact ((Link.matches_queue packetSize access link).onError _).bind fun _ link _ ↦ ih link

theorem matches_runAll (config : TransferConfig) (accesses : List RegisterAccess)
    (link : Link σ) :
    (Checked.OnSession.runAll config accesses).Matches (runAll config accesses) link := by
  refine .lift_bind fun _ link _ ↦ ?_
  refine .lift_bind fun size link _ ↦ ?_
  refine (matches_queueAll size accesses link).bind fun _ link _ ↦ ?_
  exact (Link.matches_flush config link).bind fun _ _ _ ↦ .lift _ _

/-- A run of words within a window is small enough for the counters of a block. -/
private theorem small_of_begins {address count : Nat} {location : UInt32}
    (begins : (MemorySpan.words location count).Begins address) : 4 * count < UInt32.size := by
  obtain ⟨-, -, within⟩ := begins
  unfold MemorySpan.window at within
  show 4 * count < 4294967296
  omega

theorem matches_readSpan (config : TransferConfig) (port : MemoryPort) {span : MemorySpan}
    {address : Nat} (begins : span.Begins address) (link : Link σ) :
    (Checked.OnSession.readSpan config port span).Matches (readSpan config port span) link := by
  cases span with
  | byte location =>
    refine (matches_runAll config _ link).bind fun values link _ ↦ ?_
    exact .lift_bind fun _ _ _ ↦ .pure _ _
  | words location count =>
    refine (matches_runAll config _ link).bind fun _ link _ ↦ ?_
    refine (Link.matches_block config port.drw (small_of_begins begins) _ link).bind
      fun _ _ _ ↦ ?_
    exact .pure _ _

theorem matches_readSpans (config : TransferConfig) (port : MemoryPort) {spans : List MemorySpan}
    {address stop : Nat} (tiles : MemorySpan.Tiles address spans stop) (link : Link σ) :
    (Checked.OnSession.readSpans config port spans).Matches (readSpans config port spans) link := by
  induction tiles generalizing link with
  | nil address => exact .pure _ _
  | cons begins later ih =>
    refine (matches_readSpan config port begins link).bind fun front link _ ↦ ?_
    exact (ih link).bind fun _ _ _ ↦ .pure _ _

theorem matches_writeSpan (config : TransferConfig) (port : MemoryPort) {span : MemorySpan}
    {address : Nat} (begins : span.Begins address) {data : Bytes} {offset : Nat}
    (inside : offset + span.size ≤ data.length) (link : Link σ) :
    (Checked.OnSession.writeSpan config port data offset span).Matches
      (writeSpan config port ((data.drop offset).take span.size) span) link := by
  cases span with
  | byte location =>
    have before : offset < data.length := inside
    have here : Bytes.byteAt ((data.drop offset).take 1) 0 = data[offset] := by
      rw [List.drop_eq_getElem_cons before]
      rfl
    refine .item (List.getElem?_eq_getElem before) ?_
    unfold writeSpan
    dsimp only [MemorySpan.size]
    rw [here]
    exact (matches_runAll config _ link).bind fun _ _ _ ↦ .pure _ _
  | words location count =>
    have range : offset ≤ offset + 4 * count ∧ offset + 4 * count ≤ data.length :=
      ⟨Nat.le_add_right _ _, inside⟩
    have size : ((data.drop offset).take (4 * count)).length = 4 * count := by
      rw [List.length_take, List.length_drop]
      omega
    refine .part range ?_
    rw [Nat.add_sub_cancel_left]
    dsimp only [MemorySpan.size]
    generalize (data.drop offset).take (4 * count) = bytes at size
    have words : (Bytes.words count bytes).length = count := Bytes.length_words count bytes
    have small : 4 * (BlockData.write (Bytes.words count bytes)).size < UInt32.size := by
      rw [BlockData.size, words]
      exact small_of_begins begins
    have whole : 0 + 4 * count ≤ bytes.length := by omega
    refine .given (Checked.gives_wordsOf whole) ?_
    refine (matches_runAll config _ link).bind fun _ link _ ↦ ?_
    refine Matches.bind ?_ fun _ _ _ ↦ .pure _ _
    exact Link.matches_block config port.drw small _ link

theorem matches_writeSpans (config : TransferConfig) (port : MemoryPort) {spans : List MemorySpan}
    {address stop : Nat} (tiles : MemorySpan.Tiles address spans stop) {data : Bytes}
    {offset : Nat} (covers : data.length - offset = stop - address) (le : offset ≤ data.length)
    (link : Link σ) :
    (Checked.OnSession.writeSpans config port data spans offset).Matches
      (writeSpans config port spans (data.drop offset)) link := by
  induction tiles generalizing offset link with
  | nil address => exact .pure _ _
  | @cons address stop span rest begins later ih =>
    have := later.le
    refine (matches_writeSpan config port begins (by omega) link).bind fun _ link _ ↦ ?_
    have rest : data.length - (offset + span.size) = stop - (address + span.size) := by omega
    have inside : offset + span.size ≤ data.length := by omega
    have onward := ih rest inside link
    rw [← List.drop_drop] at onward
    exact onward

end Session

end DebugProbe
