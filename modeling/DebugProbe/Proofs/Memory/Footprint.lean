import DebugProbe.Proofs.Memory.Trace
import DebugProbe.Proofs.Select.Trace

/-!
# Where memory accesses go

The bytes that the target is made to access follow from the register accesses that it carried out:
the control word says how many of them an access to the data register reaches, and the address
register says which. They are those that the spans name, in order and each once, however often a
block has to wait.
-/

namespace DebugProbe

/-- What a memory access port is set up for, and the places of the bytes that were accessed through
it, oldest first. -/
structure Footprint where
  csw : UInt32 := 0
  tar : UInt32 := 0
  places : List Nat := []
  deriving DecidableEq, Repr

namespace Footprint

/-- Number of bytes that an access to the data register reaches. -/
def width (footprint : Footprint) : Nat := 1 <<< (ControlWord.size.get footprint.csw).toNat

/-- An access to the data register reaches the bytes from the address on, and then counts it up
within its window if the control word asks for single increment. -/
def reach (footprint : Footprint) : Footprint :=
  { footprint with
    tar :=
      if ControlWord.increment.get footprint.csw = 1 then
        footprint.tar - footprint.tar % 0x400 +
          (footprint.tar + UInt32.ofNat footprint.width) % 0x400
      else footprint.tar
    places := footprint.places ++ List.range' footprint.tar.toNat footprint.width }

/-- What an access to a register in the first bank of the port does. -/
def meet (footprint : Footprint) (transfer : Transfer) : Footprint :=
  if transfer.address &&& 0x0C = 0x0C then footprint.reach
  else
    match transfer.value with
    | none => footprint
    | some value =>
      if transfer.address &&& 0x0C = 0x00 then { footprint with csw := value }
      else if transfer.address &&& 0x0C = 0x04 then { footprint with tar := value }
      else footprint

/-- Register accesses one after the other. -/
def after (footprint : Footprint) (accesses : List RegisterAccess) : Footprint :=
  accesses.foldl (fun footprint access ↦ footprint.meet access.wire) footprint

end Footprint

/-- What the port does with an access that was carried out while SELECT had some value. -/
def MemoryPort.note (port : MemoryPort) (footprint : Footprint) (event : Transfer × UInt32) :
    Footprint :=
  if event.1.port = .access ∧ Select.accessPort.getByte event.2 = port.index ∧
      Select.accessPortBank.getByte event.2 = 0 then
    footprint.meet event.1
  else footprint

/-- What all accesses in a trace did at a port. -/
def SelectTrace.footprint (port : MemoryPort) (trace : SelectTrace) : Footprint :=
  trace.log.foldl port.note {}

namespace SelectTrace

variable {port : MemoryPort} {accesses : List RegisterAccess}

/-- An access to one of the three registers of the port is met by the port. -/
private theorem note_of_reached {access : RegisterAccess} {held : UInt32}
    (through : access.register = port.csw ∨ access.register = port.tar ∨
      access.register = port.drw)
    (reached : access.register.ReachedUnder held) (footprint : Footprint) :
    port.note footprint (access.wire, held) = footprint.meet access.wire := by
  obtain ⟨low, register, first⟩ :
      ∃ low, access.register = port.register low ∧ low >>> 4 = 0 := by
    rcases through with csw | tar | drw
    · exact ⟨0x00, csw, by decide⟩
    · exact ⟨0x04, tar, by decide⟩
    · exact ⟨0x0C, drw, by decide⟩
  rw [register] at reached
  have side : access.wire.port = .access := congrArg RegisterAddress.port register
  exact if_pos ⟨side, reached.1, reached.2.trans first⟩

/-- Only the accesses that were asked for concern the port. -/
private theorem note_of_accounts {events : List (Transfer × UInt32)}
    (accounts : Accounts accesses events) (through : MemorySpan.Through port accesses)
    (footprint : Footprint) : events.foldl port.note footprint = footprint.after accesses := by
  induction accounts generalizing footprint with
  | nil => rfl
  | @other transfer held accesses events free _ ih =>
    have apart : port.note footprint (transfer, held) = footprint :=
      if_neg fun meant ↦ free (.inl meant.1)
    rw [List.foldl_cons, apart, ih through]
  | access reached _ ih =>
    rw [List.foldl_cons, note_of_reached (through _ List.mem_cons_self) reached,
      ih fun other member ↦ through other (List.mem_cons_of_mem _ member)]
    rfl

/-- The accesses that account for what happened account for its footprint. -/
theorem Logged.footprint_eq {before after : SelectTrace} (logged : Logged accesses before after)
    (through : MemorySpan.Through port accesses) :
    after.footprint port = (before.footprint port).after accesses := by
  obtain ⟨events, kept, accounts⟩ := logged
  unfold footprint
  rw [kept, List.foldl_append, note_of_accounts accounts through]

end SelectTrace

namespace Footprint

variable {port : MemoryPort} {footprint : Footprint}

theorem after_append (footprint : Footprint) (first second : List RegisterAccess) :
    footprint.after (first ++ second) = (footprint.after first).after second := List.foldl_append

/-- Places that were accessed stay accessed. -/
theorem places_prefix_after (footprint : Footprint) (accesses : List RegisterAccess) :
    footprint.places <+: (footprint.after accesses).places := by
  induction accesses generalizing footprint with
  | nil => exact List.prefix_rfl
  | cons access rest ih =>
    refine List.IsPrefix.trans ?_ (ih (footprint.meet access.wire))
    unfold meet
    split
    · exact List.prefix_append _ _
    · repeat' split
      all_goals exact List.prefix_rfl

/-- The low bits of an address are what is left of it on the wire. -/
private theorem address_wire {access : RegisterAccess} {low : UInt8}
    (register : access.register = port.register low) (whole : low &&& 0x0C = low) :
    access.wire.address &&& 0x0C = low := by
  rw [access.address_wire, register]
  show (low &&& 0x0C) &&& 0x0C = low
  rw [whole, whole]

private theorem meet_csw (value : UInt32) :
    footprint.meet (RegisterAccess.write port.csw value).wire =
      { footprint with csw := value } := by
  have low := @address_wire port (.write port.csw value) 0x00 rfl (by decide)
  unfold meet
  rw [low]
  rfl

private theorem meet_tar (value : UInt32) :
    footprint.meet (RegisterAccess.write port.tar value).wire =
      { footprint with tar := value } := by
  have low := @address_wire port (.write port.tar value) 0x04 rfl (by decide)
  unfold meet
  rw [low]
  rfl

private theorem meet_drw {access : RegisterAccess} (isData : access.register = port.drw) :
    footprint.meet access.wire = footprint.reach :=
  if_pos (address_wire isData (by decide))

/-- Setting the port up leaves the places alone. -/
private theorem after_setUp (footprint : Footprint) (size : AccessSize) (address : UInt32)
    (rest : List RegisterAccess) :
    footprint.after (Session.setUp port size address ++ rest) =
      Footprint.after ⟨(ControlWord.ofSize size).word, address, footprint.places⟩ rest := by
  show ((footprint.meet (RegisterAccess.write port.csw (ControlWord.ofSize size).word).wire).meet
    (RegisterAccess.write port.tar address).wire).after rest = _
  rw [meet_csw, meet_tar]

/-- Once the port is set up for a size, the next access reaches so many bytes. -/
theorem places_reach {size : AccessSize} (csw : footprint.csw = (ControlWord.ofSize size).word) :
    footprint.reach.places =
      footprint.places ++ List.range' footprint.tar.toNat size.width := by
  have width : footprint.width = size.width := by
    unfold Footprint.width
    rw [csw]
    cases size <;> decide
  unfold reach
  rw [width]

/-- Within a window the address counts up by the size of an access. -/
private theorem tar_reach (csw : footprint.csw = (ControlWord.ofSize .word).word)
    (inside : footprint.tar.toNat % 1024 + 4 < 1024) :
    footprint.reach.tar.toNat = footprint.tar.toNat + 4 := by
  have single : ControlWord.increment.get footprint.csw = 1 := by
    rw [csw]
    decide
  have width : footprint.width = 4 := by
    unfold Footprint.width
    rw [csw]
    decide
  have bound := footprint.tar.toNat_lt
  unfold reach
  dsimp only
  rw [if_pos single, width, MemorySpan.window_add inside, UInt32.toNat_add]
  show (footprint.tar.toNat + 4) % 4294967296 = footprint.tar.toNat + 4
  omega

/-- A block reaches consecutive words. -/
private theorem places_of_resumed {base : UInt32} {completed : Nat}
    {accesses trace : List RegisterAccess}
    (resumed : Link.Resumed (some ⟨port.tar, base⟩) completed accesses trace)
    (isData : ∀ access ∈ accesses, access.register = port.drw)
    (within : base.toNat % 1024 + 4 * (completed + accesses.length) ≤ 1024)
    (csw : footprint.csw = (ControlWord.ofSize .word).word)
    (tar : accesses ≠ [] → footprint.tar.toNat = base.toNat + 4 * completed) :
    (footprint.after trace).places =
      footprint.places ++ List.range' (base.toNat + 4 * completed) (4 * accesses.length) := by
  -- As long as an access is left the address register holds its address; after the last access of a
  -- window it does not, because the window wraps.
  induction resumed generalizing footprint with
  | nil completed => exact (List.append_nil _).symm
  | @access completed access rest trace later ih =>
    have known := tar nofun
    rw [List.length_cons] at within
    have next : (footprint.after (access :: trace)).places =
        (footprint.reach.after trace).places := by
      rw [← meet_drw (isData access List.mem_cons_self)]
      rfl
    have others := @ih footprint.reach
      (fun other member ↦ isData other (List.mem_cons_of_mem access member)) (by omega) csw ?_
    · have count : 4 * (rest.length + 1) = 4 + 4 * rest.length := by omega
      rw [next, others, places_reach csw, known, List.append_assoc, List.length_cons, count,
        ← List.range'_append_1]
      rfl
    · intro some
      have left := List.length_pos_iff.mpr some
      rw [tar_reach csw (by omega), known]
      omega
  | @rearm completed accesses trace later ih =>
    have rearmed : footprint.after
        (Link.rearming (some ⟨port.tar, base⟩) completed ++ trace) =
          Footprint.after { footprint with tar := base + 4 * UInt32.ofNat completed } trace := by
      rw [← meet_tar]
      rfl
    rw [rearmed]
    refine @ih { footprint with tar := base + 4 * UInt32.ofNat completed } isData within csw ?_
    intro some
    have left := List.length_pos_iff.mpr some
    have bound := base.toNat_lt
    show (base + 4 * UInt32.ofNat completed).toNat = _
    rw [UInt32.toNat_add, UInt32.toNat_mul, UInt32.toNat_ofNat']
    show (base.toNat + 4 * (completed % 4294967296) % 4294967296) % 4294967296 = _
    omega

/-- The accesses of a span reach the places of the span. -/
private theorem places_of_takes {span : MemorySpan} {accesses trace : List RegisterAccess}
    (takes : span.Takes port accesses trace) (inWindow : span.InWindow)
    (fills : span.Fills port accesses) (footprint : Footprint) :
    (footprint.after trace).places = footprint.places ++ span.places := by
  obtain ⟨isData, count⟩ := fills
  cases takes with
  | @byte address accesses =>
    obtain ⟨access, rfl⟩ := List.length_eq_one_iff.mp count
    rw [after_setUp]
    show (meet _ access.wire).places = _
    rw [meet_drw (isData access List.mem_cons_self)]
    exact @places_reach _ .byte rfl
  | @words address count' accesses block resumed =>
    have within : address.toNat % 1024 + 4 * (0 + accesses.length) ≤ 1024 := by
      rw [count, Nat.zero_add]
      exact inWindow
    rw [after_setUp, places_of_resumed resumed isData within rfl (fun _ ↦ rfl), count]
    rfl

/-- The accesses of several spans reach the places of the spans, one span after the other. -/
theorem places_of_takesAll {spans : List (MemorySpan × List RegisterAccess)}
    {trace : List RegisterAccess} (takesAll : MemorySpan.TakesAll port spans trace)
    (inWindow : ∀ span ∈ spans.map Prod.fst, span.InWindow)
    (fills : ∀ pair ∈ spans, pair.1.Fills port pair.2) (footprint : Footprint) :
    (footprint.after trace).places =
      footprint.places ++ (spans.map Prod.fst).flatMap MemorySpan.places := by
  induction takesAll generalizing footprint with
  | nil => exact (List.append_nil _).symm
  | cons takes _ ih =>
    obtain ⟨inside, insideRest⟩ := List.forall_mem_cons.mp inWindow
    obtain ⟨first, others⟩ := List.forall_mem_cons.mp fills
    rw [after_append, ih insideRest others, places_of_takes takes inside first,
      List.append_assoc]
    rfl

end Footprint

end DebugProbe
