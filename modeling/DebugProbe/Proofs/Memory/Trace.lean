import DebugProbe.Proofs.Memory.Plan
import DebugProbe.Proofs.Memory.Port
import DebugProbe.Proofs.Session.Spans

/-!
# Accesses of a memory access at the target

The accesses that a memory access makes, as far as the target performs them, reach the data register
with the port set up for the address that is meant, however often a block has to wait.
-/

namespace DebugProbe

/-- The size of the accesses to the data register. -/
def MemorySpan.accessSize : MemorySpan → AccessSize
  | .byte _ => .byte
  | .words _ _ => .word

/-- Within a window the low ten bits of an address count up as all of it does. -/
theorem MemorySpan.window_add {address step : UInt32}
    (inside : address.toNat % 1024 + step.toNat < 1024) :
    address - address % 0x400 + (address + step) % 0x400 = address + step := by
  apply UInt32.toNat_inj.mp
  have bound := address.toNat_lt
  have below : address % 0x400 ≤ address := by
    rw [UInt32.le_iff_toNat_le, UInt32.toNat_mod]
    exact Nat.mod_le _ _
  rw [UInt32.toNat_add, UInt32.toNat_sub_of_le _ _ below, UInt32.toNat_mod, UInt32.toNat_mod,
    UInt32.toNat_add]
  show (address.toNat - address.toNat % 1024 +
    (address.toNat + step.toNat) % 4294967296 % 1024) % 4294967296 =
      (address.toNat + step.toNat) % 4294967296
  omega

namespace PortState

/-- Within a window the address counts up by the size of an access. -/
theorem tar_advance {size : AccessSize} {state : PortState}
    (inside : state.tar.toNat % 1024 + size.width < 1024) :
    (state.advance size).tar = state.tar + UInt32.ofNat size.width := by
  have small : size.width < UInt32.size := by
    cases size <;> decide
  refine MemorySpan.window_add ?_
  rw [UInt32.toNat_ofNat_of_lt' small]
  exact inside

end PortState

namespace Contents

/-- Addresses of a memory wrap. -/
theorem bytes_wrap (contents : Contents) (address count : Nat) :
    contents.bytes (UInt32.ofNat address).toNat count = contents.bytes address count := by
  apply List.ext_getElem?
  intro position
  by_cases less : position < count
  · rw [getElem?_bytes _ _ less, getElem?_bytes _ _ less]
    have same : UInt32.ofNat ((UInt32.ofNat address).toNat + position) =
        UInt32.ofNat (address + position) := by
      apply UInt32.toNat_inj.mp
      rw [UInt32.toNat_ofNat', UInt32.toNat_ofNat', UInt32.toNat_ofNat']
      omega
    rw [same]
  · rw [List.getElem?_eq_none (by rw [length_bytes]; omega),
      List.getElem?_eq_none (by rw [length_bytes]; omega)]

end Contents

/-- Counting in words from an address is counting in bytes. -/
private theorem address_add (address completed : Nat) :
    UInt32.ofNat address + 4 * UInt32.ofNat completed = UInt32.ofNat (address + 4 * completed) := by
  apply UInt32.toNat_inj.mp
  rw [UInt32.toNat_add, UInt32.toNat_mul, UInt32.toNat_ofNat', UInt32.toNat_ofNat',
    UInt32.toNat_ofNat']
  show (address % 4294967296 + 4 * (completed % 4294967296) % 4294967296) % 4294967296 =
    (address + 4 * completed) % 4294967296
  omega

namespace MemoryTarget

variable {τ : Type} {model : TargetModel τ} {port : MemoryPort} {select : τ → UInt32}
  {observe : τ → PortState}

/-- One access to the data register of a port that is set up for it. -/
private theorem data_step (target : MemoryTarget model port select observe) {size : AccessSize}
    {access : RegisterAccess} (isData : access.register = port.drw) {address : Nat}
    {word : Option UInt32} {state next : τ} (kind : word.isSome = access.wire.isRead)
    (step : model.completes access.wire word state next)
    (reached : access.register.ReachedUnder (select state))
    (csw : (observe state).csw = (ControlWord.ofSize size).word)
    (tar : (observe state).tar = UInt32.ofNat address) (aligned : address % size.width = 0) :
    ∃ memory, observe next = { (observe state).advance size with memory } ∧
      ∀ {rest : List RegisterAccess} {words : List UInt32} {last : Contents},
        MemorySteps port size (address + size.width) rest memory words last →
        MemorySteps port size address (access :: rest) (observe state).memory
          (word.toList ++ words) last := by
  have ready : (observe state).SetFor size := by
    refine ⟨csw, ?_⟩
    rw [tar, UInt32.toNat_ofNat']
    cases size with
    | byte => exact Nat.mod_one _
    | word =>
      show address % 4294967296 % 4 = 0
      have : address % 4 = 0 := aligned
      omega
  rw [isData] at reached
  cases access with
  | read register =>
    obtain rfl : register = port.drw := isData
    obtain ⟨value, rfl⟩ := Option.isSome_iff_exists.mp kind
    obtain ⟨holds, after⟩ := target.read step reached ready
    refine ⟨_, after, fun later ↦ .read ?_ later⟩
    rw [tar, Contents.bytes_wrap] at holds
    exact holds
  | write register value =>
    obtain rfl : register = port.drw := isData
    obtain rfl := Option.isNone_iff_eq_none.mp (Option.isSome_eq_false_iff.mp kind)
    refine ⟨_, target.write step reached ready, fun later ↦ .write ?_⟩
    rw [← tar]
    exact later

/-- Where nothing is performed no access has reached its address. -/
private theorem no_steps (target : MemoryTarget model port select observe) {size : AccessSize}
    {address : Nat} {accesses trace : List RegisterAccess} {state last : τ}
    {data : List (Option UInt32)} (performed : model.Performed select [] state data last)
    (none : [] = trace → [] = accesses) :
    ∃ done, done <+: accesses ∧ ([] = trace → done = accesses) ∧
      MemorySteps port size address done (observe state).memory (data.filterMap id)
        (observe last).memory := by
  obtain ⟨rfl, same⟩ := target.observe_of_none performed
  rw [same]
  exact ⟨[], List.nil_prefix, none, .nil _ _⟩

/-- The accesses of a block reach consecutive words, as far as they are performed. -/
private theorem block_steps (target : MemoryTarget model port select observe)
    {address completed : Nat} {accesses trace part : List RegisterAccess}
    (aligned : address % 4 = 0)
    (within : address % MemorySpan.window + 4 * (completed + accesses.length) ≤ MemorySpan.window)
    (isData : ∀ access ∈ accesses, access.register = port.drw)
    (resumed : Link.Resumed (some ⟨port.tar, UInt32.ofNat address⟩) completed accesses trace)
    (before : part <+: trace) {state last : τ} {data : List (Option UInt32)}
    (performed : model.Performed select part state data last)
    (csw : (observe state).csw = (ControlWord.ofSize .word).word)
    (tar : accesses ≠ [] → (observe state).tar = UInt32.ofNat (address + 4 * completed)) :
    ∃ done, done <+: accesses ∧ (part = trace → done = accesses) ∧
      MemorySteps port .word (address + 4 * completed) done (observe state).memory
        (data.filterMap id) (observe last).memory := by
  induction resumed generalizing part state data with
  | nil completed =>
    obtain rfl := List.prefix_nil.mp before
    exact target.no_steps performed fun _ ↦ rfl
  | @access completed access rest trace later ih =>
    rcases List.prefix_cons_iff.mp before with rfl | ⟨part, rfl, more⟩
    · exact target.no_steps performed nofun
    · obtain ⟨word, found, ready, next, rfl, kind, same, reached, step, others⟩ :=
        target.observe_of_cons performed
      have known := tar nofun
      rw [← same] at csw known ⊢
      obtain ⟨memory, after, steps⟩ := target.data_step (isData access List.mem_cons_self) kind
        step reached csw known (by show (address + 4 * completed) % 4 = 0; omega)
      rw [List.length_cons] at within
      have csw' : (observe next).csw = (ControlWord.ofSize .word).word := by
        rw [after]
        exact csw
      have tar' :
          rest ≠ [] → (observe next).tar = UInt32.ofNat (address + 4 * (completed + 1)) := by
        intro some
        have left := List.length_pos_iff.mpr some
        have inside : (observe ready).tar.toNat % 1024 + AccessSize.word.width < 1024 := by
          rw [known, UInt32.toNat_ofNat']
          show (address + 4 * completed) % 4294967296 % 1024 + 4 < 1024
          unfold MemorySpan.window at within
          omega
        rw [after]
        show ((observe ready).advance .word).tar = _
        rw [PortState.tar_advance inside, known]
        apply UInt32.toNat_inj.mp
        rw [UInt32.toNat_add, UInt32.toNat_ofNat', UInt32.toNat_ofNat', UInt32.toNat_ofNat']
        show ((address + 4 * completed) % 4294967296 + 4 % 4294967296) % 4294967296 =
          (address + 4 * (completed + 1)) % 4294967296
        omega
      obtain ⟨done, prefixed, whole, finished⟩ := ih (by omega)
        (fun other member ↦ isData other (List.mem_cons_of_mem access member)) more others csw' tar'
      refine ⟨access :: done, (List.prefix_cons_inj access).mpr prefixed, ?_, ?_⟩
      · intro all
        rw [whole (List.cons.inj all).2]
      · rw [after] at finished
        have words : (word :: found).filterMap id = word.toList ++ found.filterMap id := by
          cases word <;> rfl
        rw [words]
        exact steps finished
  | @rearm completed accesses trace later ih =>
    rcases List.prefix_cons_iff.mp before with rfl | ⟨part, rfl, more⟩
    · exact target.no_steps performed nofun
    · obtain ⟨word, found, ready, next, rfl, kind, same, reached, step, others⟩ :=
        target.observe_of_cons performed
      have after := target.tar step reached
      rw [← same] at csw ⊢
      have csw' : (observe next).csw = (ControlWord.ofSize .word).word := by
        rw [after]
        exact csw
      have tar' : accesses ≠ [] → (observe next).tar = UInt32.ofNat (address + 4 * completed) := by
        intro _
        rw [after]
        exact address_add address completed
      obtain ⟨done, prefixed, whole, finished⟩ := ih within isData more others csw' tar'
      obtain rfl := Option.isNone_iff_eq_none.mp (Option.isSome_eq_false_iff.mp kind)
      rw [after] at finished
      exact ⟨done, prefixed, fun all ↦ whole (List.cons.inj all).2, finished⟩

/-- Setting up leaves the memory alone, and the port set up. -/
private theorem setUp_steps (target : MemoryTarget model port select observe) {size : AccessSize}
    {address : UInt32} {rest part : List RegisterAccess}
    (before : part <+: Session.setUp port size address ++ rest) {state last : τ}
    {data : List (Option UInt32)} (performed : model.Performed select part state data last) :
    (part ≠ Session.setUp port size address ++ rest ∧ data.filterMap id = [] ∧
        (observe last).memory = (observe state).memory) ∨
      ∃ more found next, part = Session.setUp port size address ++ more ∧ more <+: rest ∧
        data.filterMap id = found.filterMap id ∧ model.Performed select more next found last ∧
        observe next = ⟨(ControlWord.ofSize size).word, address, (observe state).memory⟩ := by
  rcases List.prefix_cons_iff.mp before with rfl | ⟨part, rfl, more⟩
  · obtain ⟨rfl, same⟩ := target.observe_of_none performed
    exact .inl ⟨nofun, rfl, congrArg _ same⟩
  obtain ⟨word, found, ready, next, rfl, kind, same, reached, step, others⟩ :=
    target.observe_of_cons performed
  obtain rfl := Option.isNone_iff_eq_none.mp (Option.isSome_eq_false_iff.mp kind)
  have sized := target.csw step reached
  rcases List.prefix_cons_iff.mp more with rfl | ⟨part, rfl, data⟩
  · obtain ⟨rfl, unchanged⟩ := target.observe_of_none others
    rw [unchanged, sized, same]
    exact .inl ⟨nofun, rfl, rfl⟩
  obtain ⟨word, found, ready', next', rfl, kind', same', reached', step', later⟩ :=
    target.observe_of_cons others
  obtain rfl := Option.isNone_iff_eq_none.mp (Option.isSome_eq_false_iff.mp kind')
  have addressed := target.tar step' reached'
  refine .inr ⟨part, found, next', rfl, data, rfl, later, ?_⟩
  rw [addressed, same', sized, same]

/-- The accesses of a span reach the addresses of the span, as far as they are performed. -/
theorem span_steps (target : MemoryTarget model port select observe) {span : MemorySpan}
    {address : Nat} (begins : span.Begins address) {accesses trace part : List RegisterAccess}
    (isData : ∀ access ∈ accesses, access.register = port.drw)
    (count : accesses.length = span.count) (takes : span.Takes port accesses trace)
    (before : part <+: trace) {state last : τ} {data : List (Option UInt32)}
    (performed : model.Performed select part state data last) :
    ∃ done, done <+: accesses ∧ (part = trace → done = accesses) ∧
      MemorySteps port span.accessSize address done (observe state).memory (data.filterMap id)
        (observe last).memory := by
  cases takes with
  | @byte location accesses =>
    obtain rfl : location = UInt32.ofNat address := begins
    rcases target.setUp_steps before performed with ⟨part, none, same⟩ |
      ⟨more, found, next, rfl, later, same, others, ready⟩
    · rw [none, same]
      exact ⟨[], List.nil_prefix, fun all ↦ absurd all part, .nil _ _⟩
    · obtain ⟨access, rfl⟩ := List.length_eq_one_iff.mp count
      rw [same]
      rcases List.prefix_cons_iff.mp later with rfl | ⟨rest, rfl, none⟩
      · obtain ⟨rfl, unchanged⟩ := target.observe_of_none others
        rw [unchanged, ready]
        exact ⟨[], List.nil_prefix, fun all ↦ absurd (List.append_cancel_left all) nofun,
          .nil _ _⟩
      · obtain rfl := List.prefix_nil.mp none
        obtain ⟨word, found, set, last, rfl, kind, unchanged, reached, step, others⟩ :=
          target.observe_of_cons others
        rw [ready] at unchanged
        obtain ⟨memory, after, steps⟩ := target.data_step (isData access List.mem_cons_self) kind
          step reached (congrArg PortState.csw unchanged) (congrArg PortState.tar unchanged)
          (Nat.mod_one address)
        obtain ⟨rfl, finished⟩ := target.observe_of_none others
        refine ⟨[access], List.prefix_rfl, fun _ ↦ rfl, ?_⟩
        rw [finished, after]
        rw [unchanged] at steps
        have words : [word].filterMap id = word.toList ++ [] := by
          cases word <;> rfl
        rw [words]
        exact steps (.nil _ _)
  | @words location count' accesses block resumed =>
    obtain ⟨rfl, aligned, within⟩ := begins
    rcases target.setUp_steps before performed with ⟨part, none, same⟩ |
      ⟨more, found, next, rfl, later, same, others, ready⟩
    · rw [none, same]
      exact ⟨[], List.nil_prefix, fun all ↦ absurd all part, .nil _ _⟩
    · have within : address % MemorySpan.window + 4 * (0 + accesses.length) ≤
          MemorySpan.window := by
        rw [count, Nat.zero_add]
        exact within
      obtain ⟨done, prefixed, whole, steps⟩ := target.block_steps aligned within isData resumed
        later others (by rw [ready]) (fun _ ↦ by rw [ready]; rfl)
      rw [ready] at steps
      rw [same]
      exact ⟨done, prefixed, fun all ↦ whole (List.append_cancel_left all), steps⟩

end MemoryTarget

end DebugProbe
