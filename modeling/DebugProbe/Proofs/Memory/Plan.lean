import DebugProbe.MemorySpan

/-!
# Plans cover what was asked for

The spans of a plan follow each other without gap from the first address to the last one. A run of
words begins at an aligned address and ends within its window. Each span names the bytes from its
own 32-bit address on, so the spans of a plan name the bytes that were asked for, their addresses
wrapped.
-/

namespace DebugProbe

namespace MemorySpan

/-- A span begins at an address that is counted without bound. -/
def Begins (address : Nat) : MemorySpan → Prop
  | .byte location => location = UInt32.ofNat address
  | .words location count =>
    location = UInt32.ofNat address ∧ address % 4 = 0 ∧ address % window + 4 * count ≤ window

/-- Spans follow each other from an address to another one. -/
inductive Tiles : (address : Nat) → List MemorySpan → (stop : Nat) → Prop
  | nil (address : Nat) : Tiles address [] address
  | cons {address stop : Nat} {span : MemorySpan} {rest : List MemorySpan}
      (begins : span.Begins address) (later : Tiles (address + span.size) rest stop) :
      Tiles address (span :: rest) stop

theorem Tiles.append {address middle stop : Nat} {first second : List MemorySpan}
    (tiles : Tiles address first middle) (later : Tiles middle second stop) :
    Tiles address (first ++ second) stop := by
  induction tiles with
  | nil address => exact later
  | cons begins _ ih => exact .cons begins (ih later)

theorem Tiles.le {address stop : Nat} {spans : List MemorySpan} (tiles : Tiles address spans stop) :
    address ≤ stop := by
  induction tiles with
  | nil address => exact Nat.le_refl _
  | cons begins _ ih => exact Nat.le_trans (Nat.le_add_right _ _) ih

/-- Single bytes cover as many addresses. -/
theorem tiles_bytes (address count : Nat) :
    Tiles address (bytes address count) (address + count) := by
  induction count generalizing address with
  | zero => exact .nil address
  | succ count ih =>
    have later := ih (address + 1)
    rw [Nat.add_assoc, Nat.add_comm 1] at later
    exact .cons rfl later

/-- How far a run of words goes that begins at an aligned address. -/
structure RunStep (address next stop : Nat) : Prop where
  less : address < next
  le : next ≤ stop
  aligned : next % 4 = 0
  inWindow : address % window + (next - address) ≤ window
  boundary : next = stop ∨ next % window = 0

theorem runStep_min {address stop : Nat} (less : address < stop) (aligned : stop % 4 = 0) :
    RunStep address (min (windowEnd address) stop) stop := by
  have above := lt_windowEnd address
  have ends : windowEnd address = address - address % window + window := by
    unfold windowEnd window
    omega
  unfold window at ends
  rcases Nat.le_total (windowEnd address) stop with le | le
  · rw [Nat.min_eq_left le]
    exact ⟨above, le, by omega, by unfold window; omega, .inr (by unfold window; omega)⟩
  · rw [Nat.min_eq_right le]
    exact ⟨less, Nat.le_refl stop, aligned, by unfold window; omega, .inl rfl⟩

section RunStep

variable {address next stop : Nat} (step : RunStep address next stop) (start : address % 4 = 0)
include step start

/-- The words of a run cover the whole step. -/
theorem RunStep.size_eq :
    (MemorySpan.words (UInt32.ofNat address) ((next - address) / 4)).size = next - address := by
  have := step.aligned
  show 4 * ((next - address) / 4) = next - address
  omega

theorem RunStep.begins :
    (MemorySpan.words (UInt32.ofNat address) ((next - address) / 4)).Begins address := by
  have inWindow := step.inWindow
  rw [← step.size_eq start] at inWindow
  exact ⟨rfl, start, inWindow⟩

end RunStep

/-- Runs cover everything between two aligned addresses. -/
theorem tiles_runs {address stop : Nat} (le : address ≤ stop)
    (aligned : address < stop → address % 4 = 0 ∧ stop % 4 = 0) :
    Tiles address (runs address stop) stop := by
  induction address using runs.induct stop with
  | case1 address less next ih =>
    obtain ⟨start, ends⟩ := aligned less
    have step : RunStep address next stop := runStep_min less ends
    rw [runs, if_pos less]
    refine .cons (step.begins start) ?_
    rw [step.size_eq start, Nat.add_sub_cancel' (Nat.le_of_lt step.less)]
    exact ih step.le fun _ ↦ ⟨step.aligned, ends⟩
  | case2 address past =>
    rw [runs, if_neg past]
    obtain rfl : address = stop := by omega
    exact .nil address

/-- Where the runs of words in an access begin and end: what lies before them and behind them has no
room for a word. -/
structure Edges (start first last stop : Nat) : Prop where
  le_first : start ≤ first
  first_le : first ≤ last
  last_le : last ≤ stop
  few : first < start + 4
  fewBehind : stop < last + 4
  unaligned : ∀ position, start ≤ position → position < first → position % 4 ≠ 0
  aligned : first < last → first % 4 = 0 ∧ last % 4 = 0
  behind : stop - stop % 4 ≤ last

/-- A plan is made of runs of words and the bytes on both sides of them. -/
theorem exists_edges (address : UInt32) (size : Nat) :
    ∃ first last, Edges address.toNat first last (address.toNat + size) ∧
      plan address size = bytes address.toNat (first - address.toNat) ++ runs first last ++
        bytes last (address.toNat + size - last) := by
  unfold plan
  dsimp only
  generalize shape : min ((4 - address.toNat % 4) % 4) size = front
  generalize ends : max (address.toNat + front)
    (address.toNat + size - (address.toNat + size) % 4) = last
  refine ⟨address.toNat + front, last, ?_, by rw [Nat.add_sub_cancel_left]⟩
  constructor <;> omega

/-- A plan covers exactly the bytes that were asked for. -/
theorem tiles_plan (address : UInt32) (size : Nat) :
    Tiles address.toNat (plan address size) (address.toNat + size) := by
  obtain ⟨first, last, edges, is⟩ := exists_edges address size
  have front := tiles_bytes address.toNat (first - address.toNat)
  rw [Nat.add_sub_cancel' edges.le_first] at front
  have back := tiles_bytes last (address.toNat + size - last)
  rw [Nat.add_sub_cancel' edges.last_le] at back
  rw [is]
  exact (front.append (tiles_runs edges.first_le edges.aligned)).append back

/-! ## The places of the bytes -/

/-- The address at which a span begins. -/
def address : MemorySpan → UInt32
  | .byte address => address
  | .words address _ => address

/-- The places of the bytes in a span: its own address and an offset. -/
def places (span : MemorySpan) : List Nat := List.range' span.address.toNat span.size

/-- All bytes of a span are in one window. -/
def InWindow (span : MemorySpan) : Prop := span.address.toNat % window + span.size ≤ window

variable {span : MemorySpan} {spans : List MemorySpan} {address stop : Nat}

private theorem Begins.address_eq (begins : span.Begins address) :
    span.address = UInt32.ofNat address := by
  cases span with
  | byte location => exact begins
  | words location count => exact begins.1

theorem Begins.window_le (begins : span.Begins address) :
    address % window + span.size ≤ window := by
  cases span with
  | byte location => exact Nat.mod_lt _ (by decide)
  | words location count => exact begins.2.2

theorem Begins.inWindow (begins : span.Begins address) : span.InWindow := by
  have le := begins.window_le
  unfold InWindow
  rw [begins.address_eq, UInt32.toNat_ofNat']
  unfold window at le ⊢
  omega

/-- A span does not wrap around the end of the address space. -/
private theorem Begins.places_eq (begins : span.Begins address) :
    span.places = (List.range' address span.size).map (· % UInt32.size) := by
  have le := begins.window_le
  unfold window at le
  unfold places
  rw [begins.address_eq, UInt32.toNat_ofNat', List.range'_eq_map_range, List.range'_eq_map_range,
    List.map_map]
  refine List.map_congr_left fun offset member ↦ ?_
  have less := List.mem_range.mp member
  show address % 4294967296 + offset = (address + offset) % 4294967296
  omega

/-- Spans that follow each other name the places between their ends, wrapped to 32 bits. -/
theorem Tiles.places_eq (tiles : Tiles address spans stop) :
    spans.flatMap places = (List.range' address (stop - address)).map (· % UInt32.size) := by
  induction tiles with
  | nil address =>
    rw [Nat.sub_self]
    rfl
  | @cons address stop span rest begins later ih =>
    have length : stop - address = span.size + (stop - (address + span.size)) := by
      have := later.le
      omega
    rw [List.flatMap_cons, begins.places_eq, ih, length, ← List.range'_append_1, List.map_append]

theorem Tiles.inWindow (tiles : Tiles address spans stop) : ∀ span ∈ spans, span.InWindow := by
  induction tiles with
  | nil address => exact List.forall_mem_nil _
  | cons begins _ ih => exact List.forall_mem_cons.mpr ⟨begins.inWindow, ih⟩

/-- The spans of a plan name the places that were asked for, wrapped to 32 bits. -/
theorem places_plan (address : UInt32) (size : Nat) :
    (plan address size).flatMap places =
      (List.range' address.toNat size).map (· % UInt32.size) := by
  have tiled := (tiles_plan address size).places_eq
  rw [Nat.add_sub_cancel_left] at tiled
  exact tiled

end MemorySpan

end DebugProbe
