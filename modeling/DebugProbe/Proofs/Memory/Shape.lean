import DebugProbe.Proofs.Memory.Plan
import Mathlib.Data.List.Chain

/-!
# The shape of a plan

A plan has runs of words in the middle and single bytes only at its two ends. Where one run follows
another, a window ends. So no run is shorter than it has to be: whoever covers the same bytes with
single bytes and runs that stay in their windows needs at least as many spans.
-/

namespace DebugProbe

namespace MemorySpan

/-- A single byte. -/
def isByte : MemorySpan → Bool
  | .byte _ => true
  | .words _ _ => false

/-- A run of words from an aligned address that stays in its window. -/
def IsRun : MemorySpan → Prop
  | .byte _ => False
  | .words location count =>
    location.toNat % 4 = 0 ∧ 1 ≤ count ∧ count ≤ 256 ∧
      location.toNat % window + 4 * count ≤ window

/-- The second span begins a window, just behind the first one. -/
def OpensWindow (first second : MemorySpan) : Prop :=
  second.address.toNat % window = 0 ∧
    second.address.toNat = (first.address.toNat + first.size) % UInt32.size

theorem isByte_bytes (address count : Nat) : ∀ span ∈ bytes address count, span.isByte := by
  induction count generalizing address with
  | zero => exact List.forall_mem_nil _
  | succ count ih => exact List.forall_mem_cons.mpr ⟨rfl, ih (address + 1)⟩

@[simp] theorem length_bytes (address count : Nat) : (bytes address count).length = count := by
  induction count generalizing address with
  | zero => rfl
  | succ count ih => exact congrArg (· + 1) (ih (address + 1))

section Runs

variable {address next stop : Nat}

theorem RunStep.isRun (step : RunStep address next stop) (start : address % 4 = 0) :
    (MemorySpan.words (UInt32.ofNat address) ((next - address) / 4)).IsRun := by
  obtain ⟨less, -, aligned, inWindow, -⟩ := step
  show (UInt32.ofNat address).toNat % 4 = 0 ∧ 1 ≤ (next - address) / 4 ∧
    (next - address) / 4 ≤ 256 ∧
      (UInt32.ofNat address).toNat % window + 4 * ((next - address) / 4) ≤ window
  rw [UInt32.toNat_ofNat']
  unfold window at inWindow ⊢
  omega

/-- Another run follows only where the first one ends with its window. -/
theorem RunStep.opensWindow (step : RunStep address next stop) (start : address % 4 = 0)
    (more : next < stop) (count : Nat) :
    OpensWindow (.words (UInt32.ofNat address) ((next - address) / 4))
      (.words (UInt32.ofNat next) count) := by
  have boundary : next % window = 0 := step.boundary.resolve_left (Nat.ne_of_lt more)
  have less := step.less
  unfold OpensWindow
  rw [step.size_eq start]
  show (UInt32.ofNat next).toNat % window = 0 ∧
    (UInt32.ofNat next).toNat = ((UInt32.ofNat address).toNat + (next - address)) % 4294967296
  rw [UInt32.toNat_ofNat', UInt32.toNat_ofNat']
  unfold window at boundary ⊢
  omega

/-- Runs are aligned and stay in their windows, and each but the first begins a window. -/
theorem isRun_runs (aligned : address < stop → address % 4 = 0 ∧ stop % 4 = 0) :
    (∀ span ∈ runs address stop, span.IsRun) ∧ (runs address stop).IsChain OpensWindow := by
  induction address using runs.induct stop with
  | case1 address less next ih =>
    obtain ⟨start, ends⟩ := aligned less
    have step : RunStep address next stop := runStep_min less ends
    obtain ⟨isRun, chain⟩ := ih fun _ ↦ ⟨step.aligned, ends⟩
    rw [runs, if_pos less]
    refine ⟨List.forall_mem_cons.mpr ⟨step.isRun start, isRun⟩,
      List.isChain_cons.mpr ⟨fun second isNext ↦ ?_, chain⟩⟩
    replace isNext : second ∈ (runs next stop).head? := isNext
    rw [runs] at isNext
    split at isNext
    · next more =>
      obtain rfl := Option.some.inj isNext
      exact step.opensWindow start more _
    · exact absurd isNext (Option.not_mem_none second)
  | case2 address past =>
    rw [runs, if_neg past]
    exact ⟨List.forall_mem_nil _, .nil⟩

end Runs

/-! ## No other plan has fewer spans -/

/-- Some spans are no more than any others between the same addresses. -/
def Fewest (address : Nat) (spans : List MemorySpan) (stop : Nat) : Prop :=
  ∀ other, Tiles address other stop → spans.length ≤ other.length

/-- No span between two addresses extends across a place between them. -/
def Uncrossed (low place stop : Nat) : Prop :=
  ∀ address span, Begins address span → low ≤ address → address < place →
    address + span.size ≤ stop → address + span.size ≤ place

section Uncrossed

variable {low place stop : Nat}

theorem uncrossed_window (boundary : place % window = 0) : Uncrossed low place stop := by
  intro address span begins _ before _
  have inWindow := begins.window_le
  unfold window at inWindow boundary
  omega

theorem uncrossed_stop : Uncrossed low stop stop := fun _ _ _ _ _ within ↦ within

/-- Spans are split where none of them crosses. -/
theorem Tiles.split (uncrossed : Uncrossed low place stop) {address : Nat}
    {spans : List MemorySpan} (tiles : Tiles address spans stop) (above : low ≤ address)
    (before : address ≤ place) (le : place ≤ stop) :
    ∃ front back, spans = front ++ back ∧ Tiles address front place ∧ Tiles place back stop := by
  induction tiles with
  | nil address =>
    obtain rfl : address = place := Nat.le_antisymm before le
    exact ⟨[], [], rfl, .nil _, .nil _⟩
  | @cons address stop span rest begins later ih =>
    rcases Nat.lt_or_eq_of_le before with less | rfl
    · have ends := uncrossed address span begins above less later.le
      obtain ⟨front, back, rfl, first, second⟩ :=
        ih uncrossed (Nat.le_trans above (Nat.le_add_right _ _)) ends le
      exact ⟨span :: front, back, rfl, .cons begins first, second⟩
    · exact ⟨[], span :: rest, rfl, .nil _, .cons begins later⟩

/-- Where no span crosses, the fewest before and behind make the fewest. -/
theorem Fewest.append {first second : List MemorySpan} (before : Fewest low first place)
    (behind : Fewest place second stop) (uncrossed : Uncrossed low place stop)
    (above : low ≤ place) (le : place ≤ stop) : Fewest low (first ++ second) stop := by
  intro other tiles
  obtain ⟨front, back, rfl, tilesFront, tilesBack⟩ :=
    tiles.split uncrossed (Nat.le_refl low) above le
  rw [List.length_append, List.length_append]
  exact Nat.add_le_add (before front tilesFront) (behind back tilesBack)

end Uncrossed

/-- Less than a word is covered only byte by byte. -/
theorem Tiles.le_length {address stop : Nat} {spans : List MemorySpan}
    (tiles : Tiles address spans stop) (few : stop < address + 4) :
    stop ≤ address + spans.length := by
  induction tiles with
  | nil address => exact Nat.le_refl _
  | @cons address stop span rest begins later ih =>
    have within := later.le
    have behind := ih (by omega)
    have small : span.size ≤ 1 := by
      cases span with
      | byte location => exact Nat.le_refl 1
      | words location count =>
        have size : (words location count).size = 4 * count := rfl
        omega
    rw [List.length_cons]
    omega

theorem fewest_bytes {address stop : Nat} (few : stop < address + 4) :
    Fewest address (bytes address (stop - address)) stop := by
  intro other tiles
  have length := tiles.le_length few
  rw [length_bytes]
  omega

theorem fewest_single {address stop : Nat} (less : address < stop) (span : MemorySpan) :
    Fewest address [span] stop := by
  intro other tiles
  cases tiles with
  | nil => exact absurd less (Nat.lt_irrefl _)
  | cons _ _ => exact Nat.succ_le_succ (Nat.zero_le _)

theorem fewest_runs {address stop : Nat}
    (aligned : address < stop → address % 4 = 0 ∧ stop % 4 = 0) :
    Fewest address (runs address stop) stop := by
  induction address using runs.induct stop with
  | case1 address less next ih =>
    have ends := (aligned less).2
    have step : RunStep address next stop := runStep_min less ends
    have behind := ih fun _ ↦ ⟨step.aligned, ends⟩
    rw [runs, if_pos less]
    have uncrossed : Uncrossed address next stop := by
      rcases step.boundary with is | boundary
      · rw [is]
        exact uncrossed_stop
      · exact uncrossed_window boundary
    exact (fewest_single step.less _).append behind uncrossed (Nat.le_of_lt step.less) step.le
  | case2 address past =>
    rw [runs, if_neg past]
    exact fun other _ ↦ Nat.zero_le _

section Edges

variable {start first last stop : Nat} (edges : Edges start first last stop)
include edges

/-- No run begins before the first aligned address. -/
theorem Edges.uncrossed_first : Uncrossed start first last := by
  intro address span begins above before _
  cases span with
  | byte location => exact before
  | words location count =>
    exact absurd begins.2.1 (edges.unaligned address above before)

/-- No run ends behind the last aligned address. -/
theorem Edges.uncrossed_last : Uncrossed start last stop := by
  intro address span begins _ before within
  cases span with
  | byte location => exact before
  | words location count =>
    have aligned : address % 4 = 0 := begins.2.1
    have size : (words location count).size = 4 * count := rfl
    have := edges.behind
    omega

end Edges

/-- No other spans that cover what was asked for are fewer than those of the plan. -/
theorem fewest_plan (address : UInt32) (size : Nat) :
    Fewest address.toNat (plan address size) (address.toNat + size) := by
  obtain ⟨first, last, edges, is⟩ := exists_edges address size
  have front := (fewest_bytes edges.few).append (fewest_runs edges.aligned)
    edges.uncrossed_first edges.le_first edges.first_le
  rw [is]
  exact front.append (fewest_bytes edges.fewBehind) edges.uncrossed_last
    (Nat.le_trans edges.le_first edges.first_le) edges.last_le

/-- The spans of a plan name the bytes that were asked for, in order and each once. Single bytes, at
most three, come before the runs of words and behind them. Runs are aligned and stay in their
windows, one follows another only where a window begins, and no other spans cover the same bytes in
fewer pieces. -/
theorem plan_shape (address : UInt32) (size : Nat) :
    (plan address size).flatMap places =
      (List.range size).map (fun offset ↦ (address.toNat + offset) % UInt32.size) ∧
    (∃ front middle back, plan address size = front ++ middle ++ back ∧
      (∀ span ∈ front ++ back, span.isByte) ∧ front.length ≤ 3 ∧ back.length ≤ 3 ∧
      (∀ span ∈ middle, span.IsRun) ∧ middle.IsChain OpensWindow) ∧
    (plan address size).countP isByte ≤ 6 ∧
    Tiles address.toNat (plan address size) (address.toNat + size) ∧
    Fewest address.toNat (plan address size) (address.toNat + size) := by
  obtain ⟨first, last, edges, is⟩ := exists_edges address size
  have front : (bytes address.toNat (first - address.toNat)).length ≤ 3 := by
    have := edges.few
    rw [length_bytes]
    omega
  have back : (bytes last (address.toNat + size - last)).length ≤ 3 := by
    have := edges.fewBehind
    rw [length_bytes]
    omega
  obtain ⟨isRun, chain⟩ := isRun_runs edges.aligned
  refine ⟨?_, ⟨_, _, _, is, ?_, front, back, isRun, chain⟩, ?_, tiles_plan address size,
    fewest_plan address size⟩
  · rw [places_plan, List.range'_eq_map_range, List.map_map]
    rfl
  · exact List.forall_mem_append.mpr ⟨isByte_bytes _ _, isByte_bytes _ _⟩
  · have none : (runs first last).countP isByte = 0 := by
      refine List.countP_eq_zero.mpr fun span member ↦ ?_
      have run := isRun span member
      cases span with
      | byte location => exact run.elim
      | words location count => exact Bool.false_ne_true
    have ahead := List.countP_le_length (p := isByte)
      (l := bytes address.toNat (first - address.toNat))
    have behind := List.countP_le_length (p := isByte)
      (l := bytes last (address.toNat + size - last))
    rw [is, List.countP_append, List.countP_append, none]
    omega

end MemorySpan

end DebugProbe
