/-!
# Plans for memory accesses

A memory access is cut into spans: single bytes at its unaligned edges and runs of aligned words
between them. The address register of a memory access port counts up only within an aligned window
of 1 KiB, so no run crosses the end of a window. Addresses are counted without bound and wrapped to
32 bits only in the spans.
Specification: `SPEC_FULL.md` §4.4.
-/

namespace DebugProbe

/-- One piece of a memory access. -/
inductive MemorySpan where
  /-- A single byte. -/
  | byte (address : UInt32)
  /-- A run of `count` words from an aligned address, inside one window. -/
  | words (address : UInt32) (count : Nat)
  deriving DecidableEq, Repr

namespace MemorySpan

/-- Size of the windows in which the address register counts up. -/
def window : Nat := 0x400

/-- Single bytes from an address on. -/
def bytes (address : Nat) : (count : Nat) → List MemorySpan
  | 0 => []
  | count + 1 => .byte (UInt32.ofNat address) :: bytes (address + 1) count

/-- End of the window that holds an address. -/
def windowEnd (address : Nat) : Nat := (address / window + 1) * window

theorem lt_windowEnd (address : Nat) : address < windowEnd address := by
  simp only [windowEnd, window]
  omega

/-- Word runs that cover everything from an aligned address to an aligned end. -/
def runs (address stop : Nat) : List MemorySpan :=
  if address < stop then
    let next := min (windowEnd address) stop
    .words (UInt32.ofNat address) ((next - address) / 4) :: runs next stop
  else []
termination_by stop - address
decreasing_by
  have := lt_windowEnd address
  omega

/-- The spans of an access to `size` bytes from an address on. -/
def plan (address : UInt32) (size : Nat) : List MemorySpan :=
  let start := address.toNat
  let stop := start + size
  let head := min ((4 - start % 4) % 4) size
  let aligned := start + head
  let wordStop := max aligned (stop - stop % 4)
  bytes start head ++ runs aligned wordStop ++ bytes wordStop (stop - wordStop)

/-- Number of bytes that a span covers. -/
def size : MemorySpan → Nat
  | .byte _ => 1
  | .words _ count => 4 * count

/-- Shift that brings the byte at an address onto its lane of the 32-bit data bus. -/
def laneShift (address : UInt32) : UInt32 := (address &&& 3) * 8

end MemorySpan

end DebugProbe
