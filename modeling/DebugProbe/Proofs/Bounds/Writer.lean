import DebugProbe.Command.Framing
import DebugProbe.Proofs.Bounds.Checked

/-!
# Writing into a buffer

A writer fills a buffer of fixed length at positions that it computes itself; a position that is not
in the buffer leaves it without an outcome. What a writer lays down is told by the bytes that it
puts between those before and those after them, which stay as they are.
-/

namespace DebugProbe

/-- A checked action on the bytes of a buffer. -/
abbrev Writer (α : Type) := Checked Bytes FramingError α

namespace Writer

variable {α β : Type}

/-- Writes a byte to a position. -/
def put (position : Nat) (byte : UInt8) : Writer Unit :=
  Checked.ofFun fun buffer ↦
    if position < buffer.length then some (.ok (), buffer.set position byte) else none

/-- Bytes put into a buffer in place of those from a position on. -/
def overwritten (buffer : Bytes) (start : Nat) (bytes : Bytes) : Bytes :=
  buffer.take start ++ bytes ++ buffer.drop (start + bytes.length)

/-- Copies bytes to a range, which must lie in the buffer. -/
def copy (start : Nat) (bytes : Bytes) : Writer Unit :=
  Checked.ofFun fun buffer ↦
    if start + bytes.length ≤ buffer.length then some (.ok (), overwritten buffer start bytes)
    else none

/-- Writes the bytes of a number; unlike a copy it fails if they do not fit. -/
def number (start : Nat) (bytes : Bytes) : Writer Unit :=
  Checked.ofFun fun buffer ↦
    if start + bytes.length ≤ buffer.length then some (.ok (), overwritten buffer start bytes)
    else some (.error .unexpectedAnswer, buffer)

/-- Fails if the buffer has not got room for `needed` bytes; the lengths reported count the command
code. -/
def ensure (needed : Nat) : Writer Unit :=
  Checked.ofFun fun buffer ↦
    if buffer.length < needed then
      some (.error (.frameTooLarge (needed + 1) (buffer.length + 1)), buffer)
    else some (.ok (), buffer)

/-- Runs a writer on the buffer from a position on. -/
def tail (start : Nat) (writer : Writer α) : Writer α :=
  Checked.ofFun fun buffer ↦
    if start ≤ buffer.length then
      (writer.outcome? (buffer.drop start)).map fun (result, rest) ↦
        (result, buffer.take start ++ rest)
    else none

theorem outcome?_tail {writer : Writer α} {start : Nat} {buffer : Bytes}
    (inside : start ≤ buffer.length) :
    (tail start writer).outcome? buffer =
      (writer.outcome? (buffer.drop start)).map fun (result, rest) ↦
        (result, buffer.take start ++ rest) :=
  if_pos inside

/-- Writes items one after the other; `write` gives the length of what it wrote at a position. -/
def each (write : (position : Nat) → β → Writer Nat) : List β → (position : Nat) → Writer Nat
  | [], position => return position
  | first :: rest, position => do
    let length ← write position first
    each write rest (position + length)

/-! ### What writers lay down -/

/-- Wherever there is room from `start` on, the writer fills it with these bytes, leaves the rest
alone and gives this value. -/
def Lays (writer : Writer α) (start : Nat) (bytes : Bytes) (value : α) : Prop :=
  ∀ front gap back : Bytes, front.length = start → gap.length = bytes.length →
    writer.outcome? (front ++ gap ++ back) = some (.ok value, front ++ bytes ++ back)

namespace Lays

variable {writer : Writer α} {start : Nat} {bytes later : Bytes} {value : α}

protected theorem pure (value : α) : (pure value : Writer α).Lays start [] value := by
  intro front gap back _ none
  rw [List.length_eq_zero_iff.mp none]
  rfl

/-- What is written second begins where the first bytes end. -/
protected theorem bind {next : α → Writer β} {result : β} (first : writer.Lays start bytes value)
    (second : (next value).Lays (start + bytes.length) later result) :
    (writer >>= next).Lays start (bytes ++ later) result := by
  intro front gap back begins fills
  rw [List.length_append] at fills
  obtain ⟨near, far, rfl, room, left⟩ : ∃ near far, gap = near ++ far ∧
      near.length = bytes.length ∧ far.length = later.length :=
    ⟨gap.take bytes.length, gap.drop bytes.length, (List.take_append_drop _ _).symm,
      by rw [List.length_take]; omega, by rw [List.length_drop]; omega⟩
  have onward : (front ++ bytes).length = start + bytes.length := by
    rw [List.length_append, begins]
  have split : front ++ (near ++ far) ++ back = front ++ near ++ (far ++ back) := by
    simp only [List.append_assoc]
  rw [Checked.outcome?_bind, split, first front near _ begins room, Option.bind_some,
    ← List.append_assoc]
  dsimp only
  rw [second (front ++ bytes) far back onward left, List.append_assoc front]

/-- A writer that ends with a value writes no more for that. -/
theorem andThen {result : β} (first : writer.Lays start bytes value) :
    (writer >>= fun _ ↦ pure result : Writer β).Lays start bytes result := by
  have whole : (writer >>= fun _ ↦ pure result : Writer β).Lays start (bytes ++ []) result :=
    first.bind (.pure result)
  rwa [List.append_nil] at whole

theorem put (byte : UInt8) : (put start byte).Lays start [byte] () := by
  intro front gap back begins fills
  obtain ⟨old, rfl⟩ := List.length_eq_one_iff.mp fills
  have inside : start < (front ++ [old] ++ back).length := by
    simp only [List.length_append, List.length_singleton]
    omega
  have written : (front ++ [old] ++ back).set start byte = front ++ [byte] ++ back := by
    rw [List.append_assoc, List.set_append_right start byte (by omega), begins, Nat.sub_self,
      List.append_assoc]
    rfl
  show (if _ then _ else _) = _
  rw [if_pos inside, written]

/-- What follows a byte begins behind it. -/
theorem putThen {next : Unit → Writer β} {byte : UInt8} {result : β}
    (second : (next ()).Lays (start + 1) later result) :
    (Writer.put start byte >>= next).Lays start (byte :: later) result :=
  (put byte).bind second

/-- Overwriting just the gap leaves what is around it. -/
theorem overwritten_gap {front gap : Bytes} (back : Bytes) (begins : front.length = start)
    (fills : gap.length = bytes.length) :
    start + bytes.length ≤ (front ++ gap ++ back).length ∧
      overwritten (front ++ gap ++ back) start bytes = front ++ bytes ++ back := by
  have whole : (front ++ gap).length = start + bytes.length := by
    rw [List.length_append, begins, fills]
  refine ⟨by rw [List.length_append, whole]; omega, ?_⟩
  unfold overwritten
  rw [List.drop_left' whole, List.append_assoc front, List.take_left' begins]

theorem copy (bytes : Bytes) : (copy start bytes).Lays start bytes () := by
  intro front gap back begins fills
  obtain ⟨inside, written⟩ := overwritten_gap back begins fills
  show (if _ then _ else _) = _
  rw [if_pos inside, written]

theorem number (bytes : Bytes) : (number start bytes).Lays start bytes () := by
  intro front gap back begins fills
  obtain ⟨inside, written⟩ := overwritten_gap back begins fills
  show (if _ then _ else _) = _
  rw [if_pos inside, written]

/-- Where there is room for the bytes, a check for as much room passes. -/
theorem ensure {next : Unit → Writer α} {needed : Nat} (enough : needed ≤ start + bytes.length)
    (second : (next ()).Lays start bytes value) :
    (Writer.ensure needed >>= next).Lays start bytes value := by
  intro front gap back begins fills
  have room : ¬(front ++ gap ++ back).length < needed := by
    simp only [List.length_append]
    omega
  have passed : (Writer.ensure needed).outcome? (front ++ gap ++ back) =
      some (.ok (), front ++ gap ++ back) := if_neg room
  rw [Checked.outcome?_bind, passed]
  exact second front gap back begins fills

/-- What is found on the way does not matter to the buffer. -/
theorem found {found? : Option β} {there : β} {next : β → Writer α} (held : found? = some there)
    (second : (next there).Lays start bytes value) :
    (show Writer α from Checked.found found? >>= next).Lays start bytes value := by
  intro front gap back begins fills
  exact (Checked.outcome?_found_bind held next _).trans (second front gap back begins fills)

/-- A range that is the whole of some data gives the data. -/
theorem part {next : Bytes → Writer α} {data : Bytes} {stop : Nat} (whole : data.length = stop)
    (second : (next data).Lays start bytes value) :
    (show Writer α from Checked.part data 0 stop >>= next).Lays start bytes value := by
  have all : (data.drop 0).take (stop - 0) = data := List.take_of_length_le (Nat.le_of_eq whole)
  refine found (if_pos ⟨Nat.zero_le _, Nat.le_of_eq whole.symm⟩) ?_
  rw [all]
  exact second

/-- What is laid from the beginning on is laid from any position on. -/
theorem tail (first : writer.Lays 0 bytes value) :
    (tail start writer).Lays start bytes value := by
  intro front gap back begins fills
  have inside : start ≤ (front ++ gap ++ back).length := by
    simp only [List.length_append]
    omega
  have begun := first [] gap back rfl fills
  rw [outcome?_tail inside, List.append_assoc, List.drop_left' begins, List.take_left' begins]
  rw [List.nil_append] at begun
  rw [begun]
  simp

/-- Items are laid one after the other, each where the one before ends. -/
theorem each {write : Nat → β → Writer Nat} {encode : β → Bytes} {items : List β}
    (writes : ∀ item ∈ items, ∀ position,
      (write position item).Lays position (encode item) (encode item).length) :
    (each write items start).Lays start (items.flatMap encode)
      (start + (items.flatMap encode).length) := by
  induction items generalizing start with
  | nil => exact .pure _
  | cons item items ih =>
    rw [List.flatMap_cons, List.length_append, ← Nat.add_assoc]
    refine (writes item List.mem_cons_self start).bind (ih fun item member ↦ ?_)
    exact writes item (List.mem_cons_of_mem _ member)

end Lays

/-- From any buffer with room for the bytes the writer fills its beginning with them; otherwise it
only complains of too little room. -/
def Fills (writer : Writer Nat) (bytes : Bytes) : Prop :=
  ∀ buffer : Bytes, writer.outcome? buffer =
    if buffer.length < bytes.length then
      some (.error (.frameTooLarge (bytes.length + 1) (buffer.length + 1)), buffer)
    else some (.ok bytes.length, bytes ++ buffer.drop bytes.length)

/-- A writer that asks for just as much room as it uses fills it. -/
theorem fills_ensure {next : Unit → Writer Nat} {bytes : Bytes} {needed : Nat}
    (exact : needed = bytes.length) (lays : (next ()).Lays 0 bytes bytes.length) :
    (ensure needed >>= next).Fills bytes := by
  intro buffer
  subst exact
  rw [Checked.outcome?_bind]
  by_cases short : buffer.length < bytes.length
  · have refused : (ensure bytes.length).outcome? buffer =
        some (.error (.frameTooLarge (bytes.length + 1) (buffer.length + 1)), buffer) :=
      if_pos short
    rw [refused, if_pos short]
    rfl
  · have passed : (ensure bytes.length).outcome? buffer = some (.ok (), buffer) := if_neg short
    have room : (buffer.take bytes.length).length = bytes.length := by
      rw [List.length_take]
      omega
    have written := lays [] (buffer.take bytes.length) (buffer.drop bytes.length) rfl room
    rw [List.nil_append, List.take_append_drop] at written
    rw [passed, if_neg short]
    exact written

theorem Fills.found {found? : Option β} {there : β} {next : β → Writer Nat} {bytes : Bytes}
    (held : found? = some there) (second : (next there).Fills bytes) :
    (show Writer Nat from Checked.found found? >>= next).Fills bytes :=
  fun buffer ↦ (Checked.outcome?_found_bind held next buffer).trans (second buffer)

end Writer

end DebugProbe
