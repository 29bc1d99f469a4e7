import DebugProbe.Transport.Basic

/-!
# Recorded transports

A recorded transport behaves as the transport inside it and keeps what the library asked of it:
every frame that was to be written, whether the write succeeded or not, every drain and every
change of the packet size.
Specification: `SPEC_FULL.md` §10.
-/

namespace DebugProbe

/-- What was asked of a transport. -/
inductive WireEvent where
  | frame (bytes : Bytes)
  | drain
  | packetSize (size : Nat)
  deriving DecidableEq, Repr

/-- A transport with the record of what was asked of it. -/
structure Recorded (σ : Type) where
  inner : σ
  /-- The events, oldest first. -/
  events : Array WireEvent := #[]

namespace Recorded

variable {σ : Type}

/-- Adds an event to the record. -/
def push (recorded : Recorded σ) (event : WireEvent) : Recorded σ :=
  { recorded with events := recorded.events.push event }

/-- The events so far, oldest first. -/
def history (recorded : Recorded σ) : List WireEvent := recorded.events.toList

/-- The frames so far, oldest first. -/
def frames (recorded : Recorded σ) : List Bytes :=
  recorded.history.filterMap fun
    | .frame bytes => some bytes
    | _ => none

/-- The same transport with an empty record. -/
def clear (recorded : Recorded σ) : Recorded σ := { recorded with events := #[] }

instance [Transport σ] : Transport (Recorded σ) where
  write frame := Action.ofFun fun recorded ↦
    let (result, inner) := (Transport.write frame : Action σ _ _).outcome recorded.inner
    (result, { recorded with inner := inner }.push (.frame frame))
  read := Action.within Recorded.inner (fun inner recorded ↦ { recorded with inner := inner })
    Transport.read
  drain recorded := { recorded with inner := Transport.drain recorded.inner }.push .drain
  packetSize recorded := Transport.packetSize recorded.inner
  setPacketSize size recorded :=
    { recorded with inner := Transport.setPacketSize size recorded.inner }.push (.packetSize size)
  polls time pause recorded := Transport.polls time pause recorded.inner

@[simp] theorem history_push (recorded : Recorded σ) (event : WireEvent) :
    (recorded.push event).history = recorded.history ++ [event] := by
  simp [push, history]

end Recorded

end DebugProbe
