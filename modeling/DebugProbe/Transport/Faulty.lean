import DebugProbe.Transport.Basic

/-!
# Faulty transports

A faulty transport lets most exchanges pass and disturbs chosen ones: the write of a frame fails, or
the answer to it fails, is replaced, is cut short or has some of its bytes overwritten. A fault
names its frame by the command code and by how many frames with that code were written before.
Specification: `SPEC_FULL.md` §10.
-/

namespace DebugProbe

/-- How an exchange is disturbed. -/
inductive Disturbance where
  /-- The write fails and the frame does not arrive. -/
  | failWrite (error : TransportError)
  /-- The answer is lost and the read fails. -/
  | failRead (error : TransportError)
  /-- The answer is replaced, also where there was none. -/
  | replace (answer : Bytes)
  /-- An answer is cut to a length and gets new bytes at some positions. -/
  | alter (cut : Option Nat) (patch : List (Nat × UInt8))
  deriving DecidableEq, Repr

/-- A disturbance of the frame with a code that comes after `earlier` frames with the same code. -/
structure Fault where
  code : UInt8
  earlier : Nat
  effect : Disturbance
  deriving DecidableEq, Repr

namespace Disturbance

/-- What a read gives under a disturbance, when it would give `answer` without. -/
def apply (effect : Disturbance) (answer : Except TransportError Bytes) :
    Except TransportError Bytes :=
  match effect with
  | failWrite _ => answer
  | failRead error => .error error
  | replace bytes => .ok bytes
  | alter cut patch => answer.map fun bytes ↦
      let kept := match cut with
        | some size => bytes.take size
        | none => bytes
      patch.foldl (fun frame (position, byte) ↦ frame.set position byte) kept

end Disturbance

/-- A transport with faults. -/
structure Faulty (σ : Type) where
  inner : σ
  faults : List Fault := []
  /-- Number of frames written so far, by code. -/
  written : Vector Nat 256 := Vector.replicate 256 0
  /-- The disturbance of the exchange under way. -/
  active : Option Disturbance := none

namespace Faulty

variable {σ : Type}

/-- Number of frames with a code that were written so far. -/
def count (faulty : Faulty σ) (code : UInt8) : Nat := faulty.written.get code.toFin

/-- The first fault that concerns the next frame with a code. -/
def find? (faulty : Faulty σ) (code : UInt8) : Option Disturbance :=
  (faulty.faults.find? fun fault ↦ fault.code = code ∧ fault.earlier = faulty.count code).map
    (·.effect)

instance [Transport σ] : Transport (Faulty σ) where
  write frame := Action.ofFun fun faulty ↦
    let code := frame.byteAt 0
    let effect := faulty.find? code
    let counted := { faulty with
      written := faulty.written.set code.toFin (faulty.count code + 1)
      active := effect }
    match effect with
    | some (.failWrite error) => (.error error, counted)
    | _ =>
      let (result, inner) := (Transport.write frame : Action σ _ _).outcome faulty.inner
      (result, { counted with inner := inner })
  read := Action.ofFun fun faulty ↦
    let (answer, inner) := (Transport.read : Action σ _ _).outcome faulty.inner
    let seen := match faulty.active with
      | some effect => effect.apply answer
      | none => answer
    (seen, { faulty with inner := inner })
  drain faulty := { faulty with inner := Transport.drain faulty.inner }
  packetSize faulty := Transport.packetSize faulty.inner
  setPacketSize size faulty := { faulty with inner := Transport.setPacketSize size faulty.inner }
  polls time pause faulty := Transport.polls time pause faulty.inner

end Faulty

end DebugProbe
