import DebugProbe.Simulator.Probe
import DebugProbe.Transport.Faulty
import DebugProbe.Transport.Recorded
import DebugProbe.Transport.Replay

/-!
# Test benches

A bench stands in for a probe: prepared answers or a simulated probe, around it chosen faults, and
around both the record of what was asked.
Specification: `SPEC_FULL.md` §10.
-/

namespace DebugProbe

/-- What answers on a bench. -/
inductive Responder where
  | replay (answers : Replay)
  | simulator (probe : Simulator)

namespace Responder

/-- Changes the prepared answers, if the bench has them. -/
def changeReplay (change : Replay → Replay) : Responder → Responder
  | replay answers => replay (change answers)
  | other => other

/-- Changes the simulated probe, if the bench has one. -/
def changeSimulator (change : Simulator → Simulator) : Responder → Responder
  | simulator probe => simulator (change probe)
  | other => other

/-- Runs an action on whichever transport answers. -/
def onEither {ε α : Type} (onReplay : Action Replay ε α) (onSimulator : Action Simulator ε α) :
    Action Responder ε α :=
  Action.ofFun fun
    | replay answers =>
      let (result, next) := onReplay.outcome answers
      (result, replay next)
    | simulator probe =>
      let (result, next) := onSimulator.outcome probe
      (result, simulator next)

instance : Transport Responder where
  write frame := onEither (Transport.write frame) (Transport.write frame)
  read := onEither Transport.read Transport.read
  drain responder := (responder.changeReplay Transport.drain).changeSimulator Transport.drain
  packetSize
    | replay answers => Transport.packetSize answers
    | simulator probe => Transport.packetSize probe
  setPacketSize size responder :=
    (responder.changeReplay (Transport.setPacketSize size)).changeSimulator
      (Transport.setPacketSize size)

end Responder

/-- A responder with faults around it, recorded. -/
abbrev Bench := Recorded (Faulty Responder)

namespace Bench

/-- A bench with a responder and no faults. -/
def ofResponder (responder : Responder) : Bench := { inner := { inner := responder } }

/-- What answers. -/
def responder (bench : Bench) : Responder := bench.inner.inner

/-- Changes what answers, which leaves no trace in the record. -/
def changeResponder (change : Responder → Responder) (bench : Bench) : Bench :=
  { bench with inner := { bench.inner with inner := change bench.inner.inner } }

/-- Adds faults after those that are there. -/
def addFaults (faults : List Fault) (bench : Bench) : Bench :=
  { bench with inner := { bench.inner with faults := bench.inner.faults ++ faults } }

end Bench

end DebugProbe
