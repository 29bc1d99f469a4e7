import DebugProbe.Transport.Basic

/-!
# Replayed answers

A transport that accepts every frame and answers from a prepared list; once the list is exhausted
every read times out.
Specification: `SPEC_FULL.md` §10.
-/

namespace DebugProbe

/-- Prepared outcomes of reads, the next one first. -/
structure Replay where
  answers : List (Except TransportError Bytes)
  packetSize : Nat := 64

instance : Transport Replay where
  write _ := pure ()
  read := Action.ofFun fun replay ↦
    match replay.answers with
    | [] => (.error .timeout, replay)
    | answer :: rest => (answer, { replay with answers := rest })
  drain replay := replay
  packetSize := Replay.packetSize
  setPacketSize size replay := { replay with packetSize := size }

end DebugProbe
