import DebugProbe.Probe.Error

/-!
# Exchanges

An exchange encodes a request for the packet size in use, writes the frame, reads the answer into a
buffer of at least 64 bytes and decodes it. The packet size itself is found by asking for it again
and again as long as the probe stays silent.
Specification: `SPEC_FULL.md` §4.1.
-/

namespace DebugProbe

namespace Probe

variable {σ : Type} [Transport σ]

/-- The packet size in use. -/
def packetSize {ε : Type} : Action σ ε Nat := do return Transport.packetSize (← get)

/-- Drops every answer that is still under way. -/
def drain {ε : Type} : Action σ ε Unit := Action.update Transport.drain

/-- The size of the buffer for an answer. -/
def bufferSize (packetSize : Nat) : Nat := max packetSize 64

/-- Writes a request and reads the answer to it; an answer longer than the buffer is cut. -/
def exchange (request : Request) : Action σ ExchangeError request.Response := do
  let frame ← (Action.ofExcept (request.encode (← packetSize))).mapError .framing
  (Transport.write frame).mapError .transport
  if request.expectsReply then
    let capacity := bufferSize (← packetSize)
    let reply ← Transport.read.mapError .transport
    (Action.ofExcept (request.decode (reply.take capacity))).mapError .framing
  else
    (Action.ofExcept (request.parse [])).mapError .framing

/-- Runs a command; a broken exchange names the command. -/
def send (request : Request) : Action σ CommandError request.Response :=
  (exchange request).mapError (.exchange request.command)

/-- Times the packet size is asked for before giving up. -/
def packetSizeAttempts : Nat := 16

/-- Asks for the packet size up to `attempts` times, again only after a timeout, and switches the
transport to the size that the probe gives. -/
def negotiate : (attempts : Nat) → Action σ CommandError UInt16
  | 0 => throw .noPacketSize
  | attempts + 1 => do
    match ← (send .infoPacketSize).attempt with
    | .ok size =>
      Action.update (Transport.setPacketSize size.toNat)
      return size
    | .error (.exchange _ (.transport .timeout)) => negotiate attempts
    | .error error => throw error

/-- Finds the probe's packet size and switches the transport to it. -/
def findPacketSize : Action σ CommandError UInt16 := negotiate packetSizeAttempts

end Probe

end DebugProbe
