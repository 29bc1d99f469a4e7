import DebugProbe.Config.Basic
import DebugProbe.Firmware.Image
import DebugProbe.Probe.Exchange

/-!
# Firmware updates

An update takes the probe into its bootloader, shakes hands with it, writes the image chunk by
chunk, compares checksums and reboots. The reboot is sent only if every step before it succeeded;
after any failure nothing more is sent.
Specification: `SPEC_FULL.md` §4.5.
-/

namespace DebugProbe

/-- A transport that is used for an update and for nothing else. -/
structure Updater (σ : Type) where
  transport : σ
  config : FirmwareConfig := {}
  stage : UpdateStage := .idle

namespace Updater

variable {σ : Type}

/-- Enters a stage. -/
def enter {ε : Type} (stage : UpdateStage) : Action (Updater σ) ε Unit :=
  Action.update fun updater ↦ { updater with stage }

/-- Runs an action of the probe. -/
def onProbe {ε α : Type} (action : Action σ ε α) : Action (Updater σ) ε α :=
  action.within Updater.transport fun transport updater ↦ { updater with transport }

variable [Transport σ]

/-- Runs a command. -/
def send (request : Request) : Action (Updater σ) FirmwareError request.Response :=
  (onProbe (Probe.send request)).mapError .command

/-- Runs a command that is answered with a status, which must not be an error. -/
def accept (command : Command) (status : Status) : Action (Updater σ) FirmwareError Unit :=
  match status with
  | .ok => pure ()
  | .error => throw (.rejected command)

/-- Shakes hands up to `attempts` times. The probe has to restart into its bootloader, so it may
stay silent at first; whatever a failed attempt leaves behind is drained. -/
def awaitHandshake (total : Nat) : (attempts : Nat) → Action (Updater σ) FirmwareError Handshake
  | 0 => throw (.handshakeFailed total)
  | attempts + 1 => do
    match ← (onProbe (Probe.send .handshake)).attempt with
    | .ok handshake =>
      match handshake.status with
      | .ok => return handshake
      | .error => awaitHandshake total attempts
    | .error _ =>
      onProbe Probe.drain
      awaitHandshake total attempts

/-- The size of chunks: the least of the configured size, the one that the bootloader takes and the
one that fits into a packet and a length byte, but at least one byte. -/
def chunkSize (configured advertised packetSize : Nat) : Nat :=
  max (min (min (min configured advertised) (packetSize - FirmwareChunk.headerSize))
    FirmwareChunk.maxData) 1

/-- Writes chunks; each has to be placed where it belongs. -/
def writeChunks : List FirmwareChunk → Action (Updater σ) FirmwareError Unit
  | [] => pure ()
  | chunk :: rest => do
    let reply ← send (.writeChunk chunk)
    accept .firmwareChunk reply.status
    if reply.offset ≠ chunk.offset then throw (.offsetMismatch chunk.offset reply.offset)
    writeChunks rest

/-- The steps of an update. -/
def run (image : FirmwareImage) : Action (Updater σ) FirmwareError Unit := do
  enter .handshake
  accept .enterBootloader (← send .enterBootloader)
  let config := (← get).config
  let attempts := max config.handshakeAttempts 1
  let handshake ← awaitHandshake attempts attempts
  if handshake.maxImageSize.toNat < image.data.length then
    throw (.imageTooLarge image.data.length handshake.maxImageSize)
  enter .transferring
  let size := chunkSize config.chunkSize handshake.chunkSize.toNat (← onProbe Probe.packetSize)
  writeChunks (image.chunks size)
  enter .verifying
  let reply ← send (.checksum (UInt32.ofNat image.data.length))
  accept .firmwareChecksum reply.status
  if reply.crc ≠ image.checksum then throw (.checksumMismatch image.checksum reply.crc)
  accept .bootloaderReboot (← send .reboot)

/-- Writes an image and reboots into it. -/
def update (image : FirmwareImage) : Action (Updater σ) UpdateError Unit :=
  Action.ofFun fun updater ↦
    match (run image).outcome updater with
    | (.ok (), after) => (.ok (), { after with stage := .idle })
    | (.error cause, after) =>
      (.error ⟨after.stage, cause⟩, { after with stage := .failed })

end Updater

end DebugProbe
