import DebugProbe.Firmware.Update
import DebugProbe.Proofs.Bounds.Exchange

/-!
# Chunks cut out of an image

An image is cut at multiples of the size of chunks. The size is never zero, whatever the bootloader
and the configuration say, and no chunk reaches past the end of the image.
-/

namespace DebugProbe

namespace Checked.OnUpdater

variable {σ ε α : Type}

/-- Runs an action of the probe. -/
def onProbe (checked : Checked σ ε α) : Checked (Updater σ) ε α :=
  checked.within Updater.transport fun transport updater ↦ { updater with transport }

variable [Transport σ]

/-- Runs a command. -/
def send (request : Request) : Checked (Updater σ) FirmwareError request.Response :=
  (onProbe (Checked.send request)).mapError .command

/-- Shakes hands up to `attempts` times. -/
def awaitHandshake (total : Nat) : (attempts : Nat) → Checked (Updater σ) FirmwareError Handshake
  | 0 => throw (.handshakeFailed total)
  | attempts + 1 => do
    match ← (onProbe (Checked.send .handshake)).attempt with
    | .ok handshake =>
      match handshake.status with
      | .ok => return handshake
      | .error => awaitHandshake total attempts
    | .error _ =>
      ofAction (Updater.onProbe Probe.drain)
      awaitHandshake total attempts

/-- Writes the chunks of an image from one on. -/
def writeChunks (data : Bytes) (size : Nat) (positive : 0 < size) (index : Nat) :
    Checked (Updater σ) FirmwareError Unit := do
  if index * size < data.length then
    let _ ← demand (index * size < UInt64.size)
    let chunk ← part data (index * size) (min (index * size + size) data.length)
    let offset := UInt32.ofNat (index * size)
    let reply ← send (.writeChunk ⟨offset, chunk⟩)
    ofAction (Updater.accept .firmwareChunk reply.status)
    if reply.offset ≠ offset then throw (.offsetMismatch offset reply.offset)
    writeChunks data size positive (index + 1)
  else return
termination_by data.length - index * size
decreasing_by
  rw [Nat.succ_mul]
  omega

/-- The steps of an update. -/
def run (image : FirmwareImage) : Checked (Updater σ) FirmwareError Unit := do
  ofAction (Updater.enter .handshake)
  ofAction (Updater.accept .enterBootloader (← send .enterBootloader))
  let config := (← get).config
  let attempts := max config.handshakeAttempts 1
  let handshake ← awaitHandshake attempts attempts
  if handshake.maxImageSize.toNat < image.data.length then
    throw (.imageTooLarge image.data.length handshake.maxImageSize)
  ofAction (Updater.enter .transferring)
  let size := Updater.chunkSize config.chunkSize handshake.chunkSize.toNat
    (← ofAction (Updater.onProbe Probe.packetSize))
  let ⟨positive⟩ ← demand (0 < size)
  writeChunks image.data size positive 0
  ofAction (Updater.enter .verifying)
  let reply ← send (.checksum (UInt32.ofNat image.data.length))
  ofAction (Updater.accept .firmwareChecksum reply.status)
  if reply.crc ≠ image.checksum then throw (.checksumMismatch image.checksum reply.crc)
  ofAction (Updater.accept .bootloaderReboot (← send .reboot))

/-- Writes an image and reboots into it. -/
def update (image : FirmwareImage) : Checked (Updater σ) UpdateError Unit :=
  ofFun fun updater ↦ ((run image).outcome? updater).map fun
    | (.ok (), after) => (.ok (), { after with stage := .idle })
    | (.error cause, after) => (.error ⟨after.stage, cause⟩, { after with stage := .failed })

end Checked.OnUpdater

namespace Updater

open Checked (Matches)

variable {σ : Type} [Transport σ]

theorem matches_send (request : Request) (updater : Updater σ) :
    (Checked.OnUpdater.send request).Matches (send request) updater := by
  refine Matches.mapError _ ?_
  exact (Probe.matches_send request updater.transport).within

theorem matches_awaitHandshake (total attempts : Nat) (updater : Updater σ) :
    (Checked.OnUpdater.awaitHandshake total attempts).Matches (awaitHandshake total attempts)
      updater := by
  induction attempts generalizing updater with
  | zero => exact .throw _ _
  | succ attempts ih =>
    refine Matches.bind (Matches.attempt ?_) fun answer updater _ ↦ ?_
    · exact (Probe.matches_send .handshake updater.transport).within
    · cases answer with
      | ok handshake =>
        cases status : handshake.status with
        | ok =>
          dsimp only
          rw [status]
          exact .pure _ _
        | error =>
          dsimp only
          rw [status]
          exact ih updater
      | error error => exact .lift_bind fun _ updater _ ↦ ih updater

/-- The chunk at a position that is in the data, and those after it. -/
private theorem chunksFrom_drop {data : Bytes} {size : Nat} (positive : 0 < size) {start : Nat}
    (before : start < data.length) :
    FirmwareImage.chunksFrom size start (data.drop start) =
      ⟨UInt32.ofNat start, (data.drop start).take (min (start + size) data.length - start)⟩ ::
        FirmwareImage.chunksFrom size (start + size) (data.drop (start + size)) := by
  have length : max size 1 = size := Nat.max_eq_left positive
  have few : (data.drop start).take (min (start + size) data.length - start) =
      (data.drop start).take size := by
    rw [List.take_eq_take_iff, List.length_drop]
    omega
  have after : data.drop (start + size) = (data.drop (start + 1)).drop (size - 1) := by
    rw [List.drop_drop]
    congr 1
    omega
  rw [few, after, List.drop_eq_getElem_cons before, FirmwareImage.chunksFrom, length]

theorem matches_writeChunks {data : Bytes} (small : data.length < UInt64.size) {size : Nat}
    (positive : 0 < size) (index : Nat) (updater : Updater σ) :
    (Checked.OnUpdater.writeChunks data size positive index).Matches
      (writeChunks (FirmwareImage.chunksFrom size (index * size) (data.drop (index * size))))
      updater := by
  rw [Checked.OnUpdater.writeChunks]
  by_cases before : index * size < data.length
  · have near : index * size < UInt64.size := Nat.lt_trans before small
    have range : index * size ≤ min (index * size + size) data.length ∧
        min (index * size + size) data.length ≤ data.length := by omega
    rw [if_pos before, chunksFrom_drop positive before]
    refine .demand near (.part range ?_)
    refine (matches_send _ updater).bind fun reply updater _ ↦ ?_
    refine .lift_bind fun _ updater _ ↦ ?_
    refine .ite (fun _ ↦ .throw_bind _ _ _ _) fun _ ↦ ?_
    have later := matches_writeChunks small positive (index + 1) updater
    rw [Nat.succ_mul] at later
    exact later
  · rw [if_neg before, List.drop_eq_nil_of_le (Nat.le_of_not_lt before),
      FirmwareImage.chunksFrom]
    exact .pure _ _
termination_by data.length - index * size
decreasing_by
  rw [Nat.succ_mul]
  omega

theorem matches_writeImage {image : FirmwareImage} (small : image.data.length < UInt64.size)
    {size : Nat} (positive : 0 < size) (updater : Updater σ) :
    (Checked.OnUpdater.writeChunks image.data size positive 0).Matches
      (writeChunks (image.chunks size)) updater := by
  have chunks := matches_writeChunks small positive 0 updater
  rw [Nat.zero_mul] at chunks
  exact chunks

/-- An update stays inside whatever the bootloader answers. -/
theorem matches_run (image : FirmwareImage) (updater : Updater σ) :
    (Checked.OnUpdater.run image).Matches (run image) updater := by
  refine .lift_bind fun _ updater _ ↦ ?_
  refine (matches_send _ updater).bind fun status updater _ ↦ ?_
  refine .lift_bind fun _ updater _ ↦ .get_bind ?_
  refine (matches_awaitHandshake _ _ updater).bind fun handshake updater _ ↦ ?_
  refine .ite (fun _ ↦ .throw_bind _ _ _ _) fun fits ↦ ?_
  have small : image.data.length < UInt64.size := by
    have bound : handshake.maxImageSize.toNat < UInt32.size := handshake.maxImageSize.toNat_lt
    unfold UInt64.size UInt32.size at *
    omega
  refine .lift_bind fun _ updater _ ↦ ?_
  refine .lift_bind fun packetSize updater _ ↦ ?_
  refine .demand (Nat.le_max_right _ _) ?_
  refine (matches_writeImage small _ updater).bind fun _ updater _ ↦ ?_
  refine .lift_bind fun _ updater _ ↦ ?_
  refine (matches_send _ updater).bind fun reply updater _ ↦ ?_
  refine .lift_bind fun _ updater _ ↦ ?_
  refine .ite (fun _ ↦ .throw_bind _ _ _ _) fun _ ↦ ?_
  refine (matches_send _ updater).bind fun status updater _ ↦ ?_
  exact .lift _ _

theorem matches_update (image : FirmwareImage) (updater : Updater σ) :
    (Checked.OnUpdater.update image).Matches (update image) updater := by
  have inner := matches_run image updater
  unfold Matches at inner ⊢
  show ((Checked.OnUpdater.run image).outcome? updater).map _ = _
  rw [inner]
  rcases ran : (run image).outcome updater with ⟨result, after⟩
  cases result <;> simp [update, ran]

end Updater

end DebugProbe
