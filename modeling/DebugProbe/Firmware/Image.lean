import DebugProbe.Checksum
import DebugProbe.Command.Bootloader
import DebugProbe.Probe.Error

/-!
# Firmware images

An image is a byte string that is not empty. It goes to the bootloader in chunks of equal size, the
last one being perhaps shorter, and is then compared by its checksum.
Specification: `SPEC_FULL.md` §4.5.
-/

namespace DebugProbe

/-- How far an update has come. -/
inductive UpdateStage where
  | idle
  | handshake
  | transferring
  | verifying
  | failed
  deriving DecidableEq, Repr

/-- The stage in words. -/
def UpdateStage.text : UpdateStage → String
  | idle => "idle"
  | handshake => "waiting for the bootloader"
  | transferring => "transferring the image"
  | verifying => "verifying the image"
  | failed => "failed"

/-- Why an image cannot be used or an update failed. -/
inductive FirmwareError where
  | emptyImage
  | imageChecksum (expected actual : UInt32)
  | handshakeFailed (attempts : Nat)
  | imageTooLarge (size : Nat) (max : UInt32)
  | rejected (command : Command)
  | offsetMismatch (expected received : UInt32)
  | checksumMismatch (expected actual : UInt32)
  | command (error : CommandError)
  deriving DecidableEq, Repr

namespace FirmwareError

/-- The failure in words. -/
def message : FirmwareError → String
  | emptyImage => "the firmware image is empty"
  | imageChecksum expected actual =>
    "image checksum is " ++ Hex.marked 8 actual.toNat ++ ", expected "
      ++ Hex.marked 8 expected.toNat
  | handshakeFailed attempts =>
    "the bootloader did not answer after " ++ toString attempts ++ " attempts"
  | imageTooLarge size max =>
    "the image is " ++ toString size ++ " bytes, the bootloader takes at most "
      ++ toString max.toNat
  | rejected refused => "the bootloader rejected " ++ refused.label
  | offsetMismatch expected received =>
    "chunk at offset " ++ Hex.marked 1 expected.toNat ++ " was acknowledged for offset "
      ++ Hex.marked 1 received.toNat
  | checksumMismatch expected actual =>
    "the probe reports checksum " ++ Hex.marked 8 actual.toNat ++ ", expected "
      ++ Hex.marked 8 expected.toNat
  | command error => error.message

/-- What lies behind the failure. -/
def causes : FirmwareError → List String
  | command error => error.causes
  | _ => []

end FirmwareError

/-- An update that failed, with the stage in which it did. -/
structure UpdateError where
  stage : UpdateStage
  cause : FirmwareError
  deriving DecidableEq, Repr

namespace UpdateError

/-- The failure in words. -/
def message (error : UpdateError) : String :=
  "firmware update failed while " ++ error.stage.text

/-- What lies behind the failure. -/
def causes (error : UpdateError) : List String := error.cause.message :: error.cause.causes

end UpdateError

/-- An image for a probe. -/
structure FirmwareImage where
  data : Bytes
  /-- There is something to write. -/
  data_ne_nil : data ≠ []
  deriving DecidableEq, Repr

namespace FirmwareImage

/-- The checksum that the bootloader must report. -/
def checksum (image : FirmwareImage) : UInt32 := Checksum.crc32 image.data

/-- The image with the given bytes, if they are any and have the expected checksum. -/
def ofBytes (data : Bytes) (expected : Option UInt32 := none) :
    Except FirmwareError FirmwareImage :=
  if h : data = [] then .error .emptyImage
  else
    let image : FirmwareImage := ⟨data, h⟩
    match expected with
    | some checksum =>
      if image.checksum = checksum then .ok image
      else .error (.imageChecksum checksum image.checksum)
    | none => .ok image

/-- Cuts bytes into chunks of `size` bytes, at least one, placed one after the other from `offset`
on. -/
def chunksFrom (size : Nat) (offset : Nat) : Bytes → List FirmwareChunk
  | [] => []
  | byte :: rest =>
    let length := max size 1
    ⟨UInt32.ofNat offset, (byte :: rest).take length⟩ ::
      chunksFrom size (offset + length) (rest.drop (length - 1))
termination_by data => data.length

/-- The chunks of the image. -/
def chunks (image : FirmwareImage) (size : Nat) : List FirmwareChunk :=
  chunksFrom size 0 image.data

end FirmwareImage

end DebugProbe
