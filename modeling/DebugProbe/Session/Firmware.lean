import DebugProbe.Firmware.Update
import DebugProbe.Session.Basic

/-!
# Replacing the firmware in a session

A session lets go of its target, hands its probe over to an update and starts anew on the same
probe.
Specification: `SPEC_FULL.md` §4.5.
-/

namespace DebugProbe

/-- Why the firmware of a probe was not replaced: the image was refused, or the update failed. -/
inductive ReplacementError where
  | image (error : FirmwareError)
  | update (error : UpdateError)
  deriving DecidableEq, Repr

namespace ReplacementError

/-- The failure in words. -/
def message : ReplacementError → String
  | image error => error.message
  | update error => error.message

/-- What lies behind the failure. -/
def causes : ReplacementError → List String
  | image error => error.causes
  | update error => error.causes

end ReplacementError

namespace Session

variable {σ : Type} [Transport σ]

/-- Lets go of the target, whether or not the probe agrees, and gives the transport. -/
def release : Action (Session σ) ReplacementError σ := do
  let _ ← (disconnect (σ := σ)).attempt
  return (← get).link.transport

/-- Replaces the firmware of the probe. The session is a new one afterwards, even if this fails. -/
def replaceFirmware (data : Bytes) (expected : Option UInt32) :
    Action (Session σ) ReplacementError FirmwareImage := do
  let transport ← release
  let config := (← get).config
  match FirmwareImage.ofBytes data expected with
  | .error error =>
    set (new transport config)
    throw (.image error)
  | .ok image =>
    let (result, updater) := (Updater.update image).outcome
      { transport, config := config.firmware : Updater σ }
    set (new updater.transport config)
    (Action.ofExcept result).mapError .update
    return image

end Session

end DebugProbe
