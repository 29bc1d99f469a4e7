import DebugProbe.Register.DebugPort
import DebugProbe.Register.MemoryAccess

/-!
# Register layouts

The fields of each register by name: flags of one bit, and fields that hold a number.
Specification: `SPEC_FULL.md` §§4.3/4.4.
-/

namespace DebugProbe

/-- The named fields of a register. -/
structure RegisterLayout where
  flags : List (String × BitField) := []
  numbers : List (String × BitField) := []

namespace RegisterLayout

/-- The fields of ABORT. -/
def abort : RegisterLayout where
  flags := [
    ("orunerrclr", Abort.overrunClear),
    ("wderrclr", Abort.writeErrorClear),
    ("stkerrclr", Abort.stickyErrorClear),
    ("stkcmpclr", Abort.stickyCompareClear),
    ("dapabort", Abort.abortAccess)]

/-- The fields of CTRL/STAT. -/
def controlStatus : RegisterLayout where
  flags := [
    ("csyspwrupack", ControlStatus.systemPowerAck),
    ("csyspwrupreq", ControlStatus.systemPowerRequest),
    ("cdbgpwrupack", ControlStatus.debugPowerAck),
    ("cdbgpwrupreq", ControlStatus.debugPowerRequest),
    ("cdbgrstack", ControlStatus.debugResetAck),
    ("c_dbg_rst_req", ControlStatus.debugResetRequest),
    ("w_data_err", ControlStatus.writeDataError),
    ("read_ok", ControlStatus.readOk),
    ("sticky_err", ControlStatus.stickyError),
    ("sticky_cmp", ControlStatus.stickyCompare),
    ("sticky_orun", ControlStatus.stickyOverrun),
    ("orun_detect", ControlStatus.overrunDetect)]
  numbers := [
    ("mask_lane", ControlStatus.maskLane),
    ("trn_mode", ControlStatus.transferMode)]

/-- The fields of SELECT. -/
def select : RegisterLayout where
  numbers := [
    ("ap_sel", Select.accessPort),
    ("ap_bank_sel", Select.accessPortBank),
    ("dp_bank_sel", Select.debugPortBank)]

/-- The fields of DPIDR. -/
def identification : RegisterLayout where
  flags := [("min", Identification.minimal)]
  numbers := [
    ("revision", Identification.revision),
    ("part_no", Identification.partNumber),
    ("version", Identification.version),
    ("jep_cc", Identification.designerContinuation),
    ("jep_id", Identification.designerCode)]

/-- The fields of CSW. -/
def controlWord : RegisterLayout where
  flags := [
    ("dbg_sw_enable", ControlWord.softwareEnable),
    ("spiden", ControlWord.secureEnabled),
    ("tr_in_prog", ControlWord.inProgress),
    ("device_en", ControlWord.deviceEnabled)]
  numbers := [
    ("prot", ControlWord.protection),
    ("mode", ControlWord.mode),
    ("addr_inc", ControlWord.increment),
    ("size", ControlWord.size)]

/-- The field of a name. -/
def field? (layout : RegisterLayout) (name : String) : Option BitField :=
  (layout.flags ++ layout.numbers).lookup name

/-- The levels of all flags in a word. -/
def flagsOf (layout : RegisterLayout) (word : UInt32) : List (String × Bool) :=
  layout.flags.map fun (name, field) ↦ (name, field.test word)

/-- The values of all numbers in a word. -/
def numbersOf (layout : RegisterLayout) (word : UInt32) : List (String × UInt8) :=
  layout.numbers.map fun (name, field) ↦ (name, field.getByte word)

end RegisterLayout

end DebugProbe
