import DebugProbe.Config.Basic
import DebugProbe.Config.Value

/-!
# Reading a configuration

A configuration is read from one table of values. Keys are visited in their order, and the first
problem is the one reported, with the path of keys and positions that leads to it. A section may
also be written as the list of its fields in their order. Fields that are not set have their
built-in values. The same fields write a configuration back into a table.
Specification: `SPEC_FULL.md` §9.
-/

namespace DebugProbe

/-- What is wrong with a value. -/
inductive ConfigProblem where
  /-- The text is not well formed. -/
  | malformed
  | unknownField (name : String)
  | unknownVariant (name : String)
  /-- A value of the wrong type. -/
  | invalidType
  /-- A number outside the range of its field. -/
  | invalidValue
  deriving DecidableEq, Repr

/-- A problem and where it is. -/
structure ConfigError where
  problem : ConfigProblem
  path : List String := []
  deriving DecidableEq, Repr

/-- The result of reading a part of a configuration. -/
abbrev ConfigResult (α : Type) := Except ConfigError α

namespace Setting

/-- A problem inside a value is reported with the key of the value in front of its path. -/
def within {α : Type} (key : String) (result : ConfigResult α) : ConfigResult α :=
  result.mapError fun error ↦ { error with path := key :: error.path }

/-- A number below `limit`. -/
def natural (limit : Nat) : Setting → ConfigResult Nat
  | .integer value =>
    if 0 ≤ value ∧ value < limit then .ok value.toNat else .error ⟨.invalidValue, []⟩
  | _ => .error ⟨.invalidType, []⟩

/-- A truth value. -/
def truth : Setting → ConfigResult Bool
  | .boolean value => .ok value
  | _ => .error ⟨.invalidType, []⟩

/-- A text, which may be a single character. -/
def string : Setting → ConfigResult String
  | .text content => .ok content
  | .character content => .ok content.toString
  | _ => .error ⟨.invalidType, []⟩

/-- A protocol by its key. A table names a protocol by its first key, but a protocol carries no
value that could stand there. -/
def protocol : Setting → ConfigResult WireProtocol
  | .text content =>
    match WireProtocol.ofKey? content with
    | some protocol => .ok protocol
    | none => .error ⟨.unknownVariant content, []⟩
  | .table ((key, _) :: _) =>
    match WireProtocol.ofKey? key with
    | some _ => .error ⟨.invalidType, [key]⟩
    | none => .error ⟨.unknownVariant key, [key]⟩
  | _ => .error ⟨.invalidType, []⟩

/-- The items of a list, read one after the other; `position` is that of the first one. -/
def items {α : Type} (item : Setting → ConfigResult α) (position : Nat) :
    List Setting → ConfigResult (List α)
  | [] => .ok []
  | value :: rest => do
    let first ← within (toString position) (item value)
    return first :: (← items item (position + 1) rest)

/-- A list. -/
def list {α : Type} (item : Setting → ConfigResult α) : Setting → ConfigResult (List α)
  | .array values => items item 0 values
  | _ => .error ⟨.invalidType, []⟩

/-- An 8-bit number. -/
def uint8 (value : Setting) : ConfigResult UInt8 := UInt8.ofNat <$> natural UInt8.size value

/-- A 16-bit number. -/
def uint16 (value : Setting) : ConfigResult UInt16 := UInt16.ofNat <$> natural UInt16.size value

/-- A 32-bit number. -/
def uint32 (value : Setting) : ConfigResult UInt32 := UInt32.ofNat <$> natural UInt32.size value

/-- A count or a time, which has 64 bits. -/
def count (value : Setting) : ConfigResult Nat := natural UInt64.size value

end Setting

/-- A field of a section: its key, how its value changes the section, and its value in a section,
`none` if it is not set. -/
structure ConfigField (σ : Type) where
  key : String
  assign : σ → Setting → ConfigResult σ
  value? : σ → Option Setting

namespace ConfigField

variable {σ : Type}

/-- The field that is read by `item`, stored by `store` and shown by `value?`. -/
def of {α : Type} (key : String) (item : Setting → ConfigResult α) (store : σ → α → σ)
    (value? : σ → Option Setting) : ConfigField σ :=
  ⟨key, fun part value ↦ store part <$> item value, value?⟩

/-- Reads the pairs of a table; every key has to be that of a field. -/
def readTable (fields : List (ConfigField σ)) (initial : σ) :
    List (String × Setting) → ConfigResult σ
  | [] => .ok initial
  | (key, value) :: rest => do
    let next ← Setting.within key <|
      match fields.find? (·.key = key) with
      | some field => field.assign initial value
      | none => .error ⟨.unknownField key, []⟩
    readTable fields next rest

/-- Reads values for the fields in their order; values past the last field are ignored. -/
def readItems (initial : σ) (position : Nat) :
    List (ConfigField σ) → List Setting → ConfigResult σ
  | field :: fields, value :: rest => do
    let next ← Setting.within (toString position) (field.assign initial value)
    readItems next (position + 1) fields rest
  | _, _ => .ok initial

/-- Reads a section. -/
def readSection (fields : List (ConfigField σ)) (initial : σ) : Setting → ConfigResult σ
  | .table entries => readTable fields initial entries
  | .array values => readItems initial 0 fields values
  | _ => .error ⟨.invalidType, []⟩

/-- The values of all fields, `none` for those that are not set. -/
def values (fields : List (ConfigField σ)) (part : σ) : List (String × Option Setting) :=
  fields.map fun field ↦ (field.key, field.value? part)

/-- The values of the fields that are set. -/
def writeTable (fields : List (ConfigField σ)) (part : σ) : List (String × Setting) :=
  (values fields part).filterMap fun (key, value?) ↦ value?.map (key, ·)

end ConfigField

/-- The fields of the section on probes. -/
def ProbeConfig.fields : List (ConfigField ProbeConfig) := [
  .of "selector" Setting.string (fun config value ↦ { config with selector := some value })
    fun config ↦ config.selector.map Setting.text,
  .of "timeout_ms" Setting.count (fun config value ↦ { config with timeout := value })
    fun config ↦ some (.integer config.timeout),
  .of "max_clock_hz" Setting.uint32 (fun config value ↦ { config with maxClock := value })
    fun config ↦ some (.integer config.maxClock.toNat)]

/-- The fields of the section on sessions. -/
def SessionConfig.fields : List (ConfigField SessionConfig) := [
  .of "protocol" Setting.protocol (fun config value ↦ { config with protocol := value })
    fun config ↦ some (.text config.protocol.key),
  .of "clock_hz" Setting.uint32 (fun config value ↦ { config with clock := value })
    fun config ↦ some (.integer config.clock.toNat),
  .of "connect_attempts" Setting.count
    (fun config value ↦ { config with connectAttempts := value })
    fun config ↦ some (.integer config.connectAttempts),
  .of "allow_protocol_fallback" Setting.truth
    (fun config value ↦ { config with allowFallback := value })
    fun config ↦ some (.boolean config.allowFallback),
  .of "target_sel" Setting.uint32 (fun config value ↦ { config with targetSel := some value })
    fun config ↦ config.targetSel.map fun value ↦ .integer value.toNat,
  .of "power_up" Setting.truth (fun config value ↦ { config with powerUp := value })
    fun config ↦ some (.boolean config.powerUp),
  .of "power_up_timeout_ms" Setting.count
    (fun config value ↦ { config with powerUpTimeout := value })
    fun config ↦ some (.integer config.powerUpTimeout),
  .of "jtag_ir_lengths" (Setting.list Setting.uint8)
    (fun config value ↦ { config with jtagIrLengths := value })
    fun config ↦ some (.array (config.jtagIrLengths.map fun length ↦ .integer length.toNat)),
  .of "jtag_index" Setting.uint8 (fun config value ↦ { config with jtagIndex := value })
    fun config ↦ some (.integer config.jtagIndex.toNat),
  .of "mem_ap" Setting.uint8 (fun config value ↦ { config with memoryPort := value })
    fun config ↦ some (.integer config.memoryPort.toNat),
  .of "auto_clear_sticky" Setting.truth
    (fun config value ↦ { config with autoClearSticky := value })
    fun config ↦ some (.boolean config.autoClearSticky)]

/-- The fields of the section on transfers. -/
def TransferConfig.fields : List (ConfigField TransferConfig) := [
  .of "wait_retry_limit" Setting.count (fun config value ↦ { config with waitRetryLimit := value })
    fun config ↦ some (.integer config.waitRetryLimit),
  .of "idle_cycles" Setting.uint8 (fun config value ↦ { config with idleCycles := value })
    fun config ↦ some (.integer config.idleCycles.toNat),
  .of "probe_wait_retry" Setting.uint16 (fun config value ↦ { config with probeWaitRetry := value })
    fun config ↦ some (.integer config.probeWaitRetry.toNat),
  .of "match_retry" Setting.uint16 (fun config value ↦ { config with matchRetry := value })
    fun config ↦ some (.integer config.matchRetry.toNat)]

/-- The fields of the section on firmware. -/
def FirmwareConfig.fields : List (ConfigField FirmwareConfig) := [
  .of "chunk_size" Setting.count (fun config value ↦ { config with chunkSize := value })
    fun config ↦ some (.integer config.chunkSize),
  .of "handshake_attempts" Setting.count
    (fun config value ↦ { config with handshakeAttempts := value })
    fun config ↦ some (.integer config.handshakeAttempts),
  .of "handshake_delay_ms" Setting.count
    (fun config value ↦ { config with handshakeDelay := value })
    fun config ↦ some (.integer config.handshakeDelay)]

/-- The field of a whole section, which starts from its built-in values. -/
def ConfigField.ofSection {σ τ : Type} (key : String) (fields : List (ConfigField τ)) (initial : τ)
    (store : σ → τ → σ) (part : σ → τ) : ConfigField σ :=
  .of key (ConfigField.readSection fields initial) store
    fun whole ↦ some (.table (ConfigField.writeTable fields (part whole)))

/-- The sections. -/
def Config.fields : List (ConfigField Config) := [
  .ofSection "probe" ProbeConfig.fields {} (fun config probe ↦ { config with probe }) Config.probe,
  .ofSection "session" SessionConfig.fields {} (fun config session ↦ { config with session })
    Config.session,
  .ofSection "transfer" TransferConfig.fields {} (fun config transfer ↦ { config with transfer })
    Config.transfer,
  .ofSection "firmware" FirmwareConfig.fields {} (fun config firmware ↦ { config with firmware })
    Config.firmware]

/-- Reads a configuration from a table of values. -/
def Config.ofEntries (entries : List (String × Setting)) : ConfigResult Config :=
  ConfigField.readTable Config.fields {} entries

/-- Every field of a configuration by section, with its value if it is set. -/
def Config.sections (config : Config) : List (String × List (String × Option Setting)) := [
  ("probe", ConfigField.values ProbeConfig.fields config.probe),
  ("session", ConfigField.values SessionConfig.fields config.session),
  ("transfer", ConfigField.values TransferConfig.fields config.transfer),
  ("firmware", ConfigField.values FirmwareConfig.fields config.firmware)]

/-- The table that reads as a configuration. -/
def Config.entries (config : Config) : List (String × Setting) :=
  ConfigField.writeTable Config.fields config

example : Config.ofEntries (Config.entries {}) = .ok {} := by rfl

end DebugProbe
