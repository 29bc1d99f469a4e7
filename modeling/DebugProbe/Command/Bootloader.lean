import DebugProbe.Command.Framing

/-!
# Bootloader commands

While it replaces its firmware the probe runs a bootloader: it tells what it can take, accepts the
image in chunks and reports the checksum of what it received.
Specification: `SPEC_FULL.md` §4.5.
-/

namespace DebugProbe

/-- What the bootloader can take. -/
structure Handshake where
  status : Status
  version : UInt8
  /-- The largest chunk. -/
  chunkSize : UInt16
  maxImageSize : UInt32
  deriving DecidableEq, Repr

/-- Reads a handshake; after an error status every other field counts as zero. -/
def Handshake.parse (payload : Bytes) : Except FramingError Handshake := do
  match ← Status.ofByte (payload.byteAt 0) with
  | .error => return ⟨.error, 0, 0, 0⟩
  | .ok =>
    requireLength payload 8
    return ⟨.ok, payload.byteAt 1, payload.uint16At 2, payload.uint32At 4⟩

/-- A piece of the image and its place. -/
structure FirmwareChunk where
  offset : UInt32
  data : Bytes
  deriving DecidableEq, Repr

namespace FirmwareChunk

/-- Bytes of a chunk's frame in front of its data. -/
def headerSize : Nat := 6

/-- The length of the data travels in one byte. -/
def maxData : Nat := 255

/-- What follows the command code: offset, length and data. -/
def payload (chunk : FirmwareChunk) : Bytes :=
  Bytes.ofUInt32 chunk.offset ++ UInt8.ofNat chunk.data.length :: chunk.data

end FirmwareChunk

/-- The answer to a chunk. -/
structure ChunkReply where
  status : Status
  /-- The offset at which the bootloader placed the chunk. -/
  offset : UInt32
  deriving DecidableEq, Repr

/-- Reads the answer to a chunk. -/
def ChunkReply.parse (payload : Bytes) : Except FramingError ChunkReply := do
  let status ← Status.ofByte (payload.byteAt 0)
  requireLength payload 5
  return ⟨status, payload.uint32At 1⟩

/-- The answer to a checksum query. -/
structure ChecksumReply where
  status : Status
  crc : UInt32
  deriving DecidableEq, Repr

/-- Reads the answer to a checksum query. -/
def ChecksumReply.parse (payload : Bytes) : Except FramingError ChecksumReply := do
  let status ← Status.ofByte (payload.byteAt 0)
  requireLength payload 5
  return ⟨status, payload.uint32At 1⟩

end DebugProbe
