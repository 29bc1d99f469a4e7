import DebugProbe.Command.Transfer
import DebugProbe.Link.Error

/-!
# Batches

Accesses are collected in a batch before they are sent. Wherever the SELECT value that the target
will hold at that point does not fit the next access, a write of SELECT is put in front of it. Such
writes carry no origin and never show up among the responses. A batch takes an access only as long
as its frame and the answer to it fit into a packet.
Specification: `SPEC_FULL.md` §4.3.
-/

namespace DebugProbe

/-- A transfer as it goes on the wire. -/
structure BatchEntry where
  transfer : Transfer
  /-- The value of SELECT once the transfer completed, for a transfer that writes it. -/
  select : Option Select
  /-- Position of the access that the transfer carries out, `none` for an inserted write. -/
  origin : Option Nat
  deriving DecidableEq, Repr

namespace BatchEntry

/-- A write of SELECT. -/
def selecting (select : Select) : BatchEntry where
  transfer := ⟨.debug, DebugPort.selectAddress, some select.word⟩
  select := some select
  origin := none

/-- The transfer for an access; one that writes SELECT by its own address is remembered as such. -/
def ofAccess (access : RegisterAccess) (index : Nat) : BatchEntry where
  transfer := ⟨access.register.port, access.register.wireAddress, access.value?⟩
  select := match access with
    | .write (.debug address) value =>
      if address = DebugPort.selectAddress then some ⟨value⟩ else none
    | _ => none
  origin := some index

end BatchEntry

/-- The request that carries some entries. -/
def TransferRequest.ofEntries (dapIndex : UInt8) (entries : List BatchEntry) : TransferRequest :=
  ⟨dapIndex, entries.map (·.transfer)⟩

/-- The value of SELECT after some entries completed. -/
def selectAfter (select : Option Select) (entries : List BatchEntry) : Option Select :=
  entries.foldl (fun held entry ↦ entry.select.or held) select

/-- Accesses that wait to be sent. -/
structure Batch where
  entries : List BatchEntry := []
  /-- The value of SELECT after the last entry. -/
  projected : Option Select := none
  /-- Number of accesses, inserted writes not counted. -/
  requests : Nat := 0
  deriving DecidableEq, Repr

namespace Batch

/-- Whether no access waits. -/
def isEmpty (batch : Batch) : Bool := batch.requests == 0

/-- The entries that an access needs when SELECT holds `current`. -/
def entriesFor (current : Option Select) (access : RegisterAccess) (index : Nat) :
    List BatchEntry :=
  let inserted := match access.register.requiredSelect current with
    | some select => [BatchEntry.selecting select]
    | none => []
  inserted ++ [BatchEntry.ofAccess access index]

/-- Whether the frame of some entries, and the answer to it, fit into a packet. -/
def fits (entries : List BatchEntry) (packetSize : Nat) : Bool :=
  let request := TransferRequest.ofEntries 0 entries
  request.transfers.length ≤ TransferRequest.maxCount
    && request.requestSize ≤ packetSize && request.replySize ≤ packetSize

/-- The batch with one more access, unless it no longer fits into a packet. The value of SELECT in
the target matters only for an empty batch. -/
def push? (batch : Batch) (cache : Option Select) (packetSize : Nat) (access : RegisterAccess) :
    Option Batch :=
  let current := if batch.entries.isEmpty then cache else batch.projected
  let added := entriesFor current access batch.requests
  if fits (batch.entries ++ added) packetSize then
    some ⟨batch.entries ++ added, selectAfter current added, batch.requests + 1⟩
  else none

/-- Responses for entries that completed, with the words that were read. -/
def completed (entries : List BatchEntry) (data : List (Option UInt32)) : List AccessResponse :=
  (entries.zip data).filterMap fun (entry, value) ↦
    entry.origin.map fun index ↦ ⟨index, .ok, value⟩

/-- Responses for entries from the failed one on: the first access gets the status of the failure,
all later ones were not attempted. -/
def failed (status : AccessStatus) (entries : List BatchEntry) : List AccessResponse :=
  match entries.filterMap (·.origin) with
  | [] => []
  | first :: rest =>
    ⟨first, status, none⟩ :: rest.map fun index ↦ ⟨index, .aborted, none⟩

end Batch

end DebugProbe
