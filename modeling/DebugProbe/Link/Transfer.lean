import DebugProbe.Config.Basic
import DebugProbe.Link.Batch
import DebugProbe.Link.State
import DebugProbe.Probe.Commands

/-!
# Register accesses over a link

A link is a transport with the state of the connection and the batch that waits. Flushing sends the
batch in as few frames as possible. After a WAIT only the transfer that has to wait goes out, again
and again until it completes or the retry limit is reached; any other failure ends the batch. Block
transfers are cut to the packet size and resumed at the word that had to wait.
Specification: `SPEC_FULL.md` §4.3.
-/

namespace DebugProbe

/-- A transport, the state of the connection over it and the batch that waits to be sent. -/
structure Link (σ : Type) where
  transport : σ
  state : LinkState := {}
  batch : Batch := {}

namespace Link

variable {σ : Type}

/-- Changes the state of the connection. -/
def modifyState {ε : Type} (change : LinkState → LinkState) : Action (Link σ) ε Unit :=
  Action.update fun link ↦ { link with state := change link.state }

/-- What SELECT holds in the target is no longer known. -/
def forgetSelect (link : Link σ) : Link σ :=
  { link with state := { link.state with selectCache := none } }

/-- Drops the batch without sending it. -/
def discard (link : Link σ) : Link σ := { link with batch := {} }

/-- Runs an action of the probe. -/
def onProbe {ε α : Type} (action : Action σ ε α) : Action (Link σ) ε α :=
  action.within Link.transport fun transport link ↦ { link with transport }

/-- Runs a command of the probe as part of an access. -/
def command {α : Type} (action : Action σ CommandError α) : Action (Link σ) AccessError α :=
  (onProbe action).mapError .command

/-- Accesses need an active link without a sticky error. -/
def checkReady : Action (Link σ) AccessError Unit := do
  let state := (← get).state
  if !state.isActive then throw .notConnected
  if state.stickyError then throw .stickyErrorPending

/-- No access may wait in the batch. -/
def checkNoneQueued : Action (Link σ) AccessError Unit := do
  if !(← get).batch.isEmpty then throw .batchPending

/-- Adds an access to the batch and gives its position there. -/
def queue (packetSize : Nat) (access : RegisterAccess) : Action (Link σ) AccessError Nat := do
  checkReady
  let link ← get
  match link.batch.push? link.state.selectCache packetSize access with
  | none => throw .batchFull
  | some batch =>
    set { link with batch }
    return link.batch.requests

/-- Takes over what a failed status says about the target, and tells how the access ended; `none`
for a WAIT, which is to be retried. -/
def classify (status : TransferStatus) (state : LinkState) : Option AccessStatus × LinkState :=
  if status.protocolError then (some .fault, { state with stickyError := true })
  else match status.acknowledge with
    | .wait => (none, state)
    | .fault => (some .fault, { state with stickyError := true })
    | .ok => (some .fault, state)
    | .noAck => (some .noResponse, { state with lineResetPending := true })

/-- Takes over what a failed status says about the target. -/
def noteFailure {ε : Type} (status : TransferStatus) :
    Action (Link σ) ε (Option AccessStatus) := do
  let link ← get
  let (failure?, state) := classify status link.state
  set { link with state }
  return failure?

/-- The number of WAIT answers in a row after which an access is given up. -/
def waitLimit (config : TransferConfig) : Nat := max config.waitRetryLimit 1

/-- Progress makes up for all the WAIT answers that may follow it. -/
private theorem effort_of_progress {left all limit waits : Nat} (less : left < all) :
    left * (limit + 1) + (limit - 0) < all * (limit + 1) + (limit - waits) := by
  have step : (left + 1) * (limit + 1) ≤ all * (limit + 1) := Nat.mul_le_mul_right _ less
  rw [Nat.succ_mul] at step
  omega

/-- One more WAIT answer is one less that may follow. -/
private theorem effort_of_wait {left all limit waits : Nat} (le : left ≤ all)
    (more : waits < limit) :
    left * (limit + 1) + (limit - (waits + 1)) < all * (limit + 1) + (limit - waits) := by
  have step : left * (limit + 1) ≤ all * (limit + 1) := Nat.mul_le_mul_right _ le
  omega

variable [Transport σ]

/-- Sends entries until all completed or one failed. `waits` counts the WAIT answers that the first
entry got in a row. -/
def sendEntries (limit : Nat) (entries : List BatchEntry) (waits : Nat) :
    Action (Link σ) AccessError (List AccessResponse) :=
  match entries with
  | [] => return []
  | entry :: rest => do
    let chunk := if 0 < waits then [entry] else entry :: rest
    let dapIndex := (← get).state.dapIndex
    let reply ← command (Probe.transfer (.ofEntries dapIndex chunk))
    modifyState fun state ↦
      { state with selectCache := selectAfter state.selectCache (chunk.take reply.data.length) }
    let responses := Batch.completed chunk reply.data
    let left := (entry :: rest).drop reply.count
    if reply.status.isOk then
      if reply.count = chunk.length then
        return responses ++ (← sendEntries limit left 0)
      else throw (.unexpectedAnswer .transfer)
    else if chunk.length ≤ reply.count then throw (.unexpectedAnswer .transfer)
    else match ← noteFailure reply.status with
      | some failure =>
        Action.update forgetSelect
        return responses ++ Batch.failed failure left
      | none =>
        if limit ≤ waits + 1 then
          Action.update forgetSelect
          return responses ++ Batch.failed .retryExhausted left
        else return responses ++ (← sendEntries limit left (waits + 1))
termination_by entries.length * (limit + 1) + (limit - waits)
decreasing_by
  · have complete : reply.count = chunk.length := by assumption
    apply effort_of_progress
    have : 0 < chunk.length := by
      simp only [chunk]
      split <;> simp
    simp only [complete, List.length_drop, List.length_cons]
    omega
  · apply effort_of_wait
    · simp only [List.length_drop]
      omega
    · omega

/-- Sends the batch and gives one response for each access in it. -/
def flush (config : TransferConfig) : Action (Link σ) AccessError (List AccessResponse) := do
  let batch := (← get).batch
  Action.update discard
  checkReady
  if batch.entries.isEmpty then return []
  (sendEntries (waitLimit config) batch.entries 0).onError fun _ ↦ forgetSelect

/-- Sends a single access at once. -/
def run (config : TransferConfig) (access : RegisterAccess) :
    Action (Link σ) AccessError (Option UInt32) := do
  checkNoneQueued
  let _ ← queue (← onProbe Probe.packetSize) access
  match ← flush config with
  | response :: _ => Action.ofExcept response.result
  | [] => throw (.unexpectedAnswer .transfer)

/-- Clears every sticky flag of the target. -/
def clearStickyErrors : Action (Link σ) AccessError Unit := do
  let state := (← get).state
  if !state.isActive then throw .notConnected
  command (Probe.writeAbort state.dapIndex Abort.clearSticky.word)
  modifyState fun state ↦ { state with stickyError := false }

/-- Drops the batch and gives up a transfer that the probe is still retrying. -/
def abortTransfer : Action (Link σ) AccessError Unit := do
  Action.update discard
  command Probe.abortTransfer

/-- Makes a register reachable by writing SELECT if need be. -/
def select (config : TransferConfig) (register : RegisterAddress) :
    Action (Link σ) AccessError Unit := do
  match register.requiredSelect (← get).state.selectCache with
  | some needed =>
    let _ ← run config (.write (.debug DebugPort.selectAddress) needed.word)
  | none => return

end Link

/-- The words of a block transfer: how many to read, or which to write. -/
inductive BlockData where
  | read (count : Nat)
  | write (words : List UInt32)
  deriving DecidableEq, Repr

namespace BlockData

/-- Number of words. -/
def size : BlockData → Nat
  | read count => count
  | write words => words.length

/-- The first words, as one frame asks for them. -/
def front (data : BlockData) (count : Nat) : BlockAccess :=
  match data with
  | read _ => .read (UInt16.ofNat count)
  | write words => .write (words.take count)

/-- The words after the first ones. -/
def rest (data : BlockData) (count : Nat) : BlockData :=
  match data with
  | read total => .read (total - count)
  | write words => .write (words.drop count)

@[simp] theorem size_rest (data : BlockData) (count : Nat) :
    (data.rest count).size = data.size - count := by
  cases data <;> simp [rest, size]

end BlockData

/-- The register that is rewritten before a block transfer resumes after a WAIT, normally the
transfer address of a memory access port: it gets `base` plus four for each word done. -/
structure BlockResume where
  register : RegisterAddress
  base : UInt32
  deriving DecidableEq, Repr

namespace Link

variable {σ : Type} [Transport σ]

/-- Rewrites the resume register for the word after `completed` ones, and makes the block's register
reachable again. -/
def resumeBlock (config : TransferConfig) (register : RegisterAddress)
    (resume : Option BlockResume) (completed : Nat) : Action (Link σ) AccessError Unit := do
  match resume with
  | none => return
  | some resume =>
    let _ ← run config (.write resume.register (resume.base + 4 * UInt32.ofNat completed))
    select config register

/-- Transfers the words that are left, `completed` ones being done; `waits` counts the WAIT answers
that the next word got in a row. Gives the words read. -/
def sendBlock (config : TransferConfig) (register : RegisterAddress)
    (resume : Option BlockResume) (maxWords : Nat) (data : BlockData) (completed waits : Nat) :
    Action (Link σ) AccessError (List UInt32) := do
  if data.size = 0 then return []
  else
    let asked := min data.size (max maxWords 1)
    let dapIndex := (← get).state.dapIndex
    let reply ← (command (Probe.transferBlock
      ⟨dapIndex, register.port, register.wireAddress, data.front asked⟩)).onError
        fun _ ↦ forgetSelect
    if reply.status.isOk then
      if reply.count = asked then
        let words ← sendBlock config register resume maxWords (data.rest reply.count)
          (completed + reply.count) 0
        return reply.words ++ words
      else
        Action.update forgetSelect
        throw (.unexpectedAnswer .transferBlock)
    else match ← noteFailure reply.status with
      | some failure =>
        Action.update forgetSelect
        throw (.ofStatus failure)
      | none =>
        let repeated := if 0 < reply.count then 1 else waits + 1
        if waitLimit config ≤ repeated then
          Action.update forgetSelect
          throw .retryExhausted
        else
          resumeBlock config register resume (completed + reply.count)
          let words ← sendBlock config register resume maxWords (data.rest reply.count)
            (completed + reply.count) repeated
          return reply.words ++ words
termination_by data.size * (waitLimit config + 1) + (waitLimit config - waits)
decreasing_by
  · have complete : reply.count = asked := by assumption
    apply effort_of_progress
    rw [BlockData.size_rest, complete]
    omega
  · have left : ¬waitLimit config ≤ repeated := by assumption
    by_cases progress : 0 < reply.count
    · rw [dif_pos progress]
      refine Nat.lt_of_le_of_lt (Nat.add_le_add_left (Nat.sub_le_sub_left (Nat.zero_le 1) _) _)
        (effort_of_progress ?_)
      rw [BlockData.size_rest]
      omega
    · have again : repeated = waits + 1 := dif_neg progress
      rw [again] at left
      rw [dif_neg progress]
      apply effort_of_wait
      · rw [BlockData.size_rest]
        omega
      · omega

/-- Reads or writes many words through one register and gives the words read. -/
def block (config : TransferConfig) (register : RegisterAddress) (data : BlockData)
    (resume : Option BlockResume) : Action (Link σ) AccessError (List UInt32) := do
  checkReady
  checkNoneQueued
  select config register
  let maxWords := BlockRequest.maxWords (← onProbe Probe.packetSize)
  sendBlock config register resume maxWords data 0 0

/-- Reads `count` words from one register. -/
def readBlock (config : TransferConfig) (register : RegisterAddress) (count : Nat)
    (resume : Option BlockResume) : Action (Link σ) AccessError (List UInt32) :=
  block config register (.read count) resume

/-- Writes words to one register. -/
def writeBlock (config : TransferConfig) (register : RegisterAddress) (words : List UInt32)
    (resume : Option BlockResume) : Action (Link σ) AccessError Unit := do
  let _ ← block config register (.write words) resume

end Link

end DebugProbe
