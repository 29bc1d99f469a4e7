import DebugProbe.Proofs.Bounds.Exchange
import DebugProbe.Proofs.Link.Block
import DebugProbe.Proofs.Link.Sending

/-!
# Cursors that stay inside

A batch is sent from a cursor on, and a block from the word on that comes after those done. Both go
on by as many items as the probe reports. Here the loops run over positions, as a range of the batch
or of the words that must lie inside, and a position that passes the end leaves them without an
outcome. It never does, because a report of more items than were asked for is no answer.
-/

namespace DebugProbe

namespace Checked.OnLink

/-- A loop over positions ends if it goes on or may wait once less each time. -/
private theorem less_effort {size position count limit waits repeated : Nat}
    (before : position < size) (goesOn : 0 < count ∨ waits < repeated ∧ waits < limit) :
    Prod.Lex (· < ·) (· < ·) (size - (position + count), limit - repeated)
      (size - position, limit - waits) := by
  by_cases progress : 0 < count
  · apply Prod.Lex.left
    omega
  · have none : count = 0 := Nat.eq_zero_of_not_pos progress
    rw [none, Nat.add_zero]
    apply Prod.Lex.right
    omega

variable {σ : Type} [Transport σ]

/-- Runs a command of the probe as part of an access. -/
def command (request : Request) : Checked (Link σ) AccessError request.Response :=
  ((send request).within Link.transport fun transport link ↦ { link with transport }).mapError
    .command

/-- Adds an access to the batch and gives its position there. -/
def queue (packetSize : Nat) (access : RegisterAccess) : Checked (Link σ) AccessError Nat := do
  ofAction Link.checkReady
  let link ← get
  match link.batch.push? link.state.selectCache packetSize access with
  | none => throw .batchFull
  | some batch =>
    set { link with batch }
    minus batch.requests 1

/-- Sends the entries of a batch from a position on. -/
def sendEntries (limit : Nat) (batch : List BatchEntry) (cursor waits : Nat) :
    Checked (Link σ) AccessError (List AccessResponse) := do
  if cursor < batch.length then
    let stop := if 0 < waits then cursor + 1 else batch.length
    let ⟨_⟩ ← demand (cursor ≤ stop ∧ stop ≤ batch.length)
    let chunk := (batch.drop cursor).take (stop - cursor)
    let dapIndex := (← get).state.dapIndex
    let reply ← command (.transfer (.ofEntries dapIndex chunk))
    ofAction (Link.modifyState fun state ↦
      { state with selectCache := selectAfter state.selectCache (chunk.take reply.data.length) })
    let responses := Batch.completed chunk reply.data
    let next := cursor + reply.count
    let ⟨_⟩ ← demand (next ≤ batch.length)
    if reply.status.isOk then
      if reply.count = chunk.length then
        return responses ++ (← sendEntries limit batch next 0)
      else throw (.unexpectedAnswer .transfer)
    else if chunk.length ≤ reply.count then throw (.unexpectedAnswer .transfer)
    else match ← ofAction (Link.noteFailure reply.status) with
      | some failure =>
        update Link.forgetSelect
        return responses ++ Batch.failed failure (← part batch next batch.length)
      | none =>
        if limit ≤ waits + 1 then
          update Link.forgetSelect
          return responses ++ Batch.failed .retryExhausted (← part batch next batch.length)
        else return responses ++ (← sendEntries limit batch next (waits + 1))
  else return []
termination_by (batch.length - cursor, limit - waits)
decreasing_by
  · have size : chunk.length = stop - cursor := by
      simp only [chunk, List.length_take, List.length_drop]
      omega
    have after : cursor < stop := by
      simp only [stop]
      split <;> omega
    exact less_effort (by assumption) (.inl (by omega))
  · exact less_effort (by assumption) (.inr (by omega))

/-- Sends the batch and gives one response for each access in it. -/
def flush (config : TransferConfig) : Checked (Link σ) AccessError (List AccessResponse) := do
  let batch := (← get).batch
  update Link.discard
  ofAction Link.checkReady
  if batch.entries.isEmpty then return []
  (sendEntries (Link.waitLimit config) batch.entries 0 0).onError fun _ ↦ Link.forgetSelect

/-- Sends a single access at once. -/
def run (config : TransferConfig) (access : RegisterAccess) :
    Checked (Link σ) AccessError (Option UInt32) := do
  ofAction Link.checkNoneQueued
  let _ ← queue (← ofAction (Link.onProbe Probe.packetSize)) access
  match ← flush config with
  | response :: _ => ofExcept response.result
  | [] => throw (.unexpectedAnswer .transfer)

/-- Makes a register reachable by writing SELECT if need be. -/
def select (config : TransferConfig) (register : RegisterAddress) :
    Checked (Link σ) AccessError Unit := do
  match register.requiredSelect (← get).state.selectCache with
  | some needed =>
    let _ ← run config (.write (.debug DebugPort.selectAddress) needed.word)
  | none => return

/-- Rewrites the resume register, whose new value is computed in 32 bits. -/
def resumeBlock (config : TransferConfig) (register : RegisterAddress)
    (resume : Option BlockResume) (done : Nat) : Checked (Link σ) AccessError Unit := do
  match resume with
  | none => return
  | some resume =>
    let _ ← demand (4 * done < UInt32.size)
    let _ ← run config (.write resume.register (resume.base + 4 * UInt32.ofNat done))
    select config register

/-- What a frame does with the words from a position on. -/
def blockPart (data : BlockData) (done asked : Nat) : Checked (Link σ) AccessError BlockAccess :=
  match data with
  | .read _ => return .read (UInt16.ofNat asked)
  | .write words => return .write (← part words done (done + asked))

/-- Transfers the words from a position on. -/
def sendBlock (config : TransferConfig) (register : RegisterAddress)
    (resume : Option BlockResume) (maxWords : Nat) (data : BlockData) (done waits : Nat) :
    Checked (Link σ) AccessError (List UInt32) := do
  if done < data.size then
    let ⟨_⟩ ← demand (done ≤ data.size)
    let asked := min (data.size - done) (max maxWords 1)
    let dapIndex := (← get).state.dapIndex
    let access ← blockPart data done asked
    let reply ← (command (.transferBlock
      ⟨dapIndex, register.port, register.wireAddress, access⟩)).onError fun _ ↦ Link.forgetSelect
    let next := done + reply.count
    let ⟨_⟩ ← demand (next ≤ data.size)
    if reply.status.isOk then
      if reply.count = asked then
        let words ← sendBlock config register resume maxWords data next 0
        return reply.words ++ words
      else
        update Link.forgetSelect
        throw (.unexpectedAnswer .transferBlock)
    else match ← ofAction (Link.noteFailure reply.status) with
      | some failure =>
        update Link.forgetSelect
        throw (.ofStatus failure)
      | none =>
        let repeated := if 0 < reply.count then 1 else waits + 1
        if Link.waitLimit config ≤ repeated then
          update Link.forgetSelect
          throw .retryExhausted
        else
          resumeBlock config register resume next
          let words ← sendBlock config register resume maxWords data next repeated
          return reply.words ++ words
  else return []
termination_by (data.size - done, Link.waitLimit config - waits)
decreasing_by
  · exact less_effort (by assumption) (.inl (by omega))
  · apply less_effort (by assumption)
    by_cases progress : 0 < reply.count
    · exact .inl progress
    · have again : repeated = waits + 1 := if_neg progress
      exact .inr ⟨by omega, by omega⟩

/-- Reads or writes many words through one register and gives the words read. -/
def block (config : TransferConfig) (register : RegisterAddress) (data : BlockData)
    (resume : Option BlockResume) : Checked (Link σ) AccessError (List UInt32) := do
  ofAction Link.checkReady
  ofAction Link.checkNoneQueued
  select config register
  let maxWords := BlockRequest.maxWords (← ofAction (Link.onProbe Probe.packetSize))
  sendBlock config register resume maxWords data 0 0

end Checked.OnLink

/-- A block answer reports no more accesses than its request announces. -/
theorem BlockRequest.count_of_parse {request : BlockRequest} {payload : Bytes} {reply : BlockReply}
    (parsed : request.parse payload = .ok reply) : reply.count ≤ request.access.count.toNat := by
  unfold parse at parsed
  dsimp only at parsed
  split at parsed
  · nomatch parsed
  · next few =>
    split at parsed
    · cases enough : requireLength payload (3 + 4 * (payload.uint16At 0).toNat) with
      | error error =>
        rw [enough] at parsed
        nomatch parsed
      | ok =>
        rw [enough] at parsed
        cases parsed
        exact Nat.le_of_not_lt few
    · cases parsed
      exact Nat.le_of_not_lt few

namespace BlockData

/-- A frame announces no more words than were asked for. -/
theorem toNat_count_front (data : BlockData) (asked : Nat) :
    (data.front asked).count.toNat ≤ asked := by
  cases data with
  | read total => exact Nat.mod_le asked _
  | write words =>
    have announced : (UInt16.ofNat (min (words.take asked).length 65535)).toNat ≤
        min (words.take asked).length 65535 := Nat.mod_le _ _
    have taken := List.length_take_le asked words
    show (UInt16.ofNat (min (words.take asked).length 65535)).toNat ≤ asked
    omega

/-- What is left after some words and some more is what is left after all of them. -/
theorem rest_rest (data : BlockData) (first second : Nat) :
    (data.rest first).rest second = data.rest (first + second) := by
  cases data with
  | read total => exact congrArg read (Nat.sub_sub total first second)
  | write words => exact congrArg write List.drop_drop

theorem rest_zero (data : BlockData) : data.rest 0 = data := by
  cases data <;> rfl

end BlockData

namespace Link

open Checked (Matches)

variable {σ : Type} [Transport σ]

theorem matches_command (request : Request) (link : Link σ) :
    (Checked.OnLink.command request).Matches (command (Probe.send request)) link :=
  (Probe.matches_send request link.transport).within.mapError _

/-- No more transfers are reported than were asked for. -/
private theorem count_of_transfer {request : TransferRequest} {link next : Link σ}
    {reply : TransferReply}
    (answered : (command (Probe.transfer request)).outcome link = (.ok reply, next)) :
    reply.count ≤ request.transfers.length := by
  have counted : (command (Probe.transfer request)).Yields link
      (fun reply _ ↦ reply.count ≤ request.transfers.length) fun _ _ ↦ True :=
    yields_command.mpr ((Probe.yields_transfer request link.transport).imp
      (fun _ _ told ↦ told.1.2) fun _ _ _ ↦ trivial)
  exact counted.of_ok answered

omit [Transport σ] in
theorem matches_queue (packetSize : Nat) (access : RegisterAccess) (link : Link σ) :
    (Checked.OnLink.queue packetSize access).Matches (queue packetSize access) link := by
  refine .lift_bind fun _ link _ ↦ .get_bind ?_
  cases pushed : link.batch.push? link.state.selectCache packetSize access with
  | none => exact .throw _ _
  | some batch =>
    obtain ⟨-, rfl⟩ := Batch.push?_eq_some_iff.mp pushed
    refine Matches.bind rfl fun _ link _ ↦ ?_
    exact .minus (Nat.le_add_left 1 _) (.pure _ _)

/-- Sending from a position on sends what is left from there on. -/
theorem matches_sendEntries (limit : Nat) (batch entries : List BatchEntry) (waits : Nat) :
    ∀ {cursor : Nat}, batch.drop cursor = entries → cursor ≤ batch.length → ∀ link : Link σ,
      (Checked.OnLink.sendEntries limit batch cursor waits).Matches
        (sendEntries limit entries waits) link := by
  induction entries, waits using @sendEntries_induction limit with
  | nil waits =>
    intro cursor none le link
    have past : ¬cursor < batch.length := by
      have := List.drop_eq_nil_iff.mp none
      omega
    rw [Checked.OnLink.sendEntries, if_neg past, sendEntries]
    exact .pure _ _
  | cons entry rest waits progressing again =>
    intro cursor here le link
    have length : batch.length - cursor = rest.length + 1 := by
      have := congrArg List.length here
      rwa [List.length_drop] at this
    have before : cursor < batch.length := by omega
    have frame : (batch.drop cursor).take
        ((if 0 < waits then cursor + 1 else batch.length) - cursor) =
          nextFrame entry rest waits := by
      unfold nextFrame
      rw [here]
      split
      · rw [Nat.add_sub_cancel_left]
        rfl
      · exact List.take_of_length_le (Nat.le_of_eq length.symm)
    have few : (nextFrame entry rest waits).length ≤ batch.length - cursor := by
      rw [← frame, List.length_take, List.length_drop]
      exact Nat.min_le_right _ _
    have range : cursor ≤ (if 0 < waits then cursor + 1 else batch.length) ∧
        (if 0 < waits then cursor + 1 else batch.length) ≤ batch.length := by
      split <;> omega
    have left (count : Nat) : batch.drop (cursor + count) = (entry :: rest).drop count := by
      rw [← here, List.drop_drop]
    rw [Checked.OnLink.sendEntries, if_pos before, sendEntries]
    dsimp only
    rw [frame]
    refine .demand range (.get_bind ?_)
    refine (matches_command _ link).bind fun reply link answered ↦ ?_
    have counted := count_of_transfer answered
    rw [TransferRequest.ofEntries, List.length_map] at counted
    have inside : cursor + reply.count ≤ batch.length := by omega
    have tail : (batch.drop (cursor + reply.count)).take (batch.length - (cursor + reply.count)) =
        (entry :: rest).drop reply.count := by
      rw [← left, ← List.length_drop]
      exact List.take_length
    refine .lift_bind fun _ link _ ↦ .demand inside ?_
    refine .ite (fun ok ↦ .ite (fun complete ↦ ?_) fun _ ↦ .throw _ _) fun _ ↦
      .ite (fun _ ↦ .throw _ _) fun _ ↦ ?_
    · have less : ((entry :: rest).drop reply.count).length < (entry :: rest).length := by
        have some := length_nextFrame_pos entry rest waits
        rw [List.length_drop, complete]
        exact Nat.sub_lt (Nat.zero_lt_succ _) some
      exact (progressing _ less (left _) inside link).bind fun _ _ _ ↦ .pure _ _
    · refine .lift_bind fun failure? link _ ↦ ?_
      cases failure? with
      | some failure =>
        refine .lift_bind fun _ link _ ↦ .part ⟨inside, Nat.le_refl _⟩ ?_
        rw [tail]
        exact .pure _ _
      | none =>
        refine .ite (fun _ ↦ ?_) fun more ↦ ?_
        · refine .lift_bind fun _ link _ ↦ .part ⟨inside, Nat.le_refl _⟩ ?_
          rw [tail]
          exact .pure _ _
        · have le : ((entry :: rest).drop reply.count).length ≤ (entry :: rest).length := by
            rw [List.length_drop]
            exact Nat.sub_le _ _
          exact (again _ le (Nat.lt_of_not_le more) (left _) inside link).bind fun _ _ _ ↦
            .pure _ _

theorem matches_flush (config : TransferConfig) (link : Link σ) :
    (Checked.OnLink.flush config).Matches (flush config) link := by
  refine .get_bind ?_
  refine .lift_bind fun _ after _ ↦ ?_
  refine .lift_bind fun _ after _ ↦ ?_
  refine .ite (fun _ ↦ .pure _ _) fun _ ↦ ?_
  exact (matches_sendEntries _ _ _ 0 List.drop_zero (Nat.zero_le _) after).onError _

theorem matches_run (config : TransferConfig) (access : RegisterAccess) (link : Link σ) :
    (Checked.OnLink.run config access).Matches (run config access) link := by
  refine .lift_bind fun _ link _ ↦ ?_
  refine .lift_bind fun size link _ ↦ ?_
  refine (matches_queue size access link).bind fun _ link _ ↦ ?_
  refine (matches_flush config link).bind fun responses link _ ↦ ?_
  cases responses with
  | nil => exact .throw _ _
  | cons response rest => exact .lift _ _

theorem matches_select (config : TransferConfig) (register : RegisterAddress) (link : Link σ) :
    (Checked.OnLink.select config register).Matches (select config register) link := by
  refine .get_bind ?_
  cases register.requiredSelect link.state.selectCache with
  | some needed => exact (matches_run config _ link).bind fun _ _ _ ↦ .pure _ _
  | none => exact .pure _ _

theorem matches_resumeBlock (config : TransferConfig) (register : RegisterAddress)
    (resume : Option BlockResume) {done : Nat} (few : 4 * done < UInt32.size) (link : Link σ) :
    (Checked.OnLink.resumeBlock config register resume done).Matches
      (resumeBlock config register resume done) link := by
  cases resume with
  | none => exact .pure _ _
  | some resume =>
    refine .demand few ((matches_run config _ link).bind fun _ link _ ↦ ?_)
    exact matches_select config register link

/-- No more words are reported than were asked for. -/
private theorem count_of_transferBlock {request : BlockRequest} {link next : Link σ}
    {reply : BlockReply} {recover : AccessError → Link σ → Link σ}
    (answered : ((command (Probe.transferBlock request)).onError recover).outcome link =
      (.ok reply, next)) : reply.count ≤ request.access.count.toNat := by
  have counted : ((command (Probe.transferBlock request)).onError recover).Yields link
      (fun reply _ ↦ reply.count ≤ request.access.count.toNat) fun _ _ ↦ True := by
    rw [Action.yields_onError, yields_command]
    exact (Probe.yields_parsed rfl link.transport).imp
      (fun _ _ ⟨_, parsed⟩ ↦ BlockRequest.count_of_parse parsed) fun _ _ _ ↦ trivial
  exact counted.of_ok answered

omit [Transport σ] in
/-- The words that a frame carries are a range of those to be written. -/
private theorem gives_blockPart {data : BlockData} {done asked : Nat}
    (inside : done + asked ≤ data.size) :
    (Checked.OnLink.blockPart data done asked : Checked (Link σ) AccessError _).Gives
      (.ok ((data.rest done).front asked)) := by
  cases data with
  | read total => exact .ok _
  | write words => exact .part inside (.ok _)

/-- Sending the words from a position on sends what is left from there on. -/
theorem matches_sendBlock (config : TransferConfig) (register : RegisterAddress)
    (resume : Option BlockResume) (maxWords : Nat) (data left : BlockData) (done waits : Nat)
    (few : 4 * data.size < UInt32.size) (rest : data.rest done = left) (le : done ≤ data.size)
    (link : Link σ) :
    (Checked.OnLink.sendBlock config register resume maxWords data done waits).Matches
      (sendBlock config register resume maxWords left done waits) link := by
  induction left, done, waits using @sendBlock_induction (waitLimit config)
    generalizing link with
  | nil left done waits empty =>
    have none := data.size_rest done
    rw [rest, empty] at none
    rw [Checked.OnLink.sendBlock, if_neg (by omega), sendBlock, if_pos empty]
    exact .pure _ _
  | frame left done waits some progressing again =>
    have size := data.size_rest done
    rw [rest] at size
    have later (count : Nat) : data.rest (done + count) = left.rest count := by
      rw [← rest, BlockData.rest_rest]
    rw [Checked.OnLink.sendBlock, if_pos (by omega), sendBlock, if_neg (Nat.ne_of_gt some)]
    dsimp only
    rw [← size]
    have here : done + min left.size (max maxWords 1) ≤ data.size := by omega
    refine .demand le (.get_bind (.given (gives_blockPart here) ?_))
    rw [rest]
    refine ((matches_command _ link).onError _).bind fun reply link answered ↦ ?_
    have counted := Nat.le_trans (count_of_transferBlock answered)
      (BlockData.toNat_count_front left (min left.size (max maxWords 1)))
    have inside : done + reply.count ≤ data.size := by omega
    refine .demand inside (.ite (fun ok ↦ .ite (fun complete ↦ ?_) fun _ ↦ ?_) fun _ ↦ ?_)
    · have progress : 0 < reply.count := by omega
      refine (progressing _ progress (later _) inside link).bind fun words link _ ↦ ?_
      exact .pure _ _
    · exact .lift_bind fun _ _ _ ↦ .throw _ _
    · refine .lift_bind fun failure? link _ ↦ ?_
      cases failure? with
      | some failure => exact .lift_bind fun _ _ _ ↦ .throw _ _
      | none =>
        refine .ite (fun _ ↦ .lift_bind fun _ _ _ ↦ .throw _ _) fun more ↦ ?_
        have small : 4 * (done + reply.count) < UInt32.size := by omega
        refine (matches_resumeBlock config register resume small link).bind fun _ link _ ↦ ?_
        refine (again _ (Nat.lt_of_not_le more) (later _) inside link).bind fun _ _ _ ↦ ?_
        exact .pure _ _

theorem matches_block (config : TransferConfig) (register : RegisterAddress) {data : BlockData}
    (few : 4 * data.size < UInt32.size) (resume : Option BlockResume) (link : Link σ) :
    (Checked.OnLink.block config register data resume).Matches (block config register data resume)
      link := by
  refine .lift_bind fun _ link _ ↦ ?_
  refine .lift_bind fun _ link _ ↦ ?_
  refine (matches_select config register link).bind fun _ link _ ↦ ?_
  refine .lift_bind fun size link _ ↦ ?_
  exact matches_sendBlock config register resume _ data data 0 0 few data.rest_zero
    (Nat.zero_le _) link

end Link

end DebugProbe
