import DebugProbe.Proofs.Link.Block
import DebugProbe.Proofs.Link.Sending
import DebugProbe.Proofs.Probe.Regime
import DebugProbe.Session.Memory

/-!
# Accesses keep to a regime

An access is put into the batch only if the batch with it fits into a packet, and a flush sends
parts of the batch and nothing else. So a link on which a regime holds sends what the regime admits,
and nothing that accesses do changes what is known of the connection.
-/

namespace DebugProbe

/-- What is known of a connection, without what accesses learn of the target. -/
def LinkState.bearings (state : LinkState) : LinkState :=
  { state with selectCache := none, stickyError := false, lineResetPending := false }

/-- A failure that comes from a command is an expected one. -/
def AccessError.Bears (expected : CommandError → Prop) : AccessError → Prop
  | command error => expected error
  | _ => True

variable {σ : Type} [Transport σ]

/-- A regime holds on a link, and its batch consists of what may be sent; `known` tells of the
connection. -/
structure Link.Within (regime : Regime σ) (known : LinkState → Prop) (link : Link σ) : Prop where
  transport : regime.holds link.transport
  known : known link.state.bearings
  batch : ∀ dapIndex request, Link.Sends dapIndex link.batch.entries request →
    regime.admits request

namespace Regime

open DebugProbe.Action
  (guards_pure guards_throw guards_ofExcept guards_update guards_get_bind guards_ite)
open Link (Within Sends nextFrame nextFrame_sublist length_nextFrame_pos)

variable (regime : Regime σ) (known : LinkState → Prop)

/-- The action on a link keeps to the regime. -/
def GovernsLink {α : Type} (action : Action (Link σ) AccessError α) : Prop :=
  action.Guards (Within regime known) (AccessError.Bears regime.expects)

section Steps

variable {regime known} {α : Type}

/-- A batch without entries has nothing to be sent. -/
theorem within_discard {link : Link σ} (within : Within regime known link) :
    Within regime known link.discard where
  transport := within.transport
  known := within.known
  batch := by
    rintro dapIndex request ⟨part, some, among, -⟩
    exact absurd (List.sublist_nil.mp among) some

theorem within_forgetSelect {link : Link σ} (within : Within regime known link) :
    Within regime known link.forgetSelect :=
  ⟨within.transport, within.known, within.batch⟩

/-- A command on behalf of an access keeps to the regime if it does so on its own. -/
theorem governs_command {action : Action σ CommandError α} (governs : regime.Governs action) :
    regime.GovernsLink known (Link.command action) := by
  intro link within
  rw [Link.yields_command]
  refine (governs link.transport within.transport).imp ?_ ?_
  · intro _ transport holds
    exact ⟨holds, within.known, within.batch⟩
  · rintro error transport ⟨isExpected, holds⟩
    exact ⟨isExpected, holds, within.known, within.batch⟩

/-- What accesses learn of the target does not matter to a regime. -/
theorem governs_modifyState {change : LinkState → LinkState}
    (same : ∀ state : LinkState, (change state).bearings = state.bearings) :
    regime.GovernsLink known (Link.modifyState change) := by
  intro link within
  refine ⟨within.transport, ?_, within.batch⟩
  show known (change link.state).bearings
  rw [same]
  exact within.known

theorem governs_noteFailure (status : TransferStatus) :
    regime.GovernsLink known (Link.noteFailure status) := by
  intro link within
  rw [Link.yields_noteFailure]
  refine ⟨within.transport, ?_, within.batch⟩
  rcases Link.classify_cases status link.state with ⟨-, wait⟩ | ⟨_, _, _, failed, -⟩
  · rw [wait]
    exact within.known
  · rw [failed]
    exact within.known

theorem governs_forgetSelect :
    regime.GovernsLink known (Action.update Link.forgetSelect) :=
  guards_update fun _ ↦ within_forgetSelect

theorem governs_checkReady : regime.GovernsLink known Link.checkReady :=
  fun _ within ↦ Link.yields_checkReady.mpr
    ⟨fun _ ↦ ⟨trivial, within⟩, fun _ _ ↦ ⟨trivial, within⟩, fun _ _ ↦ within⟩

theorem governs_checkNoneQueued : regime.GovernsLink known Link.checkNoneQueued :=
  fun _ within ↦ Link.yields_checkNoneQueued.mpr ⟨fun _ ↦ ⟨trivial, within⟩, fun _ ↦ within⟩

theorem governs_unexpectedAnswer (command : Command) :
    regime.GovernsLink known
      (throw (.unexpectedAnswer command) : Action (Link σ) AccessError α) := by
  refine guards_throw (regime.usual _ ?_)
  cases command <;> rfl

end Steps

section Queueing

variable {regime known} {α : Type}

/-- The regime holds on a link with packets of a given size. -/
def Sized (regime : Regime σ) (known : LinkState → Prop) (size : Nat) (link : Link σ) : Prop :=
  Within regime known link ∧ Transport.packetSize link.transport = size

/-- An access is queued only if the batch with it may be sent. -/
theorem queue_sized (size : Nat) (access : RegisterAccess) :
    (Link.queue size access).Guards (Sized regime known size)
      (AccessError.Bears regime.expects) := by
  rintro link ⟨within, sized⟩
  rw [Link.yields_queue, Link.yields_checkReady]
  refine ⟨fun _ ↦ ⟨trivial, within, sized⟩, fun _ _ ↦ ⟨trivial, within, sized⟩, fun _ _ ↦ ?_⟩
  cases pushed : link.batch.push? link.state.selectCache size access with
  | none => exact ⟨trivial, within, sized⟩
  | some batch =>
    obtain ⟨fits, -⟩ := Batch.push?_eq_some_iff.mp pushed
    rw [← sized] at fits
    refine ⟨⟨within.transport, within.known, ?_⟩, sized⟩
    rintro dapIndex request ⟨part, -, among, rfl⟩
    exact regime.fitting within.transport (Batch.fits_sublist among fits) dapIndex

/-- What is queued for the packet size in use keeps to the regime. -/
theorem governs_sized {next : Nat → Action (Link σ) AccessError α}
    (later : ∀ size link, Sized regime known size link → (next size).Yields link
      (fun _ ↦ Within regime known)
      fun error last ↦ error.Bears regime.expects ∧ Within regime known last) :
    regime.GovernsLink known (Link.onProbe Probe.packetSize >>= next) :=
  fun link within ↦ Action.yields_bind.mpr (later _ link ⟨within, rfl⟩)

/-- After an access was queued everything may follow that keeps to the regime. -/
theorem sized_bind {β : Type} {size : Nat} {action : Action (Link σ) AccessError α}
    {next : α → Action (Link σ) AccessError β}
    (guards : action.Guards (Sized regime known size) (AccessError.Bears regime.expects))
    (later : ∀ value, regime.GovernsLink known (next value)) {link : Link σ}
    (sized : Sized regime known size link) :
    (action >>= next).Yields link (fun _ ↦ Within regime known)
      fun error last ↦ error.Bears regime.expects ∧ Within regime known last := by
  rw [Action.yields_bind]
  refine (guards link sized).imp ?_ ?_
  · rintro value middle ⟨within, -⟩
    exact later value middle within
  · rintro error middle ⟨bears, within, -⟩
    exact ⟨bears, within⟩

end Queueing

section Sending

/-- Entries that may be sent keep to the regime, frame by frame. -/
private theorem sendEntries (limit : Nat) (entries : List BatchEntry) (waits : Nat)
    (admitted : ∀ dapIndex request, Sends dapIndex entries request → regime.admits request) :
    regime.GovernsLink known (Link.sendEntries limit entries waits) := by
  induction entries, waits using @Link.sendEntries_induction limit with
  | nil waits =>
    rw [Link.sendEntries]
    exact guards_pure []
  | cons entry rest waits progressing again =>
    have later (count : Nat) : ∀ dapIndex request,
        Sends dapIndex ((entry :: rest).drop count) request → regime.admits request :=
      fun dapIndex request sends ↦
        admitted dapIndex request (sends.sublist (List.drop_sublist count _))
    have nonempty := length_nextFrame_pos entry rest waits
    have sends (dapIndex : UInt8) : regime.GovernsLink known
        (Link.command (Probe.transfer (.ofEntries dapIndex (nextFrame entry rest waits)))) :=
      governs_command (regime.send _ (admitted dapIndex _
        ⟨_, List.ne_nil_of_length_pos nonempty, nextFrame_sublist entry rest waits, rfl⟩))
    rw [Link.sendEntries]
    refine guards_get_bind fun link _ ↦ (sends link.state.dapIndex).bind fun reply ↦ ?_
    refine Action.Guards.bind (governs_modifyState fun _ ↦ rfl) fun _ ↦ ?_
    refine guards_ite (fun _ ↦ guards_ite (fun all ↦ ?_) fun _ ↦ governs_unexpectedAnswer _)
      fun _ ↦ guards_ite (fun _ ↦ governs_unexpectedAnswer _) fun _ ↦ ?_
    · have progress : 0 < reply.count := all ▸ nonempty
      refine (progressing _ ?_ (later reply.count)).bind fun _ ↦ guards_pure _
      rw [List.length_drop, List.length_cons]
      omega
    · refine (governs_noteFailure reply.status).bind fun failure? ↦ ?_
      cases failure? with
      | some failure => exact governs_forgetSelect.bind fun _ ↦ guards_pure _
      | none =>
        refine guards_ite (fun _ ↦ governs_forgetSelect.bind fun _ ↦ guards_pure _)
          fun more ↦ ?_
        refine (again _ ?_ (Nat.lt_of_not_le more) (later reply.count)).bind fun _ ↦ guards_pure _
        rw [List.length_drop]
        omega

theorem flush (config : TransferConfig) : regime.GovernsLink known (Link.flush config) := by
  refine guards_get_bind fun link within ↦ ?_
  refine Action.Guards.bind (guards_update fun _ ↦ within_discard) fun _ ↦ ?_
  refine governs_checkReady.bind fun _ ↦ guards_ite (fun _ ↦ guards_pure []) fun _ ↦ ?_
  exact (regime.sendEntries known _ _ 0 within.batch).onError fun _ _ ↦ within_forgetSelect

omit [Transport σ] in
/-- The failure of an access is not that of a command. -/
private theorem bears_result {expected : CommandError → Prop} (response : AccessResponse)
    (error : AccessError) (failed : response.result = .error error) : error.Bears expected := by
  unfold AccessResponse.result at failed
  split at failed
  · nomatch failed
  · rw [← Except.error.inj failed]
    cases response.status <;> trivial

theorem run (config : TransferConfig) (access : RegisterAccess) :
    regime.GovernsLink known (Link.run config access) := by
  refine governs_checkNoneQueued.bind fun _ ↦ governs_sized fun size link ↦
    sized_bind (queue_sized size access) fun _ ↦ (regime.flush known config).bind fun responses ↦ ?_
  cases responses with
  | nil => exact governs_unexpectedAnswer _
  | cons response rest => exact guards_ofExcept (bears_result response)

theorem clearStickyErrors : regime.GovernsLink known Link.clearStickyErrors := by
  have clearing (state : LinkState) : regime.GovernsLink known (do
      Link.command (Probe.writeAbort state.dapIndex Abort.clearSticky.word)
      Link.modifyState fun state ↦ { state with stickyError := false }) :=
    (governs_command (regime.writeAbort _ _)).bind fun _ ↦ governs_modifyState fun _ ↦ rfl
  exact guards_get_bind fun link _ ↦ guards_ite
    (fun _ ↦ (guards_throw trivial).bind fun _ ↦ clearing _) fun _ ↦ clearing _

theorem abortTransferLink : regime.GovernsLink known Link.abortTransfer :=
  Action.Guards.bind (guards_update fun _ ↦ within_discard) fun _ ↦
    governs_command regime.abortTransfer

end Sending

section Blocks

private theorem select (config : TransferConfig) (register : RegisterAddress) :
    regime.GovernsLink known (Link.select config register) := by
  refine guards_get_bind fun link _ ↦ ?_
  split
  · exact (regime.run known config _).bind fun _ ↦ guards_pure ()
  · exact guards_pure ()

private theorem resumeBlock (config : TransferConfig) (register : RegisterAddress)
    (resume : Option BlockResume) (completed : Nat) :
    regime.GovernsLink known (Link.resumeBlock config register resume completed) := by
  cases resume with
  | none => exact guards_pure ()
  | some resume =>
    exact (regime.run known config _).bind fun _ ↦ regime.select known config register

private theorem sendBlock (config : TransferConfig) (register : RegisterAddress)
    (resume : Option BlockResume) (maxWords : Nat) (data : BlockData) (completed waits : Nat) :
    regime.GovernsLink known
      (Link.sendBlock config register resume maxWords data completed waits) := by
  induction data, completed, waits using @Link.sendBlock_induction (Link.waitLimit config) with
  | nil data completed waits empty =>
    rw [Link.sendBlock, if_pos empty]
    exact guards_pure []
  | frame data completed waits left progressing again =>
    rw [Link.sendBlock, if_neg (Nat.ne_of_gt left)]
    refine guards_get_bind fun link _ ↦ Action.Guards.bind
      ((governs_command (regime.transferBlock _)).onError fun _ _ ↦ within_forgetSelect)
      fun reply ↦ guards_ite (fun _ ↦ guards_ite (fun all ↦ ?_) fun _ ↦ ?_) fun _ ↦ ?_
    · have progress : 0 < reply.count := by omega
      exact (progressing _ progress).bind fun _ ↦ guards_pure _
    · exact governs_forgetSelect.bind fun _ ↦ governs_unexpectedAnswer _
    · refine (governs_noteFailure reply.status).bind fun failure? ↦ ?_
      cases failure? with
      | some failure =>
        refine governs_forgetSelect.bind fun _ ↦ guards_throw ?_
        cases failure <;> trivial
      | none =>
        refine guards_ite (fun _ ↦ governs_forgetSelect.bind fun _ ↦ guards_throw trivial)
          fun more ↦ (regime.resumeBlock known config register resume _).bind fun _ ↦ ?_
        exact (again _ (Nat.lt_of_not_le more)).bind fun _ ↦ guards_pure _

private theorem block (config : TransferConfig) (register : RegisterAddress) (data : BlockData)
    (resume : Option BlockResume) :
    regime.GovernsLink known (Link.block config register data resume) :=
  governs_checkReady.bind fun _ ↦ governs_checkNoneQueued.bind fun _ ↦
    (regime.select known config register).bind fun _ ↦ governs_sized fun _ link ⟨within, _⟩ ↦
      regime.sendBlock known config register resume _ data 0 0 link within

end Blocks

section Registers

/-- A value that is missing is no transfer that does not fit. -/
private theorem bears_requireValue (value : Option UInt32) (error : AccessError)
    (failed : Session.requireValue value = .error error) : error.Bears regime.expects := by
  cases value with
  | some word => nomatch failed
  | none =>
    rw [← Except.error.inj failed]
    exact regime.usual _ rfl

theorem readRegister (config : TransferConfig) (register : RegisterAddress) :
    regime.GovernsLink known (Session.readRegister config register) :=
  (regime.run known config _).bind fun value ↦ guards_ofExcept (regime.bears_requireValue value)

theorem writeRegister (config : TransferConfig) (register : RegisterAddress) (value : UInt32) :
    regime.GovernsLink known (Session.writeRegister config register value) :=
  (regime.run known config _).bind fun _ ↦ guards_pure ()

end Registers

section Memory

omit [Transport σ] in
/-- The first failure among responses is not that of a command. -/
private theorem bears_results {expected : CommandError → Prop} (responses : List AccessResponse)
    (error : AccessError) (failed : Session.results responses = .error error) :
    error.Bears expected := by
  induction responses with
  | nil => nomatch failed
  | cons response rest ih =>
    unfold Session.results at failed
    cases first : response.result with
    | error cause =>
      rw [first] at failed
      obtain rfl := Except.error.inj failed
      exact bears_result response _ first
    | ok value =>
      rw [first] at failed
      cases others : Session.results rest with
      | error cause =>
        rw [others] at failed
        obtain rfl := Except.error.inj failed
        exact ih others
      | ok values =>
        rw [others] at failed
        nomatch failed

private theorem queueAll_sized (size : Nat) (accesses : List RegisterAccess) :
    (Session.queueAll size accesses).Guards (Sized regime known size)
      (AccessError.Bears regime.expects) := by
  induction accesses with
  | nil => exact guards_pure ()
  | cons access rest ih =>
    refine Action.Guards.bind ((queue_sized size access).onError ?_) fun _ ↦ ih
    rintro _ link ⟨within, sized⟩
    exact ⟨within_discard within, sized⟩

private theorem runAll (config : TransferConfig) (accesses : List RegisterAccess) :
    regime.GovernsLink known (Session.runAll config accesses) := by
  refine governs_checkNoneQueued.bind fun _ ↦ governs_sized fun size link ↦
    sized_bind (regime.queueAll_sized known size accesses) fun _ ↦ ?_
  exact (regime.flush known config).bind fun responses ↦ guards_ofExcept (bears_results responses)

private theorem readSpan (config : TransferConfig) (port : MemoryPort) (span : MemorySpan) :
    regime.GovernsLink known (Session.readSpan config port span) := by
  cases span with
  | byte address =>
    exact (regime.runAll known config _).bind fun values ↦
      (guards_ofExcept (regime.bears_requireValue _)).bind fun _ ↦ guards_pure _
  | words address count =>
    exact (regime.runAll known config _).bind fun _ ↦
      (regime.block known config port.drw (.read count) _).bind fun _ ↦ guards_pure _

private theorem writeSpan (config : TransferConfig) (port : MemoryPort) (data : Bytes)
    (span : MemorySpan) : regime.GovernsLink known (Session.writeSpan config port data span) := by
  cases span with
  | byte address => exact (regime.runAll known config _).bind fun _ ↦ guards_pure ()
  | words address count =>
    exact (regime.runAll known config _).bind fun _ ↦
      (regime.block known config port.drw (.write _) _).bind fun _ ↦ guards_pure ()

theorem readSpans (config : TransferConfig) (port : MemoryPort) (spans : List MemorySpan) :
    regime.GovernsLink known (Session.readSpans config port spans) := by
  induction spans with
  | nil => exact guards_pure []
  | cons span rest ih =>
    exact (regime.readSpan known config port span).bind fun _ ↦ ih.bind fun _ ↦ guards_pure _

theorem writeSpans (config : TransferConfig) (port : MemoryPort) (spans : List MemorySpan)
    (data : Bytes) : regime.GovernsLink known (Session.writeSpans config port spans data) := by
  induction spans generalizing data with
  | nil => exact guards_pure ()
  | cons span rest ih => exact (regime.writeSpan known config port _ span).bind fun _ ↦ ih _

end Memory

end Regime

end DebugProbe
