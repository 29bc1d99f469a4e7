import DebugProbe.Proofs.Select.Coherent
import DebugProbe.Proofs.Session.Spans

/-!
# Accesses keep a session coherent

The operations that access registers or memory, and those that put right what accesses left behind.
-/

namespace DebugProbe

variable {σ : Type} [Transport σ]

open SelectTrace (Quiet Unasked)

namespace Session

/-- What earlier accesses left behind is put right, and nothing was asked for meanwhile. -/
structure Prepared (view : σ → SelectTrace) (ready : σ → Prop) (queued : List RegisterAccess)
    (session next : Session σ) : Prop where
  coherent : next.Coherent view ready queued
  connected : next.link.state.isConnected = true
  calm : next.link.state.lineResetPending = false
  config : next.config = session.config
  batch : next.link.batch = session.link.batch
  logged : (view session.link.transport).Logged [] (view next.link.transport)

/-- No access waits, and nothing was asked for meanwhile. -/
structure Idle (view : σ → SelectTrace) (ready : σ → Prop) (session next : Session σ) : Prop where
  coherent : next.Coherent view ready []
  logged : (view session.link.transport).Logged [] (view next.link.transport)

end Session

section Refused

variable {link : Link σ} {config : TransferConfig}

/-- A single access is refused while others wait. -/
private theorem run_of_waiting (waiting : link.batch.isEmpty = false) (access : RegisterAccess) :
    (Link.run config access).Yields link (fun _ _ ↦ False) (fun _ next ↦ next = link) := by
  unfold Link.run
  rw [Action.yields_bind, Link.yields_checkNoneQueued]
  exact ⟨fun _ ↦ rfl, fun empty ↦ absurd (waiting.symm.trans empty) nofun⟩

/-- A batch of its own is refused while accesses wait. -/
private theorem runAll_of_waiting (waiting : link.batch.isEmpty = false)
    (accesses : List RegisterAccess) :
    (Session.runAll config accesses).Yields link (fun _ _ ↦ False) (fun _ next ↦ next = link) := by
  unfold Session.runAll
  rw [Action.yields_bind, Link.yields_checkNoneQueued]
  exact ⟨fun _ ↦ rfl, fun empty ↦ absurd (waiting.symm.trans empty) nofun⟩

private theorem readSpans_of_waiting (waiting : link.batch.isEmpty = false) (port : MemoryPort)
    (spans : List MemorySpan) :
    (Session.readSpans config port spans).Yields link (fun _ next ↦ next = link)
      (fun _ next ↦ next = link) := by
  cases spans with
  | nil => rfl
  | cons span rest =>
    unfold Session.readSpans
    apply Action.Yields.stops
    cases span with
    | byte address => exact (runAll_of_waiting waiting _).stops
    | words address count => exact (runAll_of_waiting waiting _).stops

private theorem writeSpans_of_waiting (waiting : link.batch.isEmpty = false) (port : MemoryPort)
    (spans : List MemorySpan) (data : Bytes) :
    (Session.writeSpans config port spans data).Yields link (fun _ next ↦ next = link)
      (fun _ next ↦ next = link) := by
  cases spans with
  | nil => rfl
  | cons span rest =>
    unfold Session.writeSpans
    apply Action.Yields.stops
    cases span with
    | byte address => exact (runAll_of_waiting waiting _).stops
    | words address count => exact (runAll_of_waiting waiting _).stops

/-- Nothing happens if no access waits to be sent. -/
private theorem flush_of_empty (empty : link.batch = {}) :
    (Link.flush config).Yields link (fun _ next ↦ next = link) (fun _ next ↦ next = link) := by
  have same : link.discard = link := by
    unfold Link.discard
    rw [← empty]
  unfold Link.flush
  simp only [Action.yields_bind, Action.yields_get, Action.yields_update, same]
  rw [Link.yields_checkReady]
  refine ⟨fun _ ↦ rfl, fun _ _ ↦ rfl, fun _ _ ↦ ?_⟩
  rw [Action.yields_ite]
  refine ⟨fun _ ↦ rfl, fun some ↦ absurd ?_ some⟩
  rw [empty]
  rfl

end Refused

/-- The identification does not depend on SELECT. -/
theorem RegisterAccess.not_banked_identification :
    ¬(read (.debug DebugPort.identificationAddress)).wire.Banked := by
  rintro (side | address)
  · nomatch side
  · have other : ((DebugPort.identificationAddress &&& 0x0C) &&& 0x0C : UInt8) &&& 0x0C ≠
        DebugPort.controlAddress := by
      decide
    exact other address

namespace SteadyProbe

variable {view : σ → SelectTrace} {ready : σ → Prop} (steady : SteadyProbe view ready)
  {queued : List RegisterAccess} {session : Session σ}
include steady

/-- Clearing sticky errors leaves the trace alone. -/
theorem clearSticky {link : Link σ} (isReady : ready link.transport) :
    Link.clearStickyErrors.Yields link
      (fun _ next ↦ Quiet view ready (view link.transport) next.transport ∧
        link.state.isActive = true ∧
        next = { link with
          transport := next.transport, state := { link.state with stickyError := false } })
      (fun _ next ↦ Quiet view ready (view link.transport) next.transport ∧
        next = { link with transport := next.transport }) := by
  unfold Link.clearStickyErrors
  simp only [Action.yields_bind, Action.yields_get]
  rw [Action.yields_ite]
  constructor
  · intro _
    exact ⟨⟨isReady, rfl⟩, rfl⟩
  · intro active
    rw [Action.yields_bind, Link.yields_command]
    refine (steady.writeAbort (view link.transport) _ _ link.transport ⟨isReady, rfl⟩).imp ?_ ?_
    · intro _ next quiet
      rw [Link.yields_modifyState]
      exact ⟨quiet, by simpa using active, rfl⟩
    · intro error next quiet
      exact ⟨quiet, rfl⟩

/-- Recovering the line asks for nothing but the identification. -/
private theorem recoverLine (coherent : session.Coherent view ready [])
    (connected : session.link.state.isConnected = true)
    (pending : session.link.state.lineResetPending = true) :
    Session.recoverLine.Yields session
      (fun _ next ↦ session.Prepared view ready [] next)
      (fun _ next ↦ session.Settled view ready [] (· = []) next) := by
  have unknown := coherent.unknown pending
  have batch := coherent.empty rfl
  unfold Session.recoverLine
  simp only [Action.yields_bind, Action.yields_get, Session.yields_onLink, Link.yields_command,
    Session.yields_modifyState]
  refine (steady.recoverySequences (view session.link.transport) _ _ session.link.transport
    ⟨coherent.isReady, rfl⟩).imp ?_ ?_
  · rintro _ transport ⟨isReady, log⟩
    have free : Link.Free SelectTrace.select view ready { session.link with
        transport
        state := { session.link.state with selectCache := none, lineResetPending := false } } :=
      ⟨isReady, batch, .none _⟩
    have identified {link : Link σ} {accesses : List RegisterAccess}
        {words : List (Option UInt32)}
        (performed : SelectTrace.model.Performed SelectTrace.select accesses (view transport) words
          (view link.transport))
        (part : accesses <+: [.read (.debug DebugPort.identificationAddress)]) :
        (view session.link.transport).Logged [] (view link.transport) := by
      refine (SelectTrace.Logged.refl log).append
        ((SelectTrace.logged_of_performed performed).forget fun access member ↦ ?_)
      rw [List.mem_singleton.mp (part.subset member)]
      exact RegisterAccess.not_banked_identification
    refine (steady.truthful.readRegister SelectTrace.tracks session.config.transfer
      (.debug DebugPort.identificationAddress) free).imp ?_ ?_
    · intro word link did
      refine ⟨.of_free ⟨did.isReady, did.batch, did.agrees⟩ ?_, ?_, ?_, rfl,
        did.batch.trans batch.symm, identified did.performed List.prefix_rfl⟩
      · intro set
        change link.state.lineResetPending = true at set
        rw [did.state] at set
        exact absurd set Bool.false_ne_true
      · show link.state.isConnected = true
        rw [did.state]
        exact connected
      · show link.state.lineResetPending = false
        rw [did.state]
    · intro error link stopped
      obtain ⟨part, words, before, performed⟩ := stopped.performed
      exact (Session.Coherent.of_stopped rfl stopped).settled rfl (identified performed before)
  · rintro error transport ⟨isReady, log⟩
    have lost : Session.Coherent view ready []
        ({ session with link.transport := transport } : Session σ) := by
      refine .of_free ⟨isReady, batch, ?_⟩ fun _ ↦ unknown
      rw [unknown]
      exact .none _
    exact lost.settled rfl (.refl log)

/-- Whatever is put right, no accesses are asked for. -/
theorem prepare (coherent : session.Coherent view ready queued) :
    Session.prepare.Yields session
      (fun _ next ↦ session.Prepared view ready queued next)
      (fun _ next ↦ session.Settled view ready queued (· = []) next) := by
  by_cases waits : queued = []
  · subst waits
    have recovering {next : Session σ} (same : next.config = session.config)
        (batch : next.link.batch = session.link.batch)
        (trace : view next.link.transport = view session.link.transport)
        (coherent : next.Coherent view ready [])
        (connected : next.link.state.isConnected = true) :
        (if next.link.state.lineResetPending then Session.recoverLine else pure () :
          Action (Session σ) AccessError Unit).Yields next
          (fun _ last ↦ session.Prepared view ready [] last)
          (fun _ last ↦ session.Settled view ready [] (· = []) last) := by
      rw [Action.yields_ite]
      constructor
      · intro pending
        refine (steady.recoverLine coherent connected pending).imp ?_ ?_
        · intro _ last prepared
          refine { prepared with
            config := prepared.config.trans same
            batch := prepared.batch.trans batch
            logged := ?_ }
          rw [← trace]
          exact prepared.logged
        · intro error last settled
          refine { settled with logged := ?_ }
          rw [← trace]
          exact settled.logged
      · intro calm
        refine ⟨coherent, connected, Bool.not_eq_true _ ▸ calm, same, batch, .refl ?_⟩
        rw [trace]
    unfold Session.prepare
    simp only [Action.yields_bind, Action.yields_get]
    rw [Action.yields_ite]
    constructor
    · intro _
      exact coherent.settled rfl (.refl rfl)
    · intro connected
      have connected : session.link.state.isConnected = true := by simpa using connected
      rw [Action.yields_ite]
      constructor
      · intro _
        simp only [Action.yields_bind, Action.yields_get, Session.yields_onLink]
        refine (steady.clearSticky coherent.isReady).imp ?_ ?_
        · rintro _ link ⟨quiet, -, same⟩
          refine recovering (rfl : ({ session with link } : Session σ).config = session.config) ?_
            quiet.2 (coherent.of_quiet false quiet (absurd · Bool.false_ne_true) same) ?_
          · rw [same]
          · show link.state.isConnected = true
            rw [same]
            exact connected
        · rintro error link ⟨quiet, same⟩
          exact (coherent.of_quiet _ quiet id same).settled rfl
            (.refl (congrArg SelectTrace.log quiet.2))
      · intro _
        exact recovering rfl rfl rfl coherent connected
  · rw [Session.yields_prepare (coherent.clear waits)]
    have clear := coherent.clear waits
    exact ⟨coherent, clear.connected, clear.pending, rfl, rfl, .refl rfl⟩

omit steady in
/-- Accesses that a link does on its own leave a coherent session; they are refused as long as
others wait. -/
theorem perform {α : Type} {action : Action (Link σ) AccessError α}
    (asked : List RegisterAccess → Prop) (none : asked [])
    (free : ∀ {link : Link σ}, Link.Free SelectTrace.select view ready link →
      action.Yields link
        (fun _ next ↦ ∃ accesses words, asked accesses ∧
          Link.Did SelectTrace.model SelectTrace.select view ready link accesses words next)
        (fun _ next ↦ ∃ accesses, (∀ part, part <+: accesses → asked part) ∧
          Link.Stopped SelectTrace.model SelectTrace.select view ready ready link accesses next))
    (refused : ∀ {link : Link σ}, link.batch.isEmpty = false →
      action.Yields link (fun _ next ↦ next = link) (fun _ next ↦ next = link))
    {next : Session σ} (prepared : session.Prepared view ready queued next) :
    (Session.onLink action).Yields next
      (fun _ last ↦ session.Settled view ready queued asked last)
      (fun _ last ↦ session.Settled view ready queued asked last) := by
  have coherent := prepared.coherent
  rw [Session.yields_onLink]
  by_cases waits : queued = []
  · subst waits
    refine (free coherent.free).imp ?_ ?_
    · rintro _ link ⟨accesses, words, isAsked, did⟩
      exact (Session.Coherent.of_did prepared.calm did).settled isAsked
        (prepared.logged.append (SelectTrace.logged_of_performed did.performed))
    · rintro error link ⟨accesses, isAsked, stopped⟩
      obtain ⟨part, words, before, performed⟩ := stopped.performed
      exact (Session.Coherent.of_stopped prepared.calm stopped).settled (isAsked part before)
        (prepared.logged.append (SelectTrace.logged_of_performed performed))
  · have some : next.link.batch.isEmpty = false := by
      unfold Batch.isEmpty
      rw [coherent.built.requests]
      exact beq_false_of_ne fun empty ↦ waits (List.eq_nil_of_length_eq_zero empty)
    refine (refused some).imp ?_ ?_
    · rintro _ link rfl
      exact ⟨coherent.take, [], none, prepared.logged⟩
    · rintro error link rfl
      exact ⟨coherent.take, [], none, prepared.logged⟩

/-- An operation on a register asks for its access. -/
private theorem single {α : Type} (coherent : session.Coherent view ready queued)
    (operation : Operation) (register : Except AccessError RegisterAddress)
    (access : RegisterAddress → RegisterAccess)
    (action : TransferConfig → RegisterAddress → Action (Link σ) AccessError α)
    (performs : ∀ config address, register = .ok address → ∀ {link : Link σ},
      Link.Free SelectTrace.select view ready link → (action config address).Yields link
        (fun _ next ↦ ∃ words, Link.Did SelectTrace.model SelectTrace.select view ready link
          [access address] words next)
        (fun _ next ↦ Link.Stopped SelectTrace.model SelectTrace.select view ready ready link
          [access address] next))
    (refused : ∀ config address {link : Link σ}, link.batch.isEmpty = false →
      (action config address).Yields link (fun _ next ↦ next = link) (fun _ next ↦ next = link)) :
    (Session.operate operation do
      Session.prepare
      Session.onLink (action (← get).config.transfer (← Action.ofExcept register))).Yields session
      (fun _ next ↦ session.Settled view ready queued
        (· <+: (register.toOption.map access).toList) next)
      (fun _ next ↦ session.Settled view ready queued
        (· <+: (register.toOption.map access).toList) next) := by
  refine steady.operate ?_
  rw [Action.yields_bind]
  refine (steady.prepare coherent).imp ?_ ?_
  · intro _ next prepared
    simp only [Action.yields_bind, Action.yields_get]
    rw [Action.yields_ofExcept]
    cases register with
    | error error => exact ⟨prepared.coherent.take, [], List.nil_prefix, prepared.logged⟩
    | ok register =>
      refine perform (· <+: [access register]) List.nil_prefix (fun free ↦ ?_) (refused _ _)
        prepared
      refine (performs next.config.transfer register rfl free).imp ?_ ?_
      · rintro value last ⟨words, did⟩
        exact ⟨_, words, List.prefix_rfl, did⟩
      · intro error last stopped
        exact ⟨_, fun part before ↦ before, stopped⟩
  · rintro error next ⟨kept, accesses, rfl, logged⟩
    exact ⟨kept, [], List.nil_prefix, logged⟩

/-- A read asks for its register. -/
theorem read (coherent : session.Coherent view ready queued) (operation : Operation)
    (register : Except AccessError RegisterAddress) :
    (Session.read operation register).Yields session
      (fun _ next ↦ session.Settled view ready queued
        (· <+: (register.toOption.map RegisterAccess.read).toList) next)
      (fun _ next ↦ session.Settled view ready queued
        (· <+: (register.toOption.map RegisterAccess.read).toList) next) := by
  refine steady.single coherent operation register .read Session.readRegister ?_ ?_
  · intro config address _ link free
    exact (steady.truthful.readRegister SelectTrace.tracks config address free).imp
      (fun word _ did ↦ ⟨[some word], did⟩) (fun _ _ stopped ↦ stopped)
  · intro config address link waiting
    unfold Session.readRegister
    rw [Action.yields_bind]
    exact (run_of_waiting waiting _).imp (fun _ _ none ↦ none.elim) (fun _ _ same ↦ same)

/-- A write asks for its register. -/
theorem write (coherent : session.Coherent view ready queued) (operation : Operation)
    {register : Except AccessError RegisterAddress} {value : UInt32}
    (plain : ∀ address, register = .ok address → (RegisterAccess.write address value).Plain) :
    (Session.write operation register value).Yields session
      (fun _ next ↦ session.Settled view ready queued
        (· <+: (register.toOption.map (RegisterAccess.write · value)).toList) next)
      (fun _ next ↦ session.Settled view ready queued
        (· <+: (register.toOption.map (RegisterAccess.write · value)).toList) next) := by
  refine steady.single coherent operation register (.write · value)
    (fun config address ↦ Session.writeRegister config address value) ?_ ?_
  · intro config address same link free
    exact steady.truthful.writeRegister SelectTrace.tracks config (plain address same) free
  · intro config address link waiting
    unfold Session.writeRegister
    rw [Action.yields_bind]
    exact (run_of_waiting waiting _).imp (fun _ _ none ↦ none.elim) (fun _ _ same ↦ same)

/-- An operation on memory asks for the accesses of its spans. -/
private theorem memory {α : Type} (coherent : session.Coherent view ready queued)
    (operation : Operation) (action : TransferConfig → MemoryPort → Action (Link σ) AccessError α)
    (spans : MemoryPort → List (MemorySpan × List RegisterAccess))
    (performs : ∀ config port {link : Link σ}, Link.Free SelectTrace.select view ready link →
      (action config port).Yields link
        (fun _ next ↦ ∃ trace words, MemorySpan.TakesAll port (spans port) trace ∧
          Link.Did SelectTrace.model SelectTrace.select view ready link trace words next)
        (fun _ next ↦ ∃ trace, MemorySpan.TakesAll port (spans port) trace ∧
          Link.Stopped SelectTrace.model SelectTrace.select view ready ready link trace next))
    (refused : ∀ config port {link : Link σ}, link.batch.isEmpty = false →
      (action config port).Yields link (fun _ next ↦ next = link) (fun _ next ↦ next = link)) :
    (Session.operate operation do
      Session.prepare
      let session ← get
      Session.onLink (action session.config.transfer session.memoryPort)).Yields session
      (fun _ next ↦ session.Settled view ready queued
        (MemorySpan.TakesPart session.memoryPort (spans session.memoryPort)) next)
      (fun _ next ↦ session.Settled view ready queued
        (MemorySpan.TakesPart session.memoryPort (spans session.memoryPort)) next) := by
  refine steady.operate ?_
  rw [Action.yields_bind]
  refine (steady.prepare coherent).imp ?_ ?_
  · intro _ next prepared
    have port : next.memoryPort = session.memoryPort := by
      unfold Session.memoryPort
      rw [prepared.config]
    rw [Action.yields_bind, Action.yields_get, port]
    refine perform _ (.none _ _) (fun free ↦ ?_) (refused _ _) prepared
    refine (performs next.config.transfer session.memoryPort free).imp ?_ ?_
    · rintro value last ⟨trace, words, takes, did⟩
      exact ⟨trace, words, ⟨trace, takes, List.prefix_rfl⟩, did⟩
    · rintro error last ⟨trace, takes, stopped⟩
      exact ⟨trace, fun part before ↦ ⟨trace, takes, before⟩, stopped⟩
  · rintro error next ⟨kept, accesses, rfl, logged⟩
    exact ⟨kept, [], .none _ _, logged⟩

/-- A read of memory asks for the accesses that read its spans. -/
theorem readMemory (coherent : session.Coherent view ready queued) (address : UInt32)
    (size : Nat) :
    (Session.readMemory address size).Yields session
      (fun _ next ↦ session.Settled view ready queued (MemorySpan.TakesPart session.memoryPort
        (MemorySpan.reading session.memoryPort (MemorySpan.plan address size))) next)
      (fun _ next ↦ session.Settled view ready queued (MemorySpan.TakesPart session.memoryPort
        (MemorySpan.reading session.memoryPort (MemorySpan.plan address size))) next) := by
  refine steady.memory coherent _
    (fun config port ↦ Session.readSpans config port (MemorySpan.plan address size))
    (fun port ↦ MemorySpan.reading port (MemorySpan.plan address size)) ?_ ?_
  · intro config port link free
    refine (steady.truthful.readSpans SelectTrace.tracks config port _ free).imp ?_
      (fun _ _ stopped ↦ stopped)
    rintro bytes next ⟨trace, found, takes, did, -⟩
    exact ⟨trace, found, takes, did⟩
  · intro config port link waiting
    exact readSpans_of_waiting waiting port _

/-- A write of memory asks for the accesses that write to its spans. -/
theorem writeMemory (coherent : session.Coherent view ready queued) (address : UInt32)
    (data : Bytes) :
    (Session.writeMemory address data).Yields session
      (fun _ next ↦ session.Settled view ready queued (MemorySpan.TakesPart session.memoryPort
        (MemorySpan.writing session.memoryPort (MemorySpan.plan address data.length) data)) next)
      (fun _ next ↦ session.Settled view ready queued (MemorySpan.TakesPart session.memoryPort
        (MemorySpan.writing session.memoryPort (MemorySpan.plan address data.length) data))
        next) := by
  refine steady.memory coherent _
    (fun config port ↦ Session.writeSpans config port (MemorySpan.plan address data.length) data)
    (fun port ↦ MemorySpan.writing port (MemorySpan.plan address data.length) data) ?_ ?_
  · intro config port link free
    exact steady.truthful.writeSpans SelectTrace.tracks config port _ data free
  · intro config port link waiting
    exact writeSpans_of_waiting waiting port _ data

/-- A flush asks for the accesses that waited. -/
theorem flush (coherent : session.Coherent view ready queued) :
    Session.flush.Yields session
      (fun _ next ↦ session.Settled view ready queued (· <+: queued) next)
      (fun _ next ↦ session.Settled view ready queued (· <+: queued) next) := by
  refine steady.operate ?_
  simp only [Action.yields_bind, Action.yields_get]
  rw [Session.yields_onLink]
  by_cases waits : queued = []
  · have nothing {link : Link σ} (same : link = session.link) :
        session.Settled view ready queued (· <+: queued)
          ({ session with link } : Session σ) := by
      rw [same]
      exact ⟨coherent.take, [], List.nil_prefix, .refl rfl⟩
    exact (flush_of_empty (coherent.empty waits)).imp (fun _ _ same ↦ nothing same)
      (fun _ _ same ↦ nothing same)
  · have calm := (coherent.clear waits).pending
    have stops {link : Link σ} (stopped : Link.Stopped SelectTrace.model SelectTrace.select view
        ready ready session.link queued link) :
        session.Settled view ready queued (· <+: queued)
          ({ session with link } : Session σ) := by
      obtain ⟨part, words, before, performed⟩ := stopped.performed
      exact (Session.Coherent.of_stopped calm stopped).settled before
        (SelectTrace.logged_of_performed performed)
    refine (steady.truthful.flush_performs SelectTrace.tracks session.config.transfer session.link
      coherent.isReady coherent.built coherent.plain coherent.agrees).imp ?_
      (fun _ _ stopped ↦ stops stopped)
    rintro responses link ⟨-, ⟨-, -, did⟩ | ⟨-, -, stopped⟩⟩
    · exact (Session.Coherent.of_did calm did).settled List.prefix_rfl
        (SelectTrace.logged_of_performed did.performed)
    · exact stops stopped

omit [Transport σ] steady in
/-- An access that is queued waits behind the others. -/
private theorem queue_prepared {access : RegisterAccess} (plain : access.Plain) (packetSize : Nat)
    {next : Session σ} (prepared : session.Prepared view ready queued next) :
    (Link.queue packetSize access).Yields next.link
      (fun _ link ↦ session.Settled view ready (queued ++ [access]) (· = [])
        ({ next with link } : Session σ))
      (fun _ link ↦ session.Settled view ready (queued ++ [access]) (· = [])
        ({ next with link } : Session σ)) := by
  have coherent := prepared.coherent
  have still : session.Settled view ready queued (· = []) next :=
    ⟨coherent.take, [], rfl, prepared.logged⟩
  have unchanged := still.more [access]
  rw [Link.yields_queue, Link.yields_checkReady]
  refine ⟨fun _ ↦ unchanged, fun _ _ ↦ unchanged, fun _ clear ↦ ?_⟩
  split
  · next batch pushed =>
    have built := coherent.built.push (fun _ ↦ rfl) pushed
    refine ⟨?_, [], rfl, prepared.logged⟩
    show Session.Coherent view ready ((queued ++ [access]).take batch.requests) _
    rw [built.requests, List.take_length]
    constructor
    · exact coherent.isReady
    · exact coherent.agrees
    · exact coherent.unknown
    · exact built
    · intro other member
      rcases List.mem_append.mp member with before | last
      · exact coherent.plain other before
      · rw [List.mem_singleton.mp last]
        exact plain
    · exact fun none ↦ absurd none (List.append_ne_nil_of_right_ne_nil _ nofun)
    · exact fun _ ↦ ⟨prepared.connected, clear, prepared.calm⟩
  · exact unchanged

/-- Queueing an access asks for nothing yet. -/
theorem queue (coherent : session.Coherent view ready queued) {access : RegisterAccess}
    (plain : access.Plain) :
    (Session.queue access).Yields session
      (fun _ next ↦ session.Settled view ready (queued ++ [access]) (· = []) next)
      (fun _ next ↦ session.Settled view ready (queued ++ [access]) (· = []) next) := by
  refine steady.operate ?_
  simp only [Action.yields_bind, Action.yields_get]
  rw [Action.yields_ite]
  unfold Probe.packetSize
  simp only [Action.yields_bind, Session.yields_onProbe, Session.yields_onLink, Action.yields_get,
    Action.yields_pure]
  constructor
  · intro _
    exact (steady.prepare coherent).imp (fun _ next prepared ↦ queue_prepared plain _ prepared)
      (fun _ _ settled ↦ settled.more [access])
  · intro some
    have waits : queued ≠ [] := by
      intro none
      rw [coherent.empty none] at some
      exact some rfl
    have clear := coherent.clear waits
    exact queue_prepared plain _
      ⟨coherent, clear.connected, clear.pending, rfl, rfl, .refl rfl⟩

/-- Clearing sticky errors asks for nothing. -/
theorem clearStickyErrors (coherent : session.Coherent view ready queued) :
    Session.clearStickyErrors.Yields session
      (fun _ next ↦ session.Settled view ready queued (· = []) next)
      (fun _ next ↦ session.Settled view ready queued (· = []) next) := by
  have settles {link : Link σ} (sticky : Bool)
      (quiet : Quiet view ready (view session.link.transport) link.transport)
      (fewer : sticky = true → session.link.state.stickyError = true)
      (same : link = { session.link with
        transport := link.transport
        state := { session.link.state with stickyError := sticky } }) :
      session.Settled view ready queued (· = []) ({ session with link } : Session σ) := by
    have kept := (coherent.of_quiet sticky quiet fewer same).take
    exact ⟨kept, [], rfl, .refl (congrArg SelectTrace.log quiet.2)⟩
  refine steady.operate ?_
  rw [Session.yields_onLink]
  refine (steady.clearSticky coherent.isReady).imp ?_ ?_
  · rintro _ link ⟨quiet, -, same⟩
    exact settles false quiet nofun same
  · rintro error link ⟨quiet, same⟩
    exact settles session.link.state.stickyError quiet id same

/-- A transfer is given up with the batch and with all that was believed of SELECT. -/
theorem abortTransfer (coherent : session.Coherent view ready queued) :
    Session.abortTransfer.Yields session
      (fun _ next ↦ session.Settled view ready queued (· = []) next)
      (fun _ next ↦ session.Settled view ready queued (· = []) next) := by
  have aborted {transport : σ}
      (quiet : Quiet view ready (view session.link.transport) transport) :
      session.Settled view ready queued (· = [])
        ({ session with link := ({ session.link.discard with transport } : Link σ).forgetSelect } :
          Session σ) := by
    have lost : Session.Coherent view ready [] ({ session with
        link := ({ session.link.discard with transport } : Link σ).forgetSelect } : Session σ) :=
      .of_free ⟨quiet.1, rfl, .none _⟩ fun _ ↦ rfl
    exact lost.settled rfl (.refl (congrArg SelectTrace.log quiet.2))
  refine steady.operate ?_
  unfold Link.abortTransfer
  simp only [Action.yields_bind, Action.yields_attempt, Session.yields_onLink,
    Action.yields_update, Link.yields_command]
  refine (steady.sendAbort (view session.link.transport) session.link.transport
    ⟨coherent.isReady, rfl⟩).imp ?_ ?_
  · intro _ transport quiet
    exact aborted quiet
  · intro error transport quiet
    exact aborted quiet

/-- A session that was disconnected believes nothing and has no access waiting. -/
theorem disconnect (coherent : session.Coherent view ready queued) :
    Session.disconnect.Yields session
      (fun _ next ↦ session.Idle view ready next)
      (fun _ next ↦ session.Idle view ready next) := by
  have ends {transport : σ} (quiet : Quiet view ready (view session.link.transport) transport)
      (told released : Except CommandError Unit) :
      (do
        Action.update Session.reset
        (Action.ofExcept (told.bind fun _ ↦ released)).mapError SessionError.command :
        Action (Session σ) SessionError Unit).Yields { session with link.transport := transport }
        (fun _ next ↦ session.Idle view ready next)
        (fun _ next ↦ session.Idle view ready next) := by
    have idle :
        session.Idle view ready (Session.reset { session with link.transport := transport }) :=
      ⟨.of_free ⟨quiet.1, rfl, .none _⟩ nofun, .refl (congrArg SelectTrace.log quiet.2)⟩
    rw [Action.yields_bind, Action.yields_update, Action.yields_mapError, Action.yields_ofExcept]
    split
    · exact idle
    · exact idle
  have second {transport : σ} (quiet : Quiet view ready (view session.link.transport) transport)
      (told : Except CommandError Unit) :
      (do
        let released ← (Session.onProbe Probe.disconnect).attempt
        Action.update Session.reset
        (Action.ofExcept (told.bind fun _ ↦ released)).mapError SessionError.command :
        Action (Session σ) SessionError Unit).Yields { session with link.transport := transport }
        (fun _ next ↦ session.Idle view ready next)
        (fun _ next ↦ session.Idle view ready next) := by
    rw [Action.yields_bind, Action.yields_attempt, Session.yields_onProbe]
    exact (steady.disconnectPort _ transport quiet).imp (fun _ _ quiet ↦ ends quiet told _)
      (fun _ _ quiet ↦ ends quiet told _)
  unfold Session.disconnect
  rw [Action.yields_bind, Action.yields_get, Action.yields_ite]
  constructor
  · intro already
    have none : queued = [] := coherent.none_waits fun connected ↦ by
      rw [LinkState.isConnected_of_disconnected already] at connected
      nomatch connected
    rw [none] at coherent
    exact ⟨coherent, .refl rfl⟩
  · intro _
    rw [Action.yields_bind, Action.yields_attempt, Session.yields_onProbe]
    exact (steady.hostStatus _ false session.link.transport ⟨coherent.isReady, rfl⟩).imp
      (fun _ _ quiet ↦ second quiet _) (fun _ _ quiet ↦ second quiet _)

end SteadyProbe

end DebugProbe
