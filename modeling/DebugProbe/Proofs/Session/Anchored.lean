import DebugProbe.Proofs.Probe.Unasked
import DebugProbe.Proofs.Session.Arrival
import DebugProbe.Proofs.Session.Invariant
import Mathlib.Data.List.Induction

/-!
# What it means to be connected

The facts about a connection come from different places: what the probe can do is asked for once,
the protocol is chosen and the port set up by a connect, the clock may be set again and the debug
port be identified anew. All of them hold as long as the session is connected, whatever is called
and however it fails, and once a session knows its probe it never asks again.
-/

namespace DebugProbe

variable {σ : Type} [Transport σ]

/-- Everything that a connection rests on: the probe can use the protocol and, if a target is to be
selected, can do that with it; the debug port gave its identification; a clock is set that is not
too fast; and the position of the debug port is the one that goes with the protocol. -/
structure LinkState.Anchored (config : Config) (capabilities : Capabilities)
    (protocol : WireProtocol) (state : LinkState) : Prop where
  supported : capabilities.supports protocol = true
  identified : state.dpidr.isSome = true
  clocked : ∃ clock, state.clock = some clock ∧ clock ≤ capabilities.maxClock
  placed : state.dapIndex = config.dapIndex protocol
  selecting : config.session.targetSel.isSome = true →
    protocol = .swd ∧ capabilities.multidrop = true

omit [Transport σ] in
/-- A protocol that is chosen is supported. It is another one than the requested one only if the
probe lacks that and another one is allowed. -/
private theorem supports_of_chosen {capabilities : Capabilities}
    {requested protocol : WireProtocol} {allowFallback : Bool}
    (chosen : Session.chooseProtocol capabilities requested allowFallback = .ok protocol) :
    capabilities.supports protocol = true ∧ (protocol ≠ requested →
      capabilities.supports requested = false ∧ allowFallback = true) := by
  unfold Session.chooseProtocol at chosen
  split at chosen
  · next supported =>
    obtain rfl := Except.ok.inj chosen
    exact ⟨supported, absurd rfl⟩
  · next lacking =>
    split at chosen
    · next fallback =>
      obtain rfl := Except.ok.inj chosen
      obtain ⟨allowed, supported⟩ := Bool.and_eq_true_iff.mp fallback
      exact ⟨supported, fun _ ↦ ⟨Bool.eq_false_iff.mpr lacking, allowed⟩⟩
    · nomatch chosen

omit [Transport σ] in
/-- A protocol that is selected was chosen, and it can select the target. -/
theorem Config.selected_chosen {config : Config} {capabilities : Capabilities}
    {hint : Option WireProtocol} {protocol : WireProtocol}
    (selected : config.selectProtocol capabilities hint = .ok protocol) :
    Session.chooseProtocol capabilities (hint.getD config.session.protocol)
        config.session.allowFallback = .ok protocol ∧
      (config.session.targetSel.isSome = true →
        protocol = .swd ∧ capabilities.multidrop = true) := by
  rcases Session.selectProtocol_cases config capabilities hint with
    ⟨error, -, refused⟩ | ⟨other, chosen, checked⟩
  · rw [refused] at selected
    nomatch selected
  · rw [checked] at selected
    split at selected
    · nomatch selected
    · next possible =>
      obtain rfl := Except.ok.inj selected
      exact ⟨chosen, fun some ↦ by simpa [some, and_comm] using possible⟩

namespace LinkState

variable {config : Config} {capabilities : Capabilities} {protocol : WireProtocol}
  {state : LinkState}

/-- What accesses learn of a target does not bear on the connection. -/
theorem anchored_bearings :
    state.bearings.Anchored config capabilities protocol ↔
      state.Anchored config capabilities protocol :=
  ⟨fun ⟨supported, identified, clocked, placed, selecting⟩ ↦
      ⟨supported, identified, clocked, placed, selecting⟩,
    fun ⟨supported, identified, clocked, placed, selecting⟩ ↦
      ⟨supported, identified, clocked, placed, selecting⟩⟩

/-- A connect that succeeded leaves a connection with everything that it rests on. -/
theorem Arrived.anchored {hint : Option WireProtocol} {status : LinkStatus}
    (arrived : state.Arrived config capabilities protocol status)
    (selected : config.selectProtocol capabilities hint = .ok protocol) :
    state.Anchored config capabilities protocol := by
  obtain ⟨word, rfl⟩ := arrived
  obtain ⟨chosen, selecting⟩ := Config.selected_chosen selected
  exact ⟨(supports_of_chosen chosen).1, rfl, ⟨_, rfl, Std.min_le_right⟩, rfl, selecting⟩

/-- If there is a connection then it has everything that it rests on. -/
def Grounded (config : Config) (capabilities : Capabilities) (state : LinkState) : Prop :=
  ∀ protocol, state.status = .connected protocol → state.Anchored config capabilities protocol

/-- Connections are grounded by connects and stay so. -/
theorem grounded_enduring (config : Config) (capabilities : Capabilities) (call : SessionCall) :
    Enduring (Grounded config capabilities) config capabilities call where
  blank := nofun
  identified := fun _ grounded protocol connected ↦
    { grounded protocol connected with identified := rfl }
  clocked := fun _ _ grounded protocol connected ↦
    { grounded protocol connected with clocked := ⟨_, rfl, Std.min_le_right⟩ }
  arrived := by
    rintro hint protocol state - selected arrived other connected
    obtain ⟨word, rfl⟩ := id arrived
    obtain rfl := LinkStatus.connected.inj connected
    exact arrived.anchored selected

/-- Nothing but a connect brings a connection up. -/
theorem held_enduring (config : Config) (capabilities : Capabilities) (status : LinkStatus)
    {call : SessionCall} (other : ∀ hint, call ≠ .call (.connect hint)) :
    Enduring (fun state ↦ ∀ protocol, state.status = .connected protocol →
      status = .connected protocol) config capabilities call where
  blank := nofun
  identified := fun _ held ↦ held
  clocked := fun _ _ held ↦ held
  arrived := fun hint _ _ isConnect ↦ absurd isConnect (other hint)

end LinkState

namespace Session

variable {session : Session σ} {call : SessionCall} {capabilities : Capabilities}

/-- Nothing was asked yet. -/
private theorem within_unasking {known : LinkState → Prop}
    (holds : known session.link.state.bearings) :
    session.Within (.unasking session.link.transport) known session.config
      session.capabilities := by
  refine ⟨⟨⟨[], .nil _, List.forall_mem_nil _⟩, holds, ?_⟩, rfl, rfl⟩
  rintro dapIndex request ⟨part, -, -, rfl⟩
  rfl

/-- A call of a session that knows its probe does not ask, keeps what is known of the probe, and
keeps what it is known to keep of the connection. -/
theorem informed_step {known : LinkState → Prop}
    (enduring : LinkState.Enduring known session.config capabilities call)
    (told : session.capabilities = some capabilities)
    (holds : known session.link.state.bearings) :
    (call.action.outcome session).2.Within (.unasking session.link.transport) known
      session.config (some capabilities) := by
  have within := within_unasking holds
  rw [told] at within
  exact (Regime.informedCall enduring).left within

/-- The session once its probe told what it can do. -/
def informed (session : Session σ) (capabilities : Capabilities) (transport : σ) : Session σ :=
  { session with link.transport := transport, capabilities := some capabilities }

/-- What a call makes of a session that does not know its probe: it does not get to know it, or asks
and then goes on as if it had been known. -/
inductive Learns (session : Session σ) (call : SessionCall) : Session σ → Prop
  | ignorant {next : Session σ} (unknown : next.capabilities = none)
      (closed : next.link.state.isConnected = false) (config : next.config = session.config) :
      Learns session call next
  | asked {capabilities : Capabilities} {transport : σ}
      (answer : (Probe.queryCapabilities session.config.probe.maxClock).outcome
        session.link.transport = (.ok capabilities, transport)) :
      Learns session call (call.action.outcome (session.informed capabilities transport)).2

theorem ignorant_step (unknown : session.capabilities = none)
    (closed : session.link.state.isConnected = false) (call : SessionCall) :
    session.Learns call (call.action.outcome session).2 := by
  cases asks : call.asks with
  | false =>
    have lasting : LinkState.Lasting fun state ↦ state.isConnected = false := ⟨rfl, fun _ ↦ id⟩
    have within := @within_unasking σ _ session (fun state ↦ state.isConnected = false) closed
    rw [unknown] at within
    have kept := (Regime.directCall _ lasting asks).left within
    exact .ignorant kept.told kept.link.known kept.config
  | true =>
    have learns : call.action.Yields session (fun _ ↦ session.Learns call)
        (fun _ ↦ session.Learns call) := by
      refine yields_call_asking asks closed
        ((yields_queryCapabilities_of_unknown unknown).mpr (Action.yields_iff.mpr ⟨?_, ?_⟩))
      · intro capabilities transport answer
        have goes : session.Learns call
            (call.action.outcome (session.informed capabilities transport)).2 := .asked answer
        exact Action.Yields.of_left goes
      · intro error transport _
        cases error.isBroken with
        | true => exact .ignorant unknown rfl rfl
        | false => exact .ignorant unknown closed rfl
    exact learns.left

/-- Calls of a session that knows its probe keep to any regime that its link keeps to. -/
theorem within_after {regime : Regime σ} {known : LinkState → Prop} {config : Config}
    (enduring : ∀ call, LinkState.Enduring known config capabilities call)
    (within : session.Within regime known config (some capabilities)) (calls : List SessionCall) :
    (session.after calls).Within regime known config (some capabilities) := by
  induction calls generalizing session with
  | nil => exact within
  | cons call rest ih => exact ih ((Regime.informedCall (enduring call)).left within)

/-- A session has its configuration, and if it is connected then it knows its probe and has
everything that a connection rests on. -/
structure Rests (config : Config) (session : Session σ) : Prop where
  configured : session.config = config
  grounded : ∀ protocol, session.link.state.status = .connected protocol →
    ∃ capabilities, session.capabilities = some capabilities ∧
      session.link.state.Anchored config capabilities protocol

section Rests

variable {config : Config}

omit [Transport σ] in
/-- A session that does not know its probe is not connected. -/
theorem Rests.closed (rests : session.Rests config) (unknown : session.capabilities = none) :
    session.link.state.isConnected = false := by
  by_contra connected
  obtain ⟨protocol, status⟩ := LinkState.isConnected_iff.mp (Bool.not_eq_false _ ▸ connected)
  obtain ⟨capabilities, told, -⟩ := rests.grounded protocol status
  rw [unknown] at told
  nomatch told

/-- What a connection rests on is still there after a call of a session that knows its probe. -/
private theorem rests_informed (same : session.config = config)
    (told : session.capabilities = some capabilities)
    (grounded : session.link.state.bearings.Grounded config capabilities) :
    (call.action.outcome session).2.Rests config := by
  subst same
  have within := informed_step
    (LinkState.grounded_enduring session.config capabilities call) told grounded
  exact ⟨within.config, fun protocol connected ↦
    ⟨capabilities, within.told, LinkState.anchored_bearings.mp (within.link.known _ connected)⟩⟩

/-- What a connection rests on is still there after every call. -/
theorem Rests.step (rests : session.Rests config) (call : SessionCall) :
    (call.action.outcome session).2.Rests config := by
  cases told : session.capabilities with
  | some capabilities =>
    refine rests_informed rests.configured told fun protocol connected ↦ ?_
    obtain ⟨same, told', anchored⟩ := rests.grounded protocol connected
    rw [told] at told'
    obtain rfl := Option.some.inj told'
    exact LinkState.anchored_bearings.mpr anchored
  | none =>
    have closed := rests.closed told
    have learns := ignorant_step told closed call
    generalize (call.action.outcome session).2 = next at learns
    cases learns with
    | ignorant unknown down config =>
      refine ⟨config.trans rests.configured, fun protocol connected ↦ ?_⟩
      rw [LinkState.isConnected_of_connected connected] at down
      nomatch down
    | @asked capabilities transport answer =>
      refine @rests_informed σ _ (session.informed capabilities transport) call capabilities config
        rests.configured rfl fun protocol connected ↦ ?_
      have up : session.link.state.isConnected = true :=
        LinkState.isConnected_of_connected connected
      rw [up] at closed
      nomatch closed

theorem Rests.after (rests : session.Rests config) (calls : List SessionCall) :
    (session.after calls).Rests config := by
  induction calls generalizing session with
  | nil => exact rests
  | cons call rest ih => exact ih (rests.step call)

omit [Transport σ] in
theorem rests_new (transport : σ) (config : Config) : (new transport config).Rests config :=
  ⟨rfl, nofun⟩

end Rests

section Runs

variable {config : Config} {protocol : WireProtocol}

/-- One more call comes after the others. -/
theorem after_concat (session : Session σ) (calls : List SessionCall) (call : SessionCall) :
    session.after (calls ++ [call]) = (call.action.outcome (session.after calls)).2 :=
  List.foldl_concat _ _ _ _

/-- The capabilities are those that the probe gave in the call of a session that had not known them,
and they have been known ever since. -/
def Discovers (session : Session σ) (calls : List SessionCall) (capabilities : Capabilities) :
    Prop :=
  ∃ earlier call later transport, calls = earlier ++ call :: later ∧
    (session.after earlier).capabilities = none ∧
    (Probe.queryCapabilities session.config.probe.maxClock).outcome
      (session.after earlier).link.transport = (.ok capabilities, transport) ∧
    ∀ part, part <+: later →
      (session.after (earlier ++ call :: part)).capabilities = some capabilities

/-- The connection goes back to a connect with the hint, which succeeded with the protocol, and has
been kept ever since. -/
def ConnectedBy (session : Session σ) (calls : List SessionCall) (hint : Option WireProtocol)
    (protocol : WireProtocol) : Prop :=
  ∃ earlier later, calls = earlier ++ .call (.connect hint) :: later ∧
    ((connect hint).outcome (session.after earlier)).1 = .ok protocol ∧
    ∀ part, part <+: later → (session.after
      (earlier ++ .call (.connect hint) :: part)).link.state.status = .connected protocol

/-- What holds after all first parts of some calls and after one more call holds after all first
parts of the longer list. -/
private theorem forall_prefix_concat {later : List SessionCall} {call : SessionCall}
    {holds : List SessionCall → Prop} (before : ∀ part, part <+: later → holds part)
    (last : holds (later ++ [call])) : ∀ part, part <+: later ++ [call] → holds part := by
  intro part isPrefix
  rcases List.prefix_concat_iff.mp isPrefix with rfl | shorter
  · exact last
  · exact before part shorter

/-- What a session knows of its probe it knows after one more call. -/
private theorem told_of_before (before : session.capabilities = some capabilities)
    (call : SessionCall) : (call.action.outcome session).2.capabilities = some capabilities :=
  (informed_step (LinkState.enduring_true _ _ call) before trivial).told

/-- What a session knows of its probe was discovered by one of the calls. -/
private theorem discovers_after (rests : session.Rests config)
    (unknown : session.capabilities = none) (calls : List SessionCall)
    (told : (session.after calls).capabilities = some capabilities) :
    session.Discovers calls capabilities := by
  induction calls using List.reverseRecOn with
  | nil =>
    rw [show session.after [] = session from rfl, unknown] at told
    nomatch told
  | append_singleton calls call ih =>
    rw [after_concat] at told
    cases before : (session.after calls).capabilities with
    | some known =>
      have same := told_of_before before call
      rw [told] at same
      obtain rfl := Option.some.inj same
      obtain ⟨earlier, first, later, transport, rfl, ignorant, answer, since⟩ := ih before
      refine ⟨earlier, first, later ++ [call], transport, by simp, ignorant, answer,
        forall_prefix_concat since ?_⟩
      rw [← List.cons_append, ← List.append_assoc, after_concat]
      exact told
    | none =>
      have rested := rests.after calls
      have learns := ignorant_step before (rested.closed before) call
      have found {known : Capabilities} {transport : σ}
          (answer : (Probe.queryCapabilities (session.after calls).config.probe.maxClock).outcome
            (session.after calls).link.transport = (.ok known, transport))
          (same : known = capabilities) : session.Discovers (calls ++ [call]) capabilities := by
        rw [rested.configured, ← rests.configured, same] at answer
        refine ⟨calls, call, [], transport, rfl, before, answer, fun part isPrefix ↦ ?_⟩
        rw [List.prefix_nil.mp isPrefix, after_concat]
        exact told
      generalize (call.action.outcome (session.after calls)).2 = next at learns told
      cases learns with
      | ignorant unknown =>
        rw [unknown] at told
        nomatch told
      | @asked known transport answer =>
        have same := @told_of_before σ _ ((session.after calls).informed known transport) known rfl
          call
        rw [told] at same
        exact found answer (Option.some.inj same).symm

/-- The connect succeeded with the protocol, which was to be selected for what the probe can do. -/
private def ConnectedAs (session : Session σ) (hint : Option WireProtocol)
    (protocol : WireProtocol) (next : Session σ) : Prop :=
  ((connect hint).outcome session).1 = .ok protocol ∧ ∃ capabilities,
    next.capabilities = some capabilities ∧
    session.config.selectProtocol capabilities hint = .ok protocol

/-- If a session is connected after a connect, then that succeeded with the protocol that was to be
selected. -/
private theorem connect_connected (reached : session.Reached) (hint : Option WireProtocol)
    (connected : ((SessionCall.call (.connect hint)).action.outcome session).2.link.state.status =
      .connected protocol) :
    session.ConnectedAs hint protocol
      ((SessionCall.call (.connect hint)).action.outcome session).2 := by
  have connects : (SessionCall.call (.connect hint)).action.Yields session
      (fun _ next ↦ next.link.state.status = .connected protocol →
        session.ConnectedAs hint protocol next)
      fun _ next ↦ next.link.state.status = .connected protocol →
        session.ConnectedAs hint protocol next := by
    refine Action.yields_map.mpr
      ((connect_parts_connects reached.sound.blank hint).with_outcome.imp ?_ ?_)
    · rintro selected next ⟨⟨closing, idle, deeds, parts, succeeds⟩, outcome⟩ connected
      rw [succeeds.status] at connected
      obtain rfl := LinkStatus.connected.inj connected
      refine ⟨by rw [outcome], ?_⟩
      have course := succeeds.course
      rw [parts.config] at course
      cases told : next.capabilities with
      | none =>
        rw [told] at course
        nomatch course
      | some capabilities =>
        rw [told] at course
        cases course with
        | done inquires chosen taken isTold => exact ⟨capabilities, rfl, chosen⟩
    · -- A connect that failed left nothing connected.
      rintro error next ⟨failed, -⟩ connected
      have blank : next.Blank := by
        rcases failed with ⟨closing, parts⟩ | ⟨closing, idle, deeds, parts, fails⟩
        · exact parts.blank
        · exact fails.blank
      rw [blank.state] at connected
      nomatch connected
  exact Action.Yields.left connects connected

/-- Nothing but a connect brings a connection up. -/
theorem connected_before (rests : session.Rests config)
    (other : ∀ hint, call ≠ .call (.connect hint))
    (connected : (call.action.outcome session).2.link.state.status = .connected protocol) :
    session.link.state.status = .connected protocol := by
  cases told : session.capabilities with
  | some capabilities =>
    exact (informed_step (LinkState.held_enduring _ capabilities session.link.state.status other)
      told fun _ held ↦ held).link.known protocol connected
  | none =>
    have learns := ignorant_step told (rests.closed told) call
    generalize (call.action.outcome session).2 = next at learns connected
    cases learns with
    | ignorant unknown down =>
      rw [LinkState.isConnected_of_connected connected] at down
      nomatch down
    | @asked capabilities transport answer =>
      have within := @informed_step σ _ (session.informed capabilities transport) call capabilities
        _ (LinkState.held_enduring _ capabilities session.link.state.status other) rfl
        fun _ held ↦ held
      exact within.link.known protocol connected

/-- A connection goes back to a connect that selected its protocol for what the probe can do. -/
private theorem connectedBy_after (transport : σ) (config : Config) (calls : List SessionCall)
    (connected : ((new transport config).after calls).link.state.status = .connected protocol) :
    ∃ hint capabilities, (new transport config).ConnectedBy calls hint protocol ∧
      ((new transport config).after calls).capabilities = some capabilities ∧
      config.selectProtocol capabilities hint = .ok protocol := by
  induction calls using List.reverseRecOn with
  | nil => nomatch connected
  | append_singleton calls call ih =>
    have rests := (rests_new transport config).after calls
    rw [after_concat] at connected ⊢
    by_cases isConnect : ∃ hint, call = .call (.connect hint)
    · obtain ⟨hint, rfl⟩ := isConnect
      have reached : (new transport config).Reached := .new transport config
      obtain ⟨succeeds, capabilities, told, chosen⟩ :=
        connect_connected (reached.after calls) hint connected
      rw [rests.configured] at chosen
      refine ⟨hint, capabilities, ⟨calls, [], rfl, succeeds, fun part isPrefix ↦ ?_⟩, told, chosen⟩
      rw [List.prefix_nil.mp isPrefix, after_concat]
      exact connected
    · have before := connected_before rests (not_exists.mp isConnect) connected
      obtain ⟨hint, capabilities, ⟨earlier, later, rfl, connects, since⟩, told, chosen⟩ := ih before
      refine ⟨hint, capabilities, ⟨earlier, later ++ [call], by simp, connects,
        forall_prefix_concat since ?_⟩, told_of_before told call, chosen⟩
      rw [← List.cons_append, ← List.append_assoc, after_concat]
      exact connected

/-- A session that knows its probe goes on knowing the same, and adds nothing to the record that
asks for it. -/
private theorem history_after {session : Session (Recorded σ)} {capabilities : Capabilities}
    (told : session.capabilities = some capabilities) (calls : List SessionCall) :
    (session.after calls).capabilities = some capabilities ∧
      ∃ added, (session.after calls).link.transport.history =
        session.link.transport.history ++ added ∧ ∀ event ∈ added, ¬event.Asks := by
  have start := @within_unasking _ _ session (fun _ ↦ True) trivial
  rw [told] at start
  have within := within_after (LinkState.enduring_true session.config capabilities) start calls
  obtain ⟨deeds, conversation, unasking⟩ := within.link.transport
  refine ⟨within.told, _, Recorded.history_conversation conversation, fun event member ↦ ?_⟩
  obtain ⟨deed, some, added⟩ := List.mem_flatMap.mp member
  exact (unasking deed some).events added

/-- Whatever is called on a session, over any transport: while it is connected it knows what its
probe can do, as it was when the probe first told, and the connection goes back to a connect that
succeeded; everything that the connection rests on is in place, and its protocol is another one than
that connect requested only if the probe lacks that one and another one is allowed. Once the probe
has told what it can do, every later call keeps that, asks for none of it and does not change the
packet size. -/
theorem connected_anchored (transport : Recorded σ) (config : Config) (calls : List SessionCall) :
    (∀ protocol, ((new transport config).after calls).link.state.status = .connected protocol →
      ∃ capabilities hint,
        ((new transport config).after calls).capabilities = some capabilities ∧
        (new transport config).Discovers calls capabilities ∧
        (new transport config).ConnectedBy calls hint protocol ∧
        ((new transport config).after calls).link.state.Anchored config capabilities protocol ∧
        (protocol ≠ hint.getD config.session.protocol →
          capabilities.supports (hint.getD config.session.protocol) = false ∧
            config.session.allowFallback = true)) ∧
    ∀ capabilities, ((new transport config).after calls).capabilities = some capabilities →
      ∀ more, ((new transport config).after (calls ++ more)).capabilities = some capabilities ∧
        ∃ added, ((new transport config).after (calls ++ more)).link.transport.history =
          ((new transport config).after calls).link.transport.history ++ added ∧
          ∀ event ∈ added, ¬event.Asks := by
  have fresh := rests_new transport config
  refine ⟨fun protocol connected ↦ ?_, fun capabilities told more ↦ ?_⟩
  · obtain ⟨hint, capabilities, connects, told, selected⟩ :=
      connectedBy_after transport config calls connected
    obtain ⟨known, same, anchored⟩ := (fresh.after calls).grounded protocol connected
    rw [told] at same
    obtain rfl := Option.some.inj same
    obtain ⟨chosen, -⟩ := Config.selected_chosen selected
    exact ⟨capabilities, hint, told, discovers_after fresh rfl calls told, connects, anchored,
      (supports_of_chosen chosen).2⟩
  · have appended : (new transport config).after (calls ++ more) =
        ((new transport config).after calls).after more := List.foldl_append
    rw [appended]
    exact history_after told more

/-- A session over a simulated probe that was connected, asked for a clock that is too fast, and
asked for what names the probe. -/
private def overclocked : Session (Recorded Simulator) :=
  (new { inner := {} } {}).after [.call (.connect none), .setClock 0xFFFFFFFF, .identify]

private theorem connected_overclocked : overclocked.link.state.status = .connected .swd := by
  decide +kernel

/-- A clock that is too fast leaves a connection with all that it rests on. -/
theorem connected_anchored_overclocked :
    overclocked.link.state.status = .connected .swd ∧ ∃ capabilities,
      overclocked.capabilities = some capabilities ∧
      overclocked.link.state.Anchored {} capabilities .swd := by
  obtain ⟨capabilities, hint, told, -, -, anchored, -⟩ :=
    (connected_anchored _ _ _).1 .swd connected_overclocked
  exact ⟨connected_overclocked, capabilities, told, anchored⟩

end Runs

end Session

end DebugProbe
