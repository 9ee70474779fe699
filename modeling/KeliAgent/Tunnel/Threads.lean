import KeliAgent.Tunnel.Control
import KeliAgent.Tunnel.Listeners

/-!
# The threads on the shared rule state

The control thread and the data thread share the rule state of `tunnel_runtime.rs` and nothing else.
A sync of the rules is one access to it; `refresh_listeners` makes many, and a sync may come between
any two of them.

* `TunnelThreads.advance`: `refresh_listeners`, cut at its accesses; **`run_refresh`**: without an
  interruption it is the function.
* **`ready_listens_interleaved`**: whatever the interleaving, a READY state that the data thread
  computes has the revision and the rules of the last sync, and lists an ingress rule only with its
  listener.
* `ControlThread.run`: the loop of the control thread; **`ready_after_ack`**: once a sync was
  acknowledged, READY has its revision or that of a later one.
-/

namespace KeliAgent

open Effect

/-! ## The steps of a refresh -/

/-- Where the data thread is in `refresh_listeners`, with its local variables. -/
inductive RefreshPoint where
  | idle
  | draining (terminal : List TunnelTcpListenerSpec)
  | syncDrained (terminal : List TunnelTcpListenerSpec)
  | readPlan (terminal : List TunnelTcpListenerSpec)
  | retainHealth (terminal plan : List TunnelTcpListenerSpec)
  | retainListeners (terminal plan : List TunnelTcpListenerSpec)
  | syncRetained (terminal plan : List TunnelTcpListenerSpec)
  | starting (terminal rest : List TunnelTcpListenerSpec)
  | started (terminal : List TunnelTcpListenerSpec) (spec : TunnelTcpListenerSpec)
    (rest : List TunnelTcpListenerSpec)
  | failed (terminal : List TunnelTcpListenerSpec) (spec : TunnelTcpListenerSpec) (error : String)
    (rest : List TunnelTcpListenerSpec)

structure TunnelThreads where
  runtime : TunnelTcpListeners
  point : RefreshPoint

namespace TunnelThreads

/-- The next step of a refresh: at most one access to the rule state. `start` is the error of
starting a listener, if that fails. -/
def advance (threads : TunnelThreads) (start : Option String) : TunnelThreads :=
  let runtime := threads.runtime
  match threads.point with
  | .idle => threads
  | .draining terminal =>
    match runtime.listenerEvents with
    | [] => ⟨runtime, if terminal = [] then .readPlan [] else .syncDrained terminal⟩
    | event :: events =>
      let drained := TunnelTcpListeners.drainEvent
        (terminal, { runtime with listenerEvents := events }) event
      ⟨drained.2, .draining drained.1⟩
  | .syncDrained terminal => ⟨runtime.syncActiveListenerSnapshot, .readPlan terminal⟩
  | .readPlan terminal =>
    ⟨runtime, .retainHealth terminal
      (runtime.ruleState.tcpListenerPlanForDataTransport runtime.dataTransport)⟩
  | .retainHealth terminal plan =>
    ⟨{ runtime with ruleState := runtime.ruleState.retainListenerHealth plan },
      .retainListeners terminal plan⟩
  | .retainListeners terminal plan =>
    ⟨runtime.retainListeners plan, .syncRetained terminal plan⟩
  | .syncRetained terminal plan => ⟨runtime.syncActiveListenerSnapshot, .starting terminal plan⟩
  | .starting _ [] => ⟨runtime.syncActiveListenerSnapshot, .idle⟩
  | .starting terminal (spec :: rest) =>
    if (runtime.listeners.lookup spec.ruleId).isSome then ⟨runtime, .starting terminal rest⟩
    else if terminal.any fun event => sameListenerIdentity event spec then
      ⟨runtime, .starting terminal rest⟩
    else
      match start with
      | none =>
        ⟨{ runtime with coreListeners := runtime.coreListeners.insert spec.ruleId spec },
          .started terminal spec rest⟩
      | some error => ⟨runtime, .failed terminal spec error rest⟩
  | .started terminal spec rest =>
    -- the listener counts as running before its handle is inserted
    ⟨{ runtime with
        ruleState := runtime.ruleState.setListenerRunning spec
        listeners := runtime.listeners.insert spec.ruleId spec }, .starting terminal rest⟩
  | .failed terminal spec error rest =>
    ⟨{ runtime with ruleState := runtime.ruleState.setListenerStartFailed spec error },
      .starting terminal rest⟩

/-- A refresh begins when the last one is over. -/
def refresh (threads : TunnelThreads) : TunnelThreads :=
  match threads.point with
  | .idle => ⟨threads.runtime, .draining []⟩
  | _ => threads

end TunnelThreads

/-- What happens in the threads. Of the control thread only the syncs touch the rule state. -/
inductive ThreadAction where
  | control (event : ControlEvent)
  | terminalEvent (spec : TunnelTcpListenerSpec)
  | setListenerHealth (health : TunnelListenerHealth)
  | refresh
  | advance (start : Option String)

namespace TunnelThreads

def apply (threads : TunnelThreads) : ThreadAction → TunnelThreads
  | .control (.updateRules revision rules) =>
    { threads with runtime := threads.runtime.apply (.updateRules revision rules) }
  | .control _ => threads
  | .terminalEvent spec => { threads with runtime := threads.runtime.apply (.terminalEvent spec) }
  | .setListenerHealth health =>
    { threads with runtime := threads.runtime.apply (.setListenerHealth health) }
  | .refresh => threads.refresh
  | .advance start => threads.advance start

def run (threads : TunnelThreads) (actions : List ThreadAction) : TunnelThreads :=
  actions.foldl apply threads

def new (dataTransport : String) : TunnelThreads := ⟨.new .new dataTransport, .idle⟩

theorem run_append (threads : TunnelThreads) (actions actions' : List ThreadAction) :
    threads.run (actions ++ actions') = (threads.run actions).run actions' :=
  List.foldl_append

/-! ## A refresh without interruption -/

/-- The data thread gets from one state to the other on its own. -/
def Reaches (threads threads' : TunnelThreads) : Prop :=
  ∃ starts : List (Option String), threads.run (starts.map .advance) = threads'

theorem Reaches.refl (threads : TunnelThreads) : threads.Reaches threads := ⟨[], rfl⟩

theorem Reaches.trans {threads threads' threads'' : TunnelThreads} (h : threads.Reaches threads')
    (h' : threads'.Reaches threads'') : threads.Reaches threads'' := by
  obtain ⟨starts, rfl⟩ := h
  obtain ⟨starts', rfl⟩ := h'
  exact ⟨starts ++ starts', by rw [List.map_append, run_append]⟩

/-- One step, and then others. -/
theorem Reaches.step {threads threads' : TunnelThreads} (start : Option String)
    (h : (threads.advance start).Reaches threads') : threads.Reaches threads' :=
  Reaches.trans ⟨[start], rfl⟩ h

/-- An event does not touch those that follow it. -/
theorem drainEvent_listenerEvents (terminal : List TunnelTcpListenerSpec)
    (runtime : TunnelTcpListeners) (events : List TunnelTcpListenerSpec)
    (event : TunnelTcpListenerSpec) :
    TunnelTcpListeners.drainEvent (terminal, { runtime with listenerEvents := events }) event =
      ((TunnelTcpListeners.drainEvent (terminal, runtime) event).1,
        { (TunnelTcpListeners.drainEvent (terminal, runtime) event).2 with
          listenerEvents := events }) := by
  unfold TunnelTcpListeners.drainEvent
  simp only
  split
  · rfl
  · split_ifs <;> rfl

theorem listenerEvents_drainEvent (drained : List TunnelTcpListenerSpec × TunnelTcpListeners)
    (event : TunnelTcpListenerSpec) :
    (TunnelTcpListeners.drainEvent drained event).2.listenerEvents = drained.2.listenerEvents := by
  unfold TunnelTcpListeners.drainEvent
  split
  · rfl
  · split_ifs <;> rfl

/-- The loop over the events. -/
theorem reaches_drained (runtime : TunnelTcpListeners) (events : List TunnelTcpListenerSpec)
    (terminal : List TunnelTcpListenerSpec) :
    Reaches ⟨{ runtime with listenerEvents := events }, .draining terminal⟩
      ⟨(events.foldl TunnelTcpListeners.drainEvent
          (terminal, { runtime with listenerEvents := [] })).2,
        .draining (events.foldl TunnelTcpListeners.drainEvent
          (terminal, { runtime with listenerEvents := [] })).1⟩ := by
  induction events generalizing runtime terminal with
  | nil => exact Reaches.refl _
  | cons event events ih =>
    refine Reaches.step none ?_
    rw [List.foldl_cons, drainEvent_listenerEvents terminal runtime [] event]
    simp only [advance, drainEvent_listenerEvents terminal runtime events event]
    exact ih _ _

/-- The loop over the plan. -/
theorem reaches_started (start : ℕ → Option String) (terminal : List TunnelTcpListenerSpec)
    (runtime : TunnelTcpListeners) (plan : List TunnelTcpListenerSpec) (index : ℕ) :
    Reaches ⟨runtime, .starting terminal plan⟩
      ⟨(plan.zipIdx index).foldl (TunnelTcpListeners.startListener start terminal) runtime,
        .starting terminal []⟩ := by
  induction plan generalizing runtime index with
  | nil => exact Reaches.refl _
  | cons spec plan ih =>
    refine Reaches.step (start index) ?_
    rw [List.zipIdx_cons, List.foldl_cons]
    simp only [advance, TunnelTcpListeners.startListener]
    split_ifs with hheld hterminal
    · exact ih _ _
    · exact ih _ _
    · cases start index with
      | none => exact Reaches.step none (ih _ _)
      | some error => exact Reaches.step none (ih _ _)

/-- The loop over the events, with the snapshot after it. -/
theorem reaches_readPlan (runtime : TunnelTcpListeners) :
    Reaches ⟨runtime, .draining []⟩
      ⟨runtime.drainListenerRuntimeEvents.2, .readPlan runtime.drainListenerRuntimeEvents.1⟩ := by
  refine (reaches_drained runtime runtime.listenerEvents []).trans ?_
  have hevents : (runtime.listenerEvents.foldl TunnelTcpListeners.drainEvent
      ([], { runtime with listenerEvents := [] })).2.listenerEvents = [] :=
    List.foldlRecOn
      (motive := fun drained : List TunnelTcpListenerSpec × TunnelTcpListeners =>
        drained.2.listenerEvents = [])
      runtime.listenerEvents _ rfl fun drained h event _ =>
        (listenerEvents_drainEvent drained event).trans h
  refine Reaches.step none ?_
  unfold TunnelTcpListeners.drainListenerRuntimeEvents
  simp only [advance, hevents]
  split_ifs with hnone
  · rw [hnone]
    exact Reaches.refl _
  · exact Reaches.step none (Reaches.refl _)

/-- **A refresh that is not interrupted is the function.** -/
theorem run_refresh (runtime : TunnelTcpListeners) (start : ℕ → Option String) :
    ∃ starts : List (Option String),
      run ⟨runtime, .idle⟩ (.refresh :: starts.map .advance) =
        ⟨runtime.refreshListeners start, .idle⟩ := by
  suffices h : Reaches ⟨runtime, .draining []⟩ ⟨runtime.refreshListeners start, .idle⟩ from h
  refine (reaches_readPlan runtime).trans ?_
  iterate 4 refine Reaches.step none ?_
  refine (reaches_started start _ _ _ 0).trans ?_
  exact Reaches.step none (Reaches.refl _)

/-! ## The invariant of interleavings -/

/-- The runtime with the handle that is about to be inserted. -/
def settled (threads : TunnelThreads) : TunnelTcpListeners :=
  match threads.point with
  | .started _ spec _ =>
    { threads.runtime with listeners := threads.runtime.listeners.insert spec.ruleId spec }
  | _ => threads.runtime

/-- The handles are those that the core started, and between refreshes every active listener is
among them. -/
structure Sound (threads : TunnelThreads) : Prop where
  handled : threads.settled.Handled
  coherent : threads.point = .idle → threads.runtime.Coherent

variable {threads : TunnelThreads}

theorem sound_new (dataTransport : String) : (new dataTransport).Sound := by
  have h := TunnelTcpListeners.coherent_run dataTransport []
  exact ⟨h.toHandled, fun _ => h⟩

/-- Only the rule state changes, between refreshes or within one. -/
theorem Sound.withRuleState (h : threads.Sound) {ruleState : SharedTunnelRuleState}
    (hlatest : ruleState.Latest)
    (hactive : ∀ listener ∈ ruleState.inner.activeListeners,
      listener ∈ threads.runtime.ruleState.inner.activeListeners) :
    Sound { threads with runtime := { threads.runtime with ruleState } } := by
  refine ⟨?_, ?_⟩
  · have hhandled := h.handled.withRuleState hlatest
    obtain ⟨runtime, point⟩ := threads
    cases point <;> exact hhandled
  · intro hidle
    have hcoherent := h.coherent hidle
    exact ⟨hcoherent.withRuleState hlatest,
      fun listener hmem => hcoherent.held listener (hactive listener hmem)⟩

theorem settled_latest (h : threads.Sound) : threads.runtime.ruleState.Latest := by
  have hlatest := h.handled.latest
  obtain ⟨runtime, point⟩ := threads
  cases point <;> exact hlatest

/-- A step within a refresh that does not end it. -/
theorem sound_of_handled {threads : TunnelThreads} (hhandled : threads.settled.Handled)
    (hpoint : threads.point ≠ .idle) : threads.Sound :=
  ⟨hhandled, fun hidle => absurd hidle hpoint⟩

theorem Sound.advance (h : threads.Sound) (start : Option String) :
    (threads.advance start).Sound := by
  obtain ⟨runtime, point⟩ := threads
  have hhandled := h.handled
  cases point with
  | idle => exact h
  | draining terminal =>
    cases hevents : runtime.listenerEvents with
    | nil =>
      simp only [TunnelThreads.advance, hevents]
      split_ifs
      · exact sound_of_handled hhandled (by simp)
      · exact sound_of_handled hhandled (by simp)
    | cons event events =>
      simp only [TunnelThreads.advance, hevents]
      refine sound_of_handled ?_ (by simp)
      exact @TunnelTcpListeners.Handled.drainEvent
        (terminal, { runtime with listenerEvents := events })
        ⟨hhandled.keyed, hhandled.started, hhandled.latest⟩ event
  | syncDrained terminal =>
    exact sound_of_handled hhandled.syncActiveListenerSnapshot.toHandled
      (by simp [TunnelThreads.advance])
  | readPlan terminal => exact sound_of_handled hhandled (by simp [TunnelThreads.advance])
  | retainHealth terminal plan =>
    exact sound_of_handled (hhandled.withRuleState (hhandled.latest.retainListenerHealth plan))
      (by simp [TunnelThreads.advance])
  | retainListeners terminal plan =>
    exact sound_of_handled (hhandled.retainListeners plan) (by simp [TunnelThreads.advance])
  | syncRetained terminal plan =>
    exact sound_of_handled hhandled.syncActiveListenerSnapshot.toHandled
      (by simp [TunnelThreads.advance])
  | starting terminal rest =>
    cases rest with
    | nil =>
      have hcoherent := hhandled.syncActiveListenerSnapshot
      exact ⟨hcoherent.toHandled, fun _ => hcoherent⟩
    | cons spec rest =>
      simp only [TunnelThreads.advance]
      split_ifs
      · exact sound_of_handled hhandled (by simp)
      · exact sound_of_handled hhandled (by simp)
      · cases start with
        | none => exact sound_of_handled (hhandled.insertListener spec) (by simp)
        | some error => exact sound_of_handled hhandled (by simp)
  | started terminal spec rest =>
    exact sound_of_handled (hhandled.withRuleState (hhandled.latest.setListenerHealth _))
      (by simp [TunnelThreads.advance])
  | failed terminal spec error rest =>
    exact sound_of_handled (hhandled.withRuleState (hhandled.latest.setListenerHealth _))
      (by simp [TunnelThreads.advance])

/-- Every step of a thread keeps the invariant. -/
theorem Sound.apply (h : threads.Sound) (action : ThreadAction) : (threads.apply action).Sound := by
  have hlatest := settled_latest h
  cases action with
  | control event =>
    cases event with
    | updateRules revision rules =>
      exact h.withRuleState (hlatest.updateRules revision rules)
        fun listener hmem => (List.mem_filter.mp hmem).1
    | _ => exact h
  | terminalEvent spec =>
    refine ⟨?_, fun hidle => (h.coherent hidle).apply (.terminalEvent spec)⟩
    have hhandled := h.handled
    obtain ⟨runtime, point⟩ := threads
    cases point <;> exact ⟨hhandled.keyed, hhandled.started, hhandled.latest⟩
  | setListenerHealth health =>
    exact h.withRuleState (hlatest.setListenerHealth health) fun listener hmem => hmem
  | refresh =>
    have hhandled := h.handled
    obtain ⟨runtime, point⟩ := threads
    cases point with
    | idle => exact sound_of_handled hhandled (by simp [TunnelThreads.apply, refresh])
    | _ => exact h
  | advance start => exact h.advance start

/-- **The listeners are coherent whenever no refresh is going on.** -/
theorem sound_run (dataTransport : String) (actions : List ThreadAction) :
    ((new dataTransport).run actions).Sound :=
  List.foldlRecOn actions _ (sound_new dataTransport) fun _ h action _ => Sound.apply h action

/-! ## The rules of the last sync -/

/-- The revision and the rules of the rule state. -/
def rules (threads : TunnelThreads) : String × List SelectedTunnelRule :=
  (threads.runtime.ruleState.inner.revision, threads.runtime.ruleState.inner.rules)

theorem ruleState_drainEvent (drained : List TunnelTcpListenerSpec × TunnelTcpListeners)
    (event : TunnelTcpListenerSpec) :
    (TunnelTcpListeners.drainEvent drained event).2.ruleState = drained.2.ruleState := by
  unfold TunnelTcpListeners.drainEvent
  split
  · rfl
  · split_ifs <;> rfl

/-- A refresh leaves the rules alone. -/
theorem rules_advance (threads : TunnelThreads) (start : Option String) :
    (threads.advance start).rules = threads.rules := by
  have hsync : ∀ runtime : TunnelTcpListeners, ∀ point : RefreshPoint,
      rules ⟨runtime.syncActiveListenerSnapshot, point⟩ = rules ⟨runtime, point⟩ := by
    intro runtime point
    obtain ⟨-, hrevision, hrules⟩ := SharedTunnelRuleState.setActiveTcpListeners_frame
      runtime.ruleState (runtime.listeners.entries.map (·.2))
    exact Prod.ext hrevision hrules
  obtain ⟨runtime, point⟩ := threads
  cases point with
  | idle | readPlan | retainHealth | started | failed => rfl
  | draining terminal =>
    cases hevents : runtime.listenerEvents with
    | nil => simp only [advance, hevents, rules]
    | cons event events => simp only [advance, hevents, rules, ruleState_drainEvent]
  | syncDrained terminal => exact hsync _ _
  | syncRetained terminal plan => exact hsync _ _
  | retainListeners terminal plan =>
    simp only [advance, rules, (TunnelTcpListeners.retainListeners_frame runtime plan).1]
  | starting terminal rest =>
    cases rest with
    | nil => exact hsync _ _
    | cons spec rest =>
      simp only [advance]
      split_ifs
      · rfl
      · rfl
      · cases start <;> rfl

/-- What the control thread did. -/
def controlTrace (actions : List ThreadAction) : List ControlEvent :=
  actions.filterMap fun
    | .control event => some event
    | _ => none

/-- **The rule state holds the rules of the last sync**, at every moment. -/
theorem rules_run (dataTransport : String) (actions : List ThreadAction) :
    ((new dataTransport).run actions).rules =
      (Text.trim (ControlSession.lastSync (controlTrace actions)).1,
        (ControlSession.lastSync (controlTrace actions)).2) := by
  induction actions using List.reverseRecOn with
  | nil =>
    have htrim : Text.trim "" = "" := by decide +kernel
    exact Prod.ext htrim.symm rfl
  | append_singleton actions action ih =>
    rw [run_append, controlTrace, List.filterMap_append, ControlSession.lastSync_append]
    generalize (new dataTransport).run actions = threads at ih ⊢
    cases action with
    | control event =>
      cases event with
      | updateRules revision rules => rfl
      | _ => exact ih
    | terminalEvent | setListenerHealth => exact ih
    | refresh =>
      refine Eq.trans ?_ ih
      obtain ⟨runtime, point⟩ := threads
      cases point <;> rfl
    | advance start => exact (rules_advance threads start).trans ih

end TunnelThreads

/-! ## What READY mentions -/

/-- The READY state has the revision and mentions no other rules. -/
structure TunnelDataReadyState.Within (revision : String) (ids : List UInt64)
    (ready : TunnelDataReadyState) : Prop where
  revision : ready.revision = revision
  ingress : ∀ id ∈ ready.ingressRuleIds, id ∈ ids
  egress : ∀ id ∈ ready.egressRuleIds, id ∈ ids
  failed : ∀ failure ∈ ready.failedRules, failure.ruleId ∈ ids

namespace TunnelDataReadyState

variable {revision : String} {ids : List UInt64} {ready : TunnelDataReadyState}

theorem Within.pushFailureOnce (h : ready.Within revision ids) {failure : TunnelDataRuleFailure}
    (hid : failure.ruleId ∈ ids) : (ready.pushFailureOnce failure).Within revision ids := by
  unfold TunnelDataReadyState.pushFailureOnce
  split_ifs
  · exact h
  · refine ⟨h.revision, h.ingress, h.egress, fun failure' hmem => ?_⟩
    rcases List.mem_append.mp hmem with hmem | hmem
    · exact h.failed failure' hmem
    · rw [List.mem_singleton.mp hmem]
      exact hid

variable (host : TunnelHost) (snapshot : ListenerSnapshot)

theorem Within.applyReadySide (h : ready.Within revision ids) {rule : SelectedTunnelRule}
    (hid : rule.id ∈ ids) (side : TunnelPreflightSide) :
    (KeliAgent.applyReadySide host snapshot rule side ready).Within revision ids := by
  unfold KeliAgent.applyReadySide
  simp only
  generalize hpushed : (if side = .ingress ∧ ((readyIssues host snapshot rule side).any fun issue =>
      issue.code == .unsupportedOs) = false then snapshot.pushListenerHealthFailure rule ready
    else (false, ready)) = pushed
  have hwithin : pushed.2.Within revision ids := by
    rw [← hpushed, ListenerSnapshot.pushListenerHealthFailure]
    split_ifs
    · split
      · exact h
      · exact h.pushFailureOnce hid
    · exact h
  -- every issue names its rule
  have hissues : ∀ issue ∈ readyIssues host snapshot rule side, issue.ruleId ∈ ids := by
    intro issue hmem
    have hvalid : issue ∈ host.validateTunnelTcpRuleForSide (preflightInput rule) side := by
      unfold readyIssues ListenerSnapshot.filterRuntimeOwnedListenerBindFailure at hmem
      split_ifs at hmem
      · exact hmem
      · exact (List.mem_filter.mp hmem).1
    rw [host.ruleId_of_mem_validate hvalid]
    exact hid
  have hfold := List.foldlRecOn
    (motive := fun ready : TunnelDataReadyState => ready.Within revision ids)
    (readyIssues host snapshot rule side) (·.pushPreflightFailureOnce ·) hwithin
    fun ready h issue hmem => h.pushFailureOnce (hissues issue hmem)
  generalize (readyIssues host snapshot rule side).foldl (·.pushPreflightFailureOnce ·)
    pushed.2 = ready' at hfold ⊢
  have hadd : ∀ listed : List UInt64, (∀ id ∈ listed, id ∈ ids) → ∀ id ∈ listed ++ [rule.id],
      id ∈ ids := by
    intro listed hlisted id hmem
    rcases List.mem_append.mp hmem with hmem | hmem
    · exact hlisted id hmem
    · rw [List.mem_singleton.mp hmem]
      exact hid
  split_ifs
  · exact hfold
  · cases side with
    | ingress => exact ⟨hfold.revision, hadd _ hfold.ingress, hfold.egress, hfold.failed⟩
    | egress => exact ⟨hfold.revision, hfold.ingress, hadd _ hfold.egress, hfold.failed⟩

theorem Within.applyReadyRule (h : ready.Within revision ids) {rule : SelectedTunnelRule}
    (hid : rule.id ∈ ids) (dataTransport : String) :
    (KeliAgent.applyReadyRule host snapshot dataTransport ready rule).Within revision ids := by
  unfold KeliAgent.applyReadyRule
  split_ifs
  · exact h
  · exact h.pushFailureOnce hid
  · exact h
  · exact h.applyReadySide host snapshot hid .ingress
  · exact h.applyReadySide host snapshot hid .egress
  · exact (h.applyReadySide host snapshot hid .ingress).applyReadySide host snapshot hid .egress
  · exact h

/-- **READY mentions only the rules that it is computed from.** -/
theorem within_buildTunnelReadyState (revision : String) (rules : List SelectedTunnelRule)
    (dataTransport : String) :
    (buildTunnelReadyState host snapshot revision rules dataTransport).Within
      (Text.trim revision) (rules.map (·.id)) := by
  have hempty : (empty revision).Within (Text.trim revision) (rules.map (·.id)) :=
    ⟨rfl, by simp [empty], by simp [empty], by simp [empty]⟩
  have hfold := List.foldlRecOn
    (motive := fun ready : TunnelDataReadyState =>
      ready.Within (Text.trim revision) (rules.map SelectedTunnelRule.id))
    rules (KeliAgent.applyReadyRule host snapshot (normalizeDataTransportFilter dataTransport))
    hempty fun ready h rule hmem => h.applyReadyRule host snapshot (List.mem_map_of_mem hmem) _
  exact ⟨hfold.revision, fun id hmem => hfold.ingress id (mem_sortDedup.mp hmem),
    fun id hmem => hfold.egress id (mem_sortDedup.mp hmem), hfold.failed⟩

end TunnelDataReadyState

/-! ## READY in every interleaving -/

namespace TunnelThreads

/-- The READY state that the data thread computes. -/
def currentReady (threads : TunnelThreads) (host : TunnelHost) (dataTransport : String) :
    TunnelDataReadyState :=
  threads.runtime.ruleState.currentReadyForDataTransport host dataTransport

/-- READY has the revision of the last sync and mentions only its rules. -/
theorem within_currentReady (runtimeTransport : String) (actions : List ThreadAction)
    (host : TunnelHost) (dataTransport : String) :
    (((new runtimeTransport).run actions).currentReady host dataTransport).Within
      (Text.trim (ControlSession.lastSync (controlTrace actions)).1)
      ((ControlSession.lastSync (controlTrace actions)).2.map (·.id)) := by
  have hrules := rules_run runtimeTransport actions
  have hwithin := TunnelDataReadyState.within_buildTunnelReadyState host
    ((new runtimeTransport).run actions).runtime.ruleState.readySnapshot
    ((new runtimeTransport).run actions).rules.1 ((new runtimeTransport).run actions).rules.2
    dataTransport
  rw [hrules, Text.trim_trim] at hwithin
  refine Eq.mp ?_ hwithin
  rw [← congrArg Prod.fst hrules, ← congrArg Prod.snd hrules]
  rfl

/-- **READY is sound in every interleaving of the threads.** Whatever syncs, listener events and
health changes come between the accesses of a refresh, and whichever listeners fail to start: a
READY state that the data thread computes between refreshes has the revision of the last sync and
mentions only its rules, and it lists an ingress rule only if the rule calls for a listener of the
transport and the runtime holds one for it that was started and whose last recorded health is that
it runs. -/
theorem ready_listens_interleaved (runtimeTransport : String) (actions : List ThreadAction)
    (host : TunnelHost) (dataTransport : String)
    (hidle : ((new runtimeTransport).run actions).point = .idle) :
    (((new runtimeTransport).run actions).currentReady host dataTransport).Within
      (Text.trim (ControlSession.lastSync (controlTrace actions)).1)
      ((ControlSession.lastSync (controlTrace actions)).2.map (·.id)) ∧
    ∀ ruleId ∈ (((new runtimeTransport).run actions).currentReady host dataTransport).ingressRuleIds,
      ∃ rule ∈ (ControlSession.lastSync (controlTrace actions)).2, rule.id = ruleId ∧
        readyRule (normalizeDataTransportFilter dataTransport) .ingress rule = true ∧
        host.allowlistIsValid rule.sourceAllowlist = true ∧
        ((new runtimeTransport).run actions).runtime.Listens rule := by
  refine ⟨within_currentReady runtimeTransport actions host dataTransport, ?_⟩
  intro ruleId hlisted
  have hcoherent := (sound_run runtimeTransport actions).coherent hidle
  have hrules := congrArg Prod.snd (rules_run runtimeTransport actions)
  generalize (new runtimeTransport).run actions = threads at hlisted hcoherent hrules ⊢
  obtain ⟨rule, hmem, hid, hready, hpasses⟩ :=
    (mem_readyRuleIds host threads.runtime.ruleState.readySnapshot _ _ _ .ingress _).mp hlisted
  obtain ⟨-, hallow, hruns⟩ := (passes_ingress_iff _ _).mp hpasses
  exact ⟨rule, hrules ▸ hmem, hid, hready, hallow, hcoherent.listens hruns⟩

/-- A second sync comes between two accesses of the refresh that the first one calls for. -/
def overtakenRefresh : List ThreadAction :=
  [.control (.updateRules "1" [TunnelTcpRuntime.localRule]), .refresh, .advance none,
    .advance none, .control (.updateRules "2" [TunnelTcpRuntime.localRule])] ++
    List.replicate 6 (.advance none)

theorem ready_listens_interleaved_overtaken :
    ((new "websocket").run overtakenRefresh).point = .idle ∧
    (((new "websocket").run overtakenRefresh).currentReady TunnelTcpRuntime.openHost
      "websocket").ingressRuleIds = [7] ∧
    (((new "websocket").run overtakenRefresh).currentReady TunnelTcpRuntime.openHost
      "websocket").revision = "2" ∧
    ∃ rule, rule.id = 7 ∧ ((new "websocket").run overtakenRefresh).runtime.Listens rule := by
  have hidle : ((new "websocket").run overtakenRefresh).point = .idle := by rfl
  have hlisted : (((new "websocket").run overtakenRefresh).currentReady TunnelTcpRuntime.openHost
      "websocket").ingressRuleIds = [7] := by
    decide +kernel
  obtain ⟨hwithin, hlistens⟩ := ready_listens_interleaved "websocket" overtakenRefresh
    TunnelTcpRuntime.openHost "websocket" hidle
  obtain ⟨rule, -, hid, -, -, hlistens⟩ := hlistens 7 (hlisted ▸ List.mem_singleton.mpr rfl)
  refine ⟨hidle, hlisted, hwithin.revision.trans ?_, rule, hid, hlistens⟩
  decide +kernel

end TunnelThreads

/-! ## Rests between attempts -/

/-- `Duration::MAX`. -/
def durationMax : ℕ := durationFromSecs 18446744073709551615 + 999999999

/-- The control thread of `main.rs`: how long it rests after an attempt, and its next delay. -/
def controlRetryDelayAfterAttempt (retryDelay : ℕ) (succeeded : Bool) : ℕ × ℕ :=
  let retryDelay := if succeeded then durationFromSecs 15 else retryDelay
  (retryDelay, min (retryDelay + retryDelay) (durationFromSecs 60))

/-- The same for the data thread. -/
def tunnelDataReconnectDelayAfterAttempt (currentDelay : ℕ) (sessionSucceeded : Bool) : ℕ × ℕ :=
  let currentDelay := if currentDelay = 0 then durationFromSecs 5 else currentDelay
  let sleepDelay := if sessionSucceeded then durationFromSecs 15 else currentDelay
  let sum := if sleepDelay + sleepDelay ≤ durationMax then sleepDelay + sleepDelay else durationMax
  (sleepDelay, min sum (durationFromSecs 60))

/-- The rests after attempts with these outcomes. -/
def retryRests (next : ℕ → Bool → ℕ × ℕ) (delay : ℕ) : List Bool → List ℕ
  | [] => []
  | succeeded :: outcomes =>
    (next delay succeeded).1 :: retryRests next (next delay succeeded).2 outcomes

/-- The delay after them. -/
def retryDelayAfter (next : ℕ → Bool → ℕ × ℕ) (delay : ℕ) (outcomes : List Bool) : ℕ :=
  outcomes.foldl (fun delay succeeded => (next delay succeeded).2) delay

theorem controlRetry_next (delay : ℕ) (succeeded : Bool) :
    (controlRetryDelayAfterAttempt delay succeeded).2 =
      min ((controlRetryDelayAfterAttempt delay succeeded).1 +
        (controlRetryDelayAfterAttempt delay succeeded).1) (durationFromSecs 60) :=
  rfl

theorem retryRests_append (next : ℕ → Bool → ℕ × ℕ) (delay : ℕ) (outcomes outcomes' : List Bool) :
    retryRests next delay (outcomes ++ outcomes') =
      retryRests next delay outcomes ++
        retryRests next (retryDelayAfter next delay outcomes) outcomes' := by
  induction outcomes generalizing delay with
  | nil => rfl
  | cons succeeded outcomes ih =>
    rw [List.cons_append, retryRests, ih, retryRests, List.cons_append]
    rfl

theorem retryDelayAfter_concat (next : ℕ → Bool → ℕ × ℕ) (delay : ℕ) (outcomes : List Bool)
    (succeeded : Bool) :
    retryDelayAfter next delay (outcomes ++ [succeeded]) =
      (next (retryDelayAfter next delay outcomes) succeeded).2 := by
  rw [retryDelayAfter, List.foldl_append]
  rfl

/-- The failures since the last success. -/
def failuresSince (outcomes : List Bool) : ℕ := (outcomes.reverse.takeWhile (· == false)).length

/-- The rest after the last of these attempts: five seconds, doubled with each failure, or fifteen
seconds from a success on; never more than a minute. -/
def backoff (outcomes : List Bool) : ℕ :=
  if true ∈ outcomes then min (durationFromSecs 15 * 2 ^ failuresSince outcomes) (durationFromSecs 60)
  else min (durationFromSecs 5 * 2 ^ (failuresSince outcomes - 1)) (durationFromSecs 60)

/-- The rests after each of these attempts. -/
def backoffs (outcomes : List Bool) : List ℕ :=
  (List.range outcomes.length).map fun index => backoff (outcomes.take (index + 1))

theorem failuresSince_success (outcomes : List Bool) : failuresSince (outcomes ++ [true]) = 0 := by
  simp [failuresSince]

theorem failuresSince_failure (outcomes : List Bool) :
    failuresSince (outcomes ++ [false]) = failuresSince outcomes + 1 := by
  simp [failuresSince]

theorem failuresSince_pos {outcomes : List Bool} (hnone : true ∉ outcomes) (hne : outcomes ≠ []) :
    0 < failuresSince outcomes := by
  rcases List.eq_nil_or_concat outcomes with rfl | ⟨before, succeeded, rfl⟩
  · exact absurd rfl hne
  · rw [List.concat_eq_append] at hnone ⊢
    cases succeeded with
    | true => exact absurd (List.mem_append_right _ (List.mem_singleton.mpr rfl)) hnone
    | false =>
      rw [failuresSince_failure]
      exact Nat.succ_pos _

/-- Doubling below a bound. -/
theorem min_double_min (base bound n : ℕ) :
    min (min (base * 2 ^ n) bound + min (base * 2 ^ n) bound) bound =
      min (base * 2 ^ (n + 1)) bound := by
  rw [pow_succ, ← mul_assoc]
  omega

theorem backoff_success (outcomes : List Bool) :
    backoff (outcomes ++ [true]) = durationFromSecs 15 := by
  rw [backoff, if_pos (by simp), failuresSince_success, pow_zero, mul_one,
    min_eq_left (durationFromSecs_le (by decide))]

theorem backoff_first_failure : backoff [false] = durationFromSecs 5 := by
  rw [backoff, if_neg (by simp), show failuresSince [false] = 1 from rfl, Nat.sub_self, pow_zero,
    mul_one, min_eq_left (durationFromSecs_le (by decide))]

/-- A failure doubles the rest. -/
theorem backoff_failure {outcomes : List Bool} (hne : outcomes ≠ []) :
    backoff (outcomes ++ [false]) =
      min (backoff outcomes + backoff outcomes) (durationFromSecs 60) := by
  unfold backoff
  rw [failuresSince_failure]
  by_cases hsome : true ∈ outcomes
  · rw [if_pos hsome, if_pos (List.mem_append_left _ hsome), min_double_min]
  · have hpos := failuresSince_pos hsome hne
    rw [if_neg hsome, if_neg (by simpa using hsome), min_double_min]
    congr 3
    omega

/-- The rest after an attempt, if the delay is what a failure would lead to. -/
theorem controlRetry_backoff (outcomes : List Bool) (succeeded : Bool) :
    (controlRetryDelayAfterAttempt (backoff (outcomes ++ [false])) succeeded).1 =
      backoff (outcomes ++ [succeeded]) := by
  cases succeeded with
  | true => rw [backoff_success, controlRetryDelayAfterAttempt, if_pos rfl]
  | false => rw [controlRetryDelayAfterAttempt, if_neg Bool.false_ne_true]

/-- The delay is the rest that a failure would lead to. -/
theorem retryDelayAfter_eq_backoff (outcomes : List Bool) :
    retryDelayAfter controlRetryDelayAfterAttempt (durationFromSecs 5) outcomes =
      backoff (outcomes ++ [false]) := by
  induction outcomes using List.reverseRecOn with
  | nil => exact backoff_first_failure.symm
  | append_singleton outcomes last ih =>
    rw [backoff_failure (by simp), retryDelayAfter_concat, ih, controlRetry_next,
      controlRetry_backoff]

theorem retryRests_eq_backoffs (outcomes : List Bool) :
    retryRests controlRetryDelayAfterAttempt (durationFromSecs 5) outcomes = backoffs outcomes := by
  unfold backoffs
  induction outcomes using List.reverseRecOn with
  | nil => rfl
  | append_singleton outcomes last ih =>
    rw [retryRests_append, ih, retryDelayAfter_eq_backoff, retryRests, controlRetry_backoff,
      List.length_append, List.length_singleton, List.range_succ, List.map_append]
    congr 1
    · refine List.map_congr_left fun index hindex => ?_
      rw [List.take_append_of_le_length (List.mem_range.mp hindex)]
    · have htake : (outcomes ++ [last]).take (outcomes.length + 1) = outcomes ++ [last] :=
        List.take_of_length_le (by simp)
      simp [retryRests, htake]

/-- With a delay between nothing and a minute, both threads do the same. -/
theorem tunnelDataReconnectDelay_eq {delay : ℕ} (hpos : 0 < delay)
    (hle : delay ≤ durationFromSecs 60) (succeeded : Bool) :
    tunnelDataReconnectDelayAfterAttempt delay succeeded =
      controlRetryDelayAfterAttempt delay succeeded := by
  have twoMinutes : (120 : UInt64) ≤ 18446744073709551615 := by decide
  have hsum : ∀ rest, rest ≤ durationFromSecs 60 → rest + rest ≤ durationMax := by
    intro rest hrest
    have hmax : durationFromSecs 60 + durationFromSecs 60 ≤ durationMax := by
      refine le_trans (le_of_eq ?_) ((durationFromSecs_le twoMinutes).trans (Nat.le_add_right _ _))
      simp [durationFromSecs]
    omega
  have hrest : (if succeeded then durationFromSecs 15 else delay) ≤ durationFromSecs 60 := by
    split_ifs
    · exact durationFromSecs_le (by decide)
    · exact hle
  simp only [tunnelDataReconnectDelayAfterAttempt, controlRetryDelayAfterAttempt, if_neg hpos.ne',
    if_pos (hsum _ hrest)]

theorem retryRests_tunnelData (outcomes : List Bool) {delay : ℕ} (hpos : 0 < delay)
    (hle : delay ≤ durationFromSecs 60) :
    retryRests tunnelDataReconnectDelayAfterAttempt delay outcomes =
      retryRests controlRetryDelayAfterAttempt delay outcomes := by
  induction outcomes generalizing delay with
  | nil => rfl
  | cons succeeded outcomes ih =>
    rw [retryRests, retryRests, tunnelDataReconnectDelay_eq hpos hle]
    congr 1
    rw [controlRetry_next]
    refine ih ?_ (min_le_right _ _)
    have hrest : 0 < (controlRetryDelayAfterAttempt delay succeeded).1 := by
      rw [controlRetryDelayAfterAttempt]
      split_ifs
      · exact durationFromSecs_pos (by decide)
      · exact hpos
    exact lt_min (Nat.add_pos_left hrest _) (durationFromSecs_pos (by decide))

/-! ## The control thread -/

/-- The URL of a session is built from the token of the moment. -/
structure ControlThreadWorld (W : Type) extends ControlWorld W where
  tunnelControlUrl : W → Except ProtocolError String × W
  sleep : ℕ → W → Unit × W

namespace ControlThread

open Program

variable {W : Type} (world : ControlThreadWorld W)

/-- One attempt at a session, and whether it succeeded. -/
def attemptSession (agentVersion : String) (dataTransports : List String) (fuel : ℕ) :
    ControlSession W Bool := do
  let url ← perform .url world.tunnelControlUrl
  match url with
  | .error _ => return false
  | .ok _ => do
    let ended ← attempt (ControlSession.runTunnelControlSession world.toControlWorld agentVersion
      dataTransports fuel)
    match ended with
    | .ok () => return true
    | .error (.failed _) => return false
    | .error .unfinished => stop .unfinished

/-- One turn of the loop of the thread. -/
def threadRound (agentVersion : String) (dataTransports : List String) (fuel retryDelay : ℕ) :
    ControlSession W (ℕ ⊕ Empty) := do
  let succeeded ← attemptSession world agentVersion dataTransports fuel
  let (rest, retryDelay) := controlRetryDelayAfterAttempt retryDelay succeeded
  perform (fun _ => .rest rest) (world.sleep rest)
  return .inl retryDelay

def run (agentVersion : String) (dataTransports : List String) (fuel : ℕ) :
    ControlSession W Empty :=
  iterate .unfinished (threadRound world agentVersion dataTransports fuel) fuel
    (durationFromSecs 5)

/-- The rests in a trace. -/
def rests (t : ControlSession.Trace) : List ℕ :=
  t.filterMap fun
    | .rest duration => some duration
    | _ => none

section Outcomes

variable (parse : List UInt8 → Except String TunnelControlServerMessage)

/-- How the attempts before the rests of a trace ended, with the events before it. -/
def outcomesAfter (before : ControlSession.Trace) : ControlSession.Trace → List Bool
  | [] => []
  | .rest duration :: t =>
    ControlSession.endsWell parse before :: outcomesAfter (before ++ [.rest duration]) t
  | event :: t => outcomesAfter (before ++ [event]) t

/-- For each rest, whether the attempt before it succeeded. -/
def outcomes (t : ControlSession.Trace) : List Bool := outcomesAfter parse [] t

variable {parse}

theorem outcomesAfter_append (before t t' : ControlSession.Trace) :
    outcomesAfter parse before (t ++ t') =
      outcomesAfter parse before t ++ outcomesAfter parse (before ++ t) t' := by
  induction t generalizing before with
  | nil => rw [List.nil_append, List.append_nil, outcomesAfter, List.nil_append]
  | cons event t ih =>
    have happend : before ++ event :: t = before ++ [event] ++ t := by
      rw [List.append_assoc, List.singleton_append]
    rw [List.cons_append, happend]
    cases event <;> simp only [outcomesAfter, ih, List.cons_append]

/-- Without a rest there is no outcome. -/
theorem outcomesAfter_eq_nil {before t : ControlSession.Trace} (h : rests t = []) :
    outcomesAfter parse before t = [] := by
  induction t generalizing before with
  | nil => rfl
  | cons event t ih =>
    cases event with
    | rest duration => cases h
    | _ => exact ih h

theorem outcomes_append (t t' : ControlSession.Trace) :
    outcomes parse (t ++ t') = outcomes parse t ++ outcomesAfter parse t t' := by
  rw [outcomes, outcomesAfter_append, List.nil_append, outcomes]

end Outcomes

/-- Acknowledgements fit, in whichever session they are sent. -/
def AckAllowed (t : ControlSession.Trace) : ControlEvent → Prop
  | .send (.ruleAck revision accepted rejected) _ =>
    ControlSession.AckFits t (.ruleAck revision accepted rejected)
  | _ => True

/-- What holds of the thread at every moment. -/
structure Kept (parse : List UInt8 → Except String TunnelControlServerMessage)
    (t : ControlSession.Trace) : Prop where
  acks : Throughout AckAllowed t
  rested : rests t =
    retryRests controlRetryDelayAfterAttempt (durationFromSecs 5) (outcomes parse t)

/-- The state of the loop: its delay is the one after all outcomes so far. -/
structure Looping (parse : List UInt8 → Except String TunnelControlServerMessage) (retryDelay : ℕ)
    (t : ControlSession.Trace) : Prop extends Kept parse t where
  delay : retryDelayAfter controlRetryDelayAfterAttempt (durationFromSecs 5) (outcomes parse t) =
    retryDelay

section Loop

variable {world} {parse : List UInt8 → Except String TunnelControlServerMessage} {retryDelay : ℕ}
  {t s : ControlSession.Trace}

/-- Events without a rest. -/
theorem Looping.append (h : Looping parse retryDelay t) (hrests : rests s = [])
    (hacks : Throughout AckAllowed (t ++ s)) : Looping parse retryDelay (t ++ s) := by
  have houtcomes : outcomes parse (t ++ s) = outcomes parse t := by
    rw [outcomes_append, outcomesAfter_eq_nil hrests, List.append_nil]
  refine ⟨⟨hacks, ?_⟩, houtcomes ▸ h.delay⟩
  rw [houtcomes, rests, List.filterMap_append, ← rests, ← rests, hrests, List.append_nil]
  exact h.rested

/-- A session adds no rests. -/
theorem Looping.session (h : Looping parse retryDelay t) {hello : TunnelControlClientMessage}
    {paced : Bool} (hs : Throughout (ControlSession.Allowed parse hello paced) s) :
    Looping parse retryDelay (t ++ s) := by
  refine h.append ?_ (h.acks.append fun before event after heq => ?_)
  · refine List.filterMap_eq_nil_iff.mpr fun event hmem => ?_
    obtain ⟨before, after, rfl⟩ := List.append_of_mem hmem
    have hfits := (hs before event after rfl).2
    cases event with
    | rest => exact hfits.elim
    | _ => rfl
  · have hfits := (hs before event after heq).2
    match event with
    | .send (.ruleAck revision accepted rejected) _ =>
      obtain ⟨earlier, revision', rules, rfl, hmessage⟩ := hfits
      exact ⟨t ++ earlier, revision', rules, (List.append_assoc _ _ _).symm, hmessage⟩
    | .send (.hello ..) _ | .send (.heartbeat ..) _ | .send (.ruleStatus ..) _ => trivial
    | .connect _ | .read _ | .updateRules _ _ | .now _ | .elapsed _ | .url _ | .rest _ => trivial

/-- The outcome that the thread knows is the one that is seen from the trace. -/
theorem ensures_attemptSession {agentVersion : String} {dataTransports : List String} {fuel : ℕ}
    (h : Looping world.parseServerMessage retryDelay t) :
    Program.Ensures (attemptSession world agentVersion dataTransports fuel)
      (fun succeeded t => Looping world.parseServerMessage retryDelay t ∧
        ControlSession.endsWell world.parseServerMessage t = succeeded)
      (fun _ => Kept world.parseServerMessage) t := by
  refine Program.Ensures.bind (Program.Ensures.perform fun url => ?_)
  have hurl : Looping world.parseServerMessage retryDelay (t ++ [.url url]) :=
    h.append rfl (h.acks.concat trivial)
  have hnot : ControlSession.endsWell world.parseServerMessage (t ++ [.url url]) = false :=
    ControlSession.endsWell_concat _ _ _
  cases url with
  | error _ => exact Program.Ensures.pure ⟨hurl, hnot⟩
  | ok url =>
    have hsession : ∀ s ok, ControlSession.Ended world.toControlWorld
        (buildHelloWithDataTransports agentVersion dataTransports) true (some ok) s →
        Looping world.parseServerMessage retryDelay (t ++ [.url (.ok url)] ++ s) ∧
          ControlSession.endsWell world.parseServerMessage (t ++ [.url (.ok url)] ++ s) = ok :=
      fun s ok hs => ⟨hurl.session hs.throughout,
        (ControlSession.endsWell_append hnot s).trans (hs.outcome rfl ok rfl)⟩
    refine Program.Ensures.bind (Program.Ensures.attempt
      (((ControlSession.ensures_runTunnelControlSession world.toControlWorld agentVersion
        dataTransports fuel).after _).mono ?_ ?_))
    · rintro _ _ ⟨s, rfl, hs⟩
      exact Program.Ensures.pure (hsession s true hs)
    · rintro reason _ ⟨s, rfl, hs⟩
      cases reason with
      | failed error => exact Program.Ensures.pure (hsession s false hs)
      | unfinished => exact Program.Ensures.stop (hurl.session hs.throughout).toKept

theorem Looping.rest (h : Looping parse retryDelay t) {succeeded : Bool}
    (hends : ControlSession.endsWell parse t = succeeded) :
    Looping parse (controlRetryDelayAfterAttempt retryDelay succeeded).2
      (t ++ [.rest (controlRetryDelayAfterAttempt retryDelay succeeded).1]) := by
  have hrests : rests (t ++ [.rest (controlRetryDelayAfterAttempt retryDelay succeeded).1]) =
      rests t ++ [(controlRetryDelayAfterAttempt retryDelay succeeded).1] := by
    rw [rests, List.filterMap_append]
    rfl
  have houtcomes : outcomes parse
        (t ++ [.rest (controlRetryDelayAfterAttempt retryDelay succeeded).1]) =
      outcomes parse t ++ [succeeded] := by
    rw [outcomes_append, outcomesAfter, hends, outcomesAfter]
  refine ⟨⟨h.acks.concat trivial, ?_⟩, ?_⟩
  · rw [hrests, houtcomes, h.rested, retryRests_append, h.delay]
    rfl
  · rw [houtcomes, retryDelayAfter_concat, h.delay]

theorem looping_nil : Looping parse (durationFromSecs 5) [] := by
  refine ⟨⟨throughout_nil, ?_⟩, ?_⟩
  · rw [outcomes, outcomesAfter]
    rfl
  · rw [outcomes, outcomesAfter]
    rfl

theorem ensures_run (world : ControlThreadWorld W) (agentVersion : String)
    (dataTransports : List String) (fuel : ℕ) :
    Program.Ensures (run world agentVersion dataTransports fuel)
      (fun _ => Kept world.parseServerMessage) (fun _ => Kept world.parseServerMessage) [] := by
  refine Program.Ensures.iterate (I := Looping world.parseServerMessage)
    (E := fun _ => Kept world.parseServerMessage) (fun _ _ h => h.toKept) ?_ fuel looping_nil
  intro retryDelay t h
  refine (ensures_attemptSession h).seq ?_
  rintro succeeded t ⟨h, hends⟩
  refine Program.Ensures.bind (Program.Ensures.perform fun _ => ?_)
  exact Program.Ensures.pure (h.rest hends)

end Loop

/-- **How both threads come back to the server.** In every run of the control thread the rests are
those of a backoff: five seconds if the first attempt fails, twice as long after each further
failure, fifteen seconds after a success, never more than a minute. Whether an attempt succeeded is
seen from the event before the rest. The data thread rests in the same way after equal
outcomes. -/
theorem thread_rests (world : ControlThreadWorld W) (agentVersion : String)
    (dataTransports : List String) (fuel : ℕ) (w : W) :
    rests (run world agentVersion dataTransports fuel w).trace =
      backoffs (outcomes world.parseServerMessage
        (run world agentVersion dataTransports fuel w).trace) ∧
    ∀ outcomes, retryRests tunnelDataReconnectDelayAfterAttempt (durationFromSecs 5) outcomes =
      backoffs outcomes := by
  have hkept := (ensures_run world agentVersion dataTransports fuel).always w
  refine ⟨hkept.rested.trans (retryRests_eq_backoffs _), fun outcomes => ?_⟩
  rw [retryRests_tunnelData _ (durationFromSecs_pos (by decide)) (durationFromSecs_le (by decide)),
    retryRests_eq_backoffs]

end ControlThread

/-! ## Acknowledged rules -/

namespace TunnelThreads

open ControlSession (updates lastSync)

theorem controlTrace_append (actions actions' : List ThreadAction) :
    controlTrace (actions ++ actions') = controlTrace actions ++ controlTrace actions' :=
  List.filterMap_append

/-- **Acknowledged rules are in force.** In every interleaving of the control thread with the data
thread: once a sync has been acknowledged, a READY state has its revision and mentions only the
rules that were acknowledged, or has those of the last sync since. -/
theorem ready_after_ack {W : Type} (world : ControlThreadWorld W) (agentVersion : String)
    (dataTransports : List String) (fuel : ℕ) (w : W) (runtimeTransport : String)
    {before after : List ThreadAction} {revision : String} {accepted : List UInt64}
    {rejected : List RejectedTunnelRule} {result : Except TransportError Unit}
    (hcontrol : controlTrace
        (before ++ .control (.send (.ruleAck revision accepted rejected) result) :: after) <+:
      (ControlThread.run world agentVersion dataTransports fuel w).trace)
    (host : TunnelHost) (dataTransport : String) :
    (updates (controlTrace after) = [] →
      (((new runtimeTransport).run
        (before ++ .control (.send (.ruleAck revision accepted rejected) result) ::
          after)).currentReady host dataTransport).Within revision accepted) ∧
    ∀ sync ∈ (updates (controlTrace after)).getLast?,
      (((new runtimeTransport).run
        (before ++ .control (.send (.ruleAck revision accepted rejected) result) ::
          after)).currentReady host dataTransport).Within (Text.trim sync.1)
            (sync.2.map (·.id)) := by
  have hwithin := within_currentReady runtimeTransport
    (before ++ .control (.send (.ruleAck revision accepted rejected) result) :: after) host
    dataTransport
  -- the rules were applied just before the acknowledgement
  have hkept := (ControlThread.ensures_run world agentVersion dataTransports fuel).always w
  obtain ⟨rest, hrest⟩ := hcontrol
  rw [controlTrace_append, List.append_assoc] at hrest
  obtain ⟨earlier, revision', rules, hbefore, hmessage⟩ := hkept.acks _ _ _ hrest.symm
  have hlast : lastSync (controlTrace
      (before ++ .control (.send (.ruleAck revision accepted rejected) result) :: after)) =
      (updates (controlTrace after)).getLast?.getD (revision', rules) := by
    rw [controlTrace_append, hbefore, ControlSession.lastSync_append,
      ControlSession.lastSync_append]
    rfl
  rw [hlast] at hwithin
  cases hmessage
  refine ⟨fun hnone => ?_, fun sync hsync => ?_⟩
  · rwa [hnone] at hwithin
  · rwa [Option.mem_def.mp hsync] at hwithin

/-- A server that syncs one rule and then closes the connection; the world counts the reads. -/
def syncingWorld : ControlThreadWorld ℕ where
  connectTunnelControl := fun w => (.ok (), w)
  sendMessage := fun _ w => (.ok (), w)
  readMessage := fun w => if w = 0 then (.ok (some []), 1) else (.error .socketClosed, w)
  parseServerMessage := fun _ => .ok (.ruleSync " 2 " [TunnelTcpRuntime.localRule])
  updateRules := fun _ _ w => ((), w)
  now := fun w => (0, w)
  tunnelControlUrl := fun w => (.ok "", w)
  sleep := fun _ w => ((), w)

/-- What the control thread does up to the acknowledgement, and a refresh of the data thread after
the rules were applied. -/
def acknowledgedSync : List ThreadAction :=
  (((ControlThread.run syncingWorld "1" [] 2 0).trace.take 6).map .control) ++ .refresh ::
    List.replicate 8 (.advance none)

theorem ready_after_ack_syncing :
    (((new "websocket").run (acknowledgedSync ++
      [.control (.send (.ruleAck "2" [7] []) (.ok ()))])).currentReady TunnelTcpRuntime.openHost
        "websocket").ingressRuleIds = [7] ∧
    (((new "websocket").run (acknowledgedSync ++
      [.control (.send (.ruleAck "2" [7] []) (.ok ()))])).currentReady TunnelTcpRuntime.openHost
        "websocket").Within "2" [7] := by
  refine ⟨by decide +kernel, ?_⟩
  exact (ready_after_ack syncingWorld "1" [] 2 0 "websocket" ⟨_, rfl⟩ TunnelTcpRuntime.openHost
    "websocket").1 rfl

end TunnelThreads

end KeliAgent
