import KeliAgent.Tunnel.Ready

/-!
# Listeners and their health

The shared rule state and the listeners of one runtime on it (`tunnel_runtime.rs`): syncs of the
rules, refreshes in which every start of a listener may fail, terminal events, and health that is
set from outside.

* `Coherent`: the handles of the runtime are those that the core started, the active listeners are
  among them, and every health entry is the one recorded last; kept by every operation.
* **`ready_ingress_listens`**: READY lists an ingress rule only with a started listener whose last
  recorded health is that it runs.
* **`updateRules_keeps_iff`**: a sync leaves the listeners of a transport alone exactly if their
  identities are also those of websocket rules in lower case.
-/

namespace KeliAgent

/-! ## The shared rule state -/

structure TunnelRuleSharedState where
  revision : String
  rules : List SelectedTunnelRule
  activeListeners : List TunnelTcpListenerSpec
  listenerHealth : List TunnelListenerHealth

/-- `recorded` is a history that no function reads: each health that was put on the list, the newest
first. -/
structure SharedTunnelRuleState where
  inner : TunnelRuleSharedState
  recorded : List TunnelListenerHealth

def compareListenerHealth (left right : TunnelListenerHealth) : Ordering :=
  (compare left.spec.ruleId right.spec.ruleId).then <|
    (compare left.spec.listenAddress right.spec.listenAddress).then <|
      (compare left.spec.listenPort right.spec.listenPort).then <|
        compare left.spec.sourceAllowlist right.spec.sourceAllowlist

def sortListenerHealth (health : List TunnelListenerHealth) : List TunnelListenerHealth :=
  health.insertionSort fun left right => (compareListenerHealth left right).isLE = true

theorem mem_sortListenerHealth {entry : TunnelListenerHealth} {health : List TunnelListenerHealth} :
    entry ∈ sortListenerHealth health ↔ entry ∈ health :=
  List.mem_insertionSort _

def retainListenerHealthForSpecs (health : List TunnelListenerHealth)
    (specs : List TunnelTcpListenerSpec) : List TunnelListenerHealth :=
  health.filter fun entry => specs.any fun spec => sameListenerIdentity entry.spec spec

namespace SharedTunnelRuleState

def new : SharedTunnelRuleState := ⟨⟨"", [], [], []⟩, []⟩

variable (state : SharedTunnelRuleState)

def readySnapshot : ListenerSnapshot := ⟨state.inner.activeListeners, state.inner.listenerHealth⟩

def currentReadyForDataTransport (host : TunnelHost) (dataTransport : String) :
    TunnelDataReadyState :=
  buildTunnelReadyState host state.readySnapshot state.inner.revision state.inner.rules
    dataTransport

def tcpListenerPlanForDataTransport (dataTransport : String) : List TunnelTcpListenerSpec :=
  buildTcpListenerPlanForDataTransport state.inner.rules dataTransport

def setListenerHealth (health : TunnelListenerHealth) : SharedTunnelRuleState where
  inner := { state.inner with
    listenerHealth := sortListenerHealth
      ((state.inner.listenerHealth.filter fun existing =>
        !sameListenerIdentity existing.spec health.spec) ++ [health]) }
  recorded := health :: state.recorded

def setListenerRunning (spec : TunnelTcpListenerSpec) : SharedTunnelRuleState :=
  state.setListenerHealth (.ofRunning spec)

def setListenerStartFailed (spec : TunnelTcpListenerSpec) (error : String) :
    SharedTunnelRuleState :=
  state.setListenerHealth (.failure spec .startFailed error)

def setListenerStopped (spec : TunnelTcpListenerSpec) (error : String) : SharedTunnelRuleState :=
  state.setListenerHealth (.failure spec .stopped error)

def setListenerRuntimeError (spec : TunnelTcpListenerSpec) (error : String) :
    SharedTunnelRuleState :=
  state.setListenerHealth (.failure spec .runtimeError error)

/-- The method `retain_listener_health_for_specs`. -/
def retainListenerHealth (specs : List TunnelTcpListenerSpec) : SharedTunnelRuleState :=
  { state with inner := { state.inner with
      listenerHealth := retainListenerHealthForSpecs state.inner.listenerHealth specs } }

/-- A listener without health counts as running. -/
def pushMissingHealth (listener : TunnelTcpListenerSpec) : SharedTunnelRuleState :=
  if state.inner.listenerHealth.any fun health => sameListenerIdentity health.spec listener then
    state
  else
    { inner := { state.inner with
        listenerHealth := state.inner.listenerHealth ++ [.ofRunning listener] }
      recorded := .ofRunning listener :: state.recorded }

def setActiveTcpListeners (listeners : List TunnelTcpListenerSpec) : SharedTunnelRuleState :=
  let listeners := sortByRuleId listeners
  let retained : SharedTunnelRuleState := { state with inner := { state.inner with
    activeListeners := listeners
    listenerHealth := state.inner.listenerHealth.filter fun health =>
      health.status ≠ .running ∨
        (listeners.any fun listener => sameListenerIdentity health.spec listener) = true } }
  let pushed := listeners.foldl pushMissingHealth retained
  { pushed with inner := { pushed.inner with
      listenerHealth := sortListenerHealth pushed.inner.listenerHealth } }

/-- The plan that a sync prunes with is that of the websocket transport. -/
def updateRules (revision : String) (rules : List SelectedTunnelRule) : SharedTunnelRuleState :=
  let plan := buildTcpListenerPlan rules
  { state with inner :=
    { revision := Text.trim revision
      rules
      activeListeners := state.inner.activeListeners.filter fun listener =>
        plan.any fun spec => sameListenerIdentity listener spec
      listenerHealth := retainListenerHealthForSpecs state.inner.listenerHealth plan } }

end SharedTunnelRuleState

/-! ## The listeners of a runtime -/

/-- The part of `TunnelTcpRuntime` that is about listeners: the handles in `listeners`, the tasks
that the core runs for them, and the events that wait in the channel. -/
structure TunnelTcpListeners where
  ruleState : SharedTunnelRuleState
  dataTransport : String
  listeners : AList fun _ : UInt64 => TunnelTcpListenerSpec
  coreListeners : AList fun _ : UInt64 => TunnelTcpListenerSpec
  listenerEvents : List TunnelTcpListenerSpec

namespace TunnelTcpListeners

def new (ruleState : SharedTunnelRuleState) (dataTransport : String) : TunnelTcpListeners where
  ruleState
  dataTransport := normalizeDataTransportFilter dataTransport
  listeners := ∅
  coreListeners := ∅
  listenerEvents := []

variable (runtime : TunnelTcpListeners)

def syncActiveListenerSnapshot : TunnelTcpListeners :=
  { runtime with
    ruleState := runtime.ruleState.setActiveTcpListeners (runtime.listeners.entries.map (·.2)) }

/-- The handle is removed and `stop_ingress_listener` called. -/
def stopListener (ruleId : UInt64) : TunnelTcpListeners :=
  { runtime with
    listeners := runtime.listeners.erase ruleId
    coreListeners := runtime.coreListeners.erase ruleId }

/-- `start_ingress_listener` succeeded and the handle is inserted. -/
def insertListener (spec : TunnelTcpListenerSpec) : TunnelTcpListeners :=
  { runtime with
    listeners := runtime.listeners.insert spec.ruleId spec
    coreListeners := runtime.coreListeners.insert spec.ruleId spec }

/-- One terminal event; it counts only for the listener that it names. -/
def drainEvent (drained : List TunnelTcpListenerSpec × TunnelTcpListeners)
    (event : TunnelTcpListenerSpec) : List TunnelTcpListenerSpec × TunnelTcpListeners :=
  match drained.2.listeners.lookup event.ruleId with
  | none => drained
  | some handle =>
    if sameListenerIdentity handle event then
      (drained.1 ++ [event], drained.2.stopListener event.ruleId)
    else drained

def drainListenerRuntimeEvents : List TunnelTcpListenerSpec × TunnelTcpListeners :=
  let drained := runtime.listenerEvents.foldl drainEvent ([], { runtime with listenerEvents := [] })
  if drained.1 = [] then drained else (drained.1, drained.2.syncActiveListenerSnapshot)

def keepsListener (plan : List TunnelTcpListenerSpec) (ruleId : UInt64)
    (handle : TunnelTcpListenerSpec) : Bool :=
  (plan.any fun spec => spec.ruleId == ruleId) &&
    ((plan.find? fun spec => spec.ruleId == ruleId).map fun spec =>
      sameListenerEndpoint spec handle).getD false

/-- `listeners.retain`: what the plan does not keep is stopped. -/
def retainListeners (plan : List TunnelTcpListenerSpec) : TunnelTcpListeners :=
  ((runtime.listeners.entries.filter fun entry => !keepsListener plan entry.1 entry.2).map
    (·.1)).foldl stopListener runtime

/-- One entry of the plan; `start` is the error of the attempt, if it fails. -/
def startListener (start : ℕ → Option String) (terminal : List TunnelTcpListenerSpec)
    (runtime : TunnelTcpListeners) (entry : TunnelTcpListenerSpec × ℕ) : TunnelTcpListeners :=
  if (runtime.listeners.lookup entry.1.ruleId).isSome then runtime
  else if terminal.any fun event => sameListenerIdentity event entry.1 then runtime
  else
    match start entry.2 with
    | none =>
      { runtime.insertListener entry.1 with
        ruleState := runtime.ruleState.setListenerRunning entry.1 }
    | some error =>
      { runtime with ruleState := runtime.ruleState.setListenerStartFailed entry.1 error }

def refreshListeners (start : ℕ → Option String) : TunnelTcpListeners :=
  let (terminal, runtime) := runtime.drainListenerRuntimeEvents
  let plan := runtime.ruleState.tcpListenerPlanForDataTransport runtime.dataTransport
  let runtime := { runtime with ruleState := runtime.ruleState.retainListenerHealth plan }
  let runtime := (runtime.retainListeners plan).syncActiveListenerSnapshot
  (plan.zipIdx.foldl (startListener start terminal) runtime).syncActiveListenerSnapshot

end TunnelTcpListeners

/-- What happens to the rule state and the listeners. -/
inductive ListenerOperation where
  | updateRules (revision : String) (rules : List SelectedTunnelRule)
  | refreshListeners (start : ℕ → Option String)
  | terminalEvent (spec : TunnelTcpListenerSpec)
  | setListenerHealth (health : TunnelListenerHealth)

namespace TunnelTcpListeners

def apply (runtime : TunnelTcpListeners) : ListenerOperation → TunnelTcpListeners
  | .updateRules revision rules =>
    { runtime with ruleState := runtime.ruleState.updateRules revision rules }
  | .refreshListeners start => runtime.refreshListeners start
  | .terminalEvent spec => { runtime with listenerEvents := runtime.listenerEvents ++ [spec] }
  | .setListenerHealth health =>
    { runtime with ruleState := runtime.ruleState.setListenerHealth health }

def run (runtime : TunnelTcpListeners) (operations : List ListenerOperation) :
    TunnelTcpListeners :=
  operations.foldl apply runtime

end TunnelTcpListeners

/-! ## The recorded health -/

namespace SharedTunnelRuleState

variable {state : SharedTunnelRuleState}

/-- The health recorded last for listeners of that identity. -/
def latestRecorded (state : SharedTunnelRuleState) (spec : TunnelTcpListenerSpec) :
    Option TunnelListenerHealth :=
  state.recorded.find? fun health => sameListenerIdentity health.spec spec

/-- Every health entry is the one recorded last. -/
def Latest (state : SharedTunnelRuleState) : Prop :=
  ∀ health ∈ state.inner.listenerHealth, state.latestRecorded health.spec = some health

/-- Entries may be dropped. -/
theorem Latest.mono {state' : SharedTunnelRuleState} (h : state.Latest)
    (hrecorded : state'.recorded = state.recorded)
    (hsub : ∀ health ∈ state'.inner.listenerHealth, health ∈ state.inner.listenerHealth) :
    state'.Latest := by
  intro health hmem
  rw [latestRecorded, hrecorded]
  exact h health (hsub health hmem)

/-- A new entry may be recorded, if all other entries are of other listeners. -/
theorem Latest.record {state' : SharedTunnelRuleState} (h : state.Latest)
    (health : TunnelListenerHealth) (hrecorded : state'.recorded = health :: state.recorded)
    (hsub : ∀ entry ∈ state'.inner.listenerHealth, entry = health ∨
      entry ∈ state.inner.listenerHealth ∧ sameListenerIdentity entry.spec health.spec = false) :
    state'.Latest := by
  intro entry hmem
  rw [latestRecorded, hrecorded]
  rcases hsub entry hmem with rfl | ⟨hold, hother⟩
  · exact List.find?_cons_of_pos (sameListenerIdentity_iff.mpr rfl)
  · rw [List.find?_cons_of_neg (by rw [sameListenerIdentity_comm, hother]; exact Bool.false_ne_true)]
    exact h entry hold

theorem latest_new : new.Latest := fun _ h => absurd h List.not_mem_nil

theorem Latest.setListenerHealth (h : state.Latest) (health : TunnelListenerHealth) :
    (state.setListenerHealth health).Latest := by
  refine h.record health rfl ?_
  intro entry hmem
  rw [SharedTunnelRuleState.setListenerHealth, mem_sortListenerHealth, List.mem_append,
    List.mem_filter, List.mem_singleton, Bool.not_eq_true'] at hmem
  exact hmem.symm

theorem Latest.retainListenerHealth (h : state.Latest) (specs : List TunnelTcpListenerSpec) :
    (state.retainListenerHealth specs).Latest :=
  h.mono rfl fun _ hmem => (List.mem_filter.mp hmem).1

theorem Latest.updateRules (h : state.Latest) (revision : String)
    (rules : List SelectedTunnelRule) : (state.updateRules revision rules).Latest :=
  h.mono rfl fun _ hmem => (List.mem_filter.mp hmem).1

theorem Latest.pushMissingHealth (h : state.Latest) (listener : TunnelTcpListenerSpec) :
    (state.pushMissingHealth listener).Latest := by
  unfold SharedTunnelRuleState.pushMissingHealth
  split_ifs with hany
  · exact h
  · refine h.record (.ofRunning listener) rfl ?_
    intro entry hmem
    rcases List.mem_append.mp hmem with hmem | hmem
    · refine Or.inr ⟨hmem, ?_⟩
      rw [List.any_eq_true, not_exists] at hany
      exact Bool.eq_false_iff.mpr fun hsame => hany entry ⟨hmem, hsame⟩
    · exact Or.inl (List.mem_singleton.mp hmem)

theorem Latest.setActiveTcpListeners (h : state.Latest) (listeners : List TunnelTcpListenerSpec) :
    (state.setActiveTcpListeners listeners).Latest := by
  refine Latest.mono (List.foldlRecOn (sortByRuleId listeners) _ ?_ ?_) rfl
    fun _ hmem => mem_sortListenerHealth.mp hmem
  · exact h.mono rfl fun _ hmem => (List.mem_filter.mp hmem).1
  · exact fun _ hpushed listener _ => hpushed.pushMissingHealth listener

/-- Pushes of health leave the active listeners and the rules alone. -/
theorem setActiveTcpListeners_frame (state : SharedTunnelRuleState)
    (listeners : List TunnelTcpListenerSpec) :
    (state.setActiveTcpListeners listeners).inner.activeListeners = sortByRuleId listeners ∧
      (state.setActiveTcpListeners listeners).inner.revision = state.inner.revision ∧
      (state.setActiveTcpListeners listeners).inner.rules = state.inner.rules := by
  unfold setActiveTcpListeners
  refine List.foldlRecOn
    (motive := fun pushed : SharedTunnelRuleState =>
      pushed.inner.activeListeners = sortByRuleId listeners ∧
        pushed.inner.revision = state.inner.revision ∧ pushed.inner.rules = state.inner.rules)
    (sortByRuleId listeners) pushMissingHealth ⟨rfl, rfl, rfl⟩ ?_
  intro pushed h listener _
  rw [pushMissingHealth]
  split_ifs <;> exact h

end SharedTunnelRuleState

/-! ## The invariant of runs -/

namespace TunnelTcpListeners

variable {runtime : TunnelTcpListeners}

/-- Handles are kept under the id of their rule and are those that the core started; every health
entry is the one recorded last. -/
structure Handled (runtime : TunnelTcpListeners) : Prop where
  keyed : ∀ {ruleId spec}, runtime.listeners.lookup ruleId = some spec → spec.ruleId = ruleId
  started : ∀ ruleId, runtime.coreListeners.lookup ruleId = runtime.listeners.lookup ruleId
  latest : runtime.ruleState.Latest

/-- Every active listener is among the handles. -/
structure Coherent (runtime : TunnelTcpListeners) : Prop extends Handled runtime where
  held : ∀ listener ∈ runtime.ruleState.inner.activeListeners,
    runtime.listeners.lookup listener.ruleId = some listener

theorem Handled.withRuleState (h : runtime.Handled) {ruleState : SharedTunnelRuleState}
    (hlatest : ruleState.Latest) : Handled { runtime with ruleState } :=
  ⟨h.keyed, h.started, hlatest⟩

theorem Handled.stopListener (h : runtime.Handled) (ruleId : UInt64) :
    (runtime.stopListener ruleId).Handled := by
  refine ⟨?_, ?_, h.latest⟩
  · intro ruleId' spec hspec
    by_cases hid : ruleId' = ruleId
    · rw [TunnelTcpListeners.stopListener, hid, AList.lookup_erase] at hspec
      cases hspec
    · rw [TunnelTcpListeners.stopListener, AList.lookup_erase_ne hid] at hspec
      exact h.keyed hspec
  · intro ruleId'
    by_cases hid : ruleId' = ruleId
    · rw [TunnelTcpListeners.stopListener, hid, AList.lookup_erase, AList.lookup_erase]
    · rw [TunnelTcpListeners.stopListener, AList.lookup_erase_ne hid, AList.lookup_erase_ne hid]
      exact h.started ruleId'

theorem Handled.insertListener (h : runtime.Handled) (spec : TunnelTcpListenerSpec) :
    (runtime.insertListener spec).Handled := by
  refine ⟨?_, ?_, h.latest⟩
  · intro ruleId spec' hspec
    by_cases hid : ruleId = spec.ruleId
    · rw [TunnelTcpListeners.insertListener, hid, AList.lookup_insert] at hspec
      rw [hid, Option.some.inj hspec]
    · rw [TunnelTcpListeners.insertListener, AList.lookup_insert_ne hid] at hspec
      exact h.keyed hspec
  · intro ruleId
    by_cases hid : ruleId = spec.ruleId
    · rw [TunnelTcpListeners.insertListener, hid, AList.lookup_insert, AList.lookup_insert]
    · rw [TunnelTcpListeners.insertListener, AList.lookup_insert_ne hid, AList.lookup_insert_ne hid]
      exact h.started ruleId

/-- With the snapshot in place, the active listeners are the handles. -/
theorem Handled.syncActiveListenerSnapshot (h : runtime.Handled) :
    runtime.syncActiveListenerSnapshot.Coherent := by
  refine ⟨h.withRuleState (h.latest.setActiveTcpListeners _), ?_⟩
  intro listener hmem
  rw [TunnelTcpListeners.syncActiveListenerSnapshot,
    (SharedTunnelRuleState.setActiveTcpListeners_frame _ _).1, mem_sortByRuleId,
    List.mem_map] at hmem
  obtain ⟨⟨ruleId, spec⟩, hentry, rfl⟩ := hmem
  have hlookup : runtime.listeners.lookup ruleId = some spec := AList.mem_lookup_iff.mpr hentry
  exact (h.keyed hlookup).symm ▸ hlookup

theorem Handled.drainEvent {drained : List TunnelTcpListenerSpec × TunnelTcpListeners}
    (h : drained.2.Handled) (event : TunnelTcpListenerSpec) :
    (TunnelTcpListeners.drainEvent drained event).2.Handled := by
  unfold TunnelTcpListeners.drainEvent
  split
  · exact h
  · split_ifs
    · exact h.stopListener _
    · exact h

theorem Handled.drainListenerRuntimeEvents (h : runtime.Handled) :
    runtime.drainListenerRuntimeEvents.2.Handled := by
  have hdrained : (runtime.listenerEvents.foldl TunnelTcpListeners.drainEvent
      ([], { runtime with listenerEvents := [] })).2.Handled :=
    List.foldlRecOn
      (motive := fun drained : List TunnelTcpListenerSpec × TunnelTcpListeners =>
        drained.2.Handled)
      runtime.listenerEvents _ ⟨h.keyed, h.started, h.latest⟩ fun _ h event _ => h.drainEvent event
  unfold TunnelTcpListeners.drainListenerRuntimeEvents
  simp only
  split_ifs
  · exact hdrained
  · exact hdrained.syncActiveListenerSnapshot.toHandled

/-- Only the listeners are touched. -/
theorem retainListeners_frame (runtime : TunnelTcpListeners) (plan : List TunnelTcpListenerSpec) :
    (runtime.retainListeners plan).ruleState = runtime.ruleState ∧
      (runtime.retainListeners plan).dataTransport = runtime.dataTransport ∧
      (runtime.retainListeners plan).listenerEvents = runtime.listenerEvents :=
  List.foldlRecOn
    (motive := fun stopped : TunnelTcpListeners => stopped.ruleState = runtime.ruleState ∧
      stopped.dataTransport = runtime.dataTransport ∧
      stopped.listenerEvents = runtime.listenerEvents)
    _ stopListener ⟨rfl, rfl, rfl⟩ fun _ h _ _ => h

theorem Handled.retainListeners (h : runtime.Handled) (plan : List TunnelTcpListenerSpec) :
    (runtime.retainListeners plan).Handled :=
  List.foldlRecOn _ _ h fun _ h ruleId _ => h.stopListener ruleId

theorem Handled.startListener (h : runtime.Handled) (start : ℕ → Option String)
    (terminal : List TunnelTcpListenerSpec) (entry : TunnelTcpListenerSpec × ℕ) :
    (TunnelTcpListeners.startListener start terminal runtime entry).Handled := by
  unfold TunnelTcpListeners.startListener
  split_ifs
  · exact h
  · exact h
  · split
    · exact (h.insertListener entry.1).withRuleState (h.latest.setListenerHealth _)
    · exact h.withRuleState (h.latest.setListenerHealth _)

theorem Handled.refreshListeners (h : runtime.Handled) (start : ℕ → Option String) :
    (runtime.refreshListeners start).Coherent := by
  have hdrained := h.drainListenerRuntimeEvents
  unfold TunnelTcpListeners.refreshListeners
  simp only
  generalize runtime.drainListenerRuntimeEvents.2.ruleState.tcpListenerPlanForDataTransport
    runtime.drainListenerRuntimeEvents.2.dataTransport = plan
  have hretained := (hdrained.withRuleState
    (hdrained.latest.retainListenerHealth plan)).retainListeners plan
  refine Handled.syncActiveListenerSnapshot (List.foldlRecOn _ _ ?_ ?_)
  · exact hretained.syncActiveListenerSnapshot.toHandled
  · exact fun _ h entry _ => h.startListener start _ entry

/-- Every operation keeps the listeners coherent. -/
theorem Coherent.apply (h : runtime.Coherent) (operation : ListenerOperation) :
    (runtime.apply operation).Coherent := by
  cases operation with
  | updateRules revision rules =>
    refine ⟨h.withRuleState (h.latest.updateRules revision rules), ?_⟩
    exact fun listener hmem => h.held listener (List.mem_filter.mp hmem).1
  | refreshListeners start => exact h.toHandled.refreshListeners start
  | terminalEvent spec => exact ⟨⟨h.keyed, h.started, h.latest⟩, h.held⟩
  | setListenerHealth health =>
    exact ⟨h.withRuleState (h.latest.setListenerHealth health), h.held⟩

/-- **The listeners are coherent after every sequence of operations.** -/
theorem coherent_run (dataTransport : String) (operations : List ListenerOperation) :
    ((new .new dataTransport).run operations).Coherent := by
  refine List.foldlRecOn operations _ ?_ fun _ h operation _ => Coherent.apply h operation
  refine ⟨⟨?_, fun _ => rfl, SharedTunnelRuleState.latest_new⟩, ?_⟩
  · intro ruleId spec hspec
    cases hspec
  · exact fun _ h => absurd h List.not_mem_nil

/-- The runtime holds a listener for the rule that the core started, with the address, port and
allowlist of the rule, and the health recorded last for it is that it runs. -/
def Listens (runtime : TunnelTcpListeners) (rule : SelectedTunnelRule) : Prop :=
  ∃ spec, runtime.listeners.lookup rule.id = some spec ∧
    runtime.coreListeners.lookup rule.id = some spec ∧
    Text.trim spec.listenAddress = Text.trim rule.listenAddress ∧
    spec.listenPort = rule.listenPort ∧
    Text.trim spec.sourceAllowlist = Text.trim rule.sourceAllowlist ∧
    ∃ health, runtime.ruleState.latestRecorded spec = some health ∧ health.status = .running

/-- With coherent listeners, a listener that READY finds running is one. -/
theorem Coherent.listens (h : runtime.Coherent) {rule : SelectedTunnelRule}
    (hruns : runtime.ruleState.readySnapshot.Runs (listenerSpecForRule rule)) :
    runtime.Listens rule := by
  obtain ⟨hactive, hhealth⟩ := hruns
  obtain ⟨listener, hmem, hsame⟩ := List.any_eq_true.mp hactive
  obtain ⟨health, hfind, hstatus⟩ := Option.map_eq_some_iff.mp hhealth
  have hidentity := sameListenerIdentity_iff.mp hsame
  have hlookup := h.held listener hmem
  simp only [TunnelTcpListenerSpec.identity, listenerSpecForRule, Prod.mk.injEq,
    Text.trim_trim] at hidentity
  obtain ⟨hid, haddress, hport, hallow⟩ := hidentity
  rw [hid] at hlookup
  refine ⟨listener, hlookup, (h.started _).trans hlookup, haddress, hport, hallow, health, ?_, hstatus⟩
  -- the health entry and the listener have the identity of the rule
  obtain ⟨hhealth, hof⟩ := ListenerSnapshot.healthOf_eq_some hfind
  have hentry := h.latest health hhealth
  have heq : listener.identity = health.spec.identity :=
    (sameListenerIdentity_iff.mp hsame).trans hof.symm
  rw [SharedTunnelRuleState.latestRecorded] at hentry ⊢
  rw [← hentry]
  congr 1
  funext recorded
  rw [sameListenerIdentity_comm, sameListenerIdentity_congr heq, sameListenerIdentity_comm]

/-- **READY lists an ingress rule only with its listener**, after every sequence of operations, and
its lists are strictly increasing. -/
theorem ready_ingress_listens (runtimeTransport : String) (operations : List ListenerOperation)
    (host : TunnelHost) (dataTransport : String) :
    (∀ ruleId ∈ (((new .new runtimeTransport).run operations).ruleState.currentReadyForDataTransport
          host dataTransport).ingressRuleIds,
      ∃ rule ∈ ((new .new runtimeTransport).run operations).ruleState.inner.rules,
        rule.id = ruleId ∧ rule.enabled = true ∧
        Text.lowercase (Text.trim rule.protocol) = "tcp" ∧
        ruleUsesDataTransport rule (normalizeDataTransportFilter dataTransport) = true ∧
        (Text.lowercase (Text.trim rule.role) = "ingress" ∨
          Text.lowercase (Text.trim rule.role) = "both") ∧
        host.allowlistIsValid rule.sourceAllowlist = true ∧
        ((new .new runtimeTransport).run operations).Listens rule) ∧
    ((((new .new runtimeTransport).run operations).ruleState.currentReadyForDataTransport host
        dataTransport).ingressRuleIds).Pairwise (· < ·) ∧
    ((((new .new runtimeTransport).run operations).ruleState.currentReadyForDataTransport host
        dataTransport).egressRuleIds).Pairwise (· < ·) := by
  have hcoherent := coherent_run runtimeTransport operations
  generalize (new .new runtimeTransport).run operations = runtime at hcoherent ⊢
  refine ⟨?_, sorted_readyRuleIds _ _ _ _ _ .ingress, sorted_readyRuleIds _ _ _ _ _ .egress⟩
  intro ruleId hlisted
  obtain ⟨rule, hmem, hid, hready, hpasses⟩ :=
    (mem_readyRuleIds host runtime.ruleState.readySnapshot _ _ _ .ingress _).mp hlisted
  obtain ⟨-, hallow, hruns⟩ := (passes_ingress_iff _ _).mp hpasses
  simp only [readyRule, TunnelPreflightSide.role, Bool.and_eq_true, Bool.or_eq_true,
    beq_iff_eq] at hready
  obtain ⟨⟨⟨henabled, htcp⟩, huses⟩, hrole⟩ := hready
  exact ⟨rule, hmem, hid, henabled, htcp, huses, hrole, hallow, hcoherent.listens hruns⟩

/-- The local rule after a sync and a refresh whose start succeeds. -/
theorem ready_ingress_listens_local :
    (((new .new "websocket").run
        [.updateRules "1" [TunnelTcpRuntime.localRule],
          .refreshListeners fun _ => none]).ruleState.currentReadyForDataTransport
      TunnelTcpRuntime.openHost "websocket").ingressRuleIds = [7] ∧
    ∃ rule, rule.id = 7 ∧
      ((new .new "websocket").run
        [.updateRules "1" [TunnelTcpRuntime.localRule],
          .refreshListeners fun _ => none]).Listens rule := by
  have hlisted : (((new .new "websocket").run
        [.updateRules "1" [TunnelTcpRuntime.localRule],
          .refreshListeners fun _ => none]).ruleState.currentReadyForDataTransport
      TunnelTcpRuntime.openHost "websocket").ingressRuleIds = [7] := by
    decide +kernel
  refine ⟨hlisted, ?_⟩
  obtain ⟨rule, -, hid, -, -, -, -, -, hlistens⟩ := (ready_ingress_listens "websocket" _
    TunnelTcpRuntime.openHost "websocket").1 7 (hlisted ▸ List.mem_singleton.mpr rfl)
  exact ⟨rule, hid, hlistens⟩

end TunnelTcpListeners

/-! ## Syncs of the rules -/

namespace SharedTunnelRuleState

/-- The identity is that of an ingress rule of the transport. -/
def Wanted (rules : List SelectedTunnelRule) (dataTransport : String)
    (spec : TunnelTcpListenerSpec) : Prop :=
  ∃ rule ∈ rules,
    readyRule (normalizeDataTransportFilter dataTransport) .ingress rule = true ∧
      (listenerSpecForRule rule).identity = spec.identity

/-- The identity is that of an ingress rule of the websocket transport with its role in lower
case. -/
def WantedByWebsocket (rules : List SelectedTunnelRule) (spec : TunnelTcpListenerSpec) : Prop :=
  ∃ rule ∈ rules,
    readyRule tunnelDataTransportWebsocket .ingress rule = true ∧
      writtenRole .ingress rule = true ∧ (listenerSpecForRule rule).identity = spec.identity

/-- The sync keeps the listeners and the health entries that rules of the transport want, and READY
lists the rules that it did not touch as before. -/
def SyncKeeps (host : TunnelHost) (state : SharedTunnelRuleState) (revision : String)
    (rules : List SelectedTunnelRule) (dataTransport : String) : Prop :=
  (∀ listener ∈ state.inner.activeListeners, Wanted rules dataTransport listener →
    listener ∈ (state.updateRules revision rules).inner.activeListeners) ∧
  (∀ health ∈ state.inner.listenerHealth, Wanted rules dataTransport health.spec →
    health ∈ (state.updateRules revision rules).inner.listenerHealth) ∧
  ∀ ruleId, (rules.filter fun rule => rule.id == ruleId) =
      (state.inner.rules.filter fun rule => rule.id == ruleId) →
    (ruleId ∈ ((state.updateRules revision rules).currentReadyForDataTransport host
        dataTransport).ingressRuleIds ↔
      ruleId ∈ (state.currentReadyForDataTransport host dataTransport).ingressRuleIds)

/-- The plan that a sync prunes with. -/
theorem any_listenerPlan {rules : List SelectedTunnelRule} {spec : TunnelTcpListenerSpec} :
    ((buildTcpListenerPlan rules).any fun planned => sameListenerIdentity spec planned) = true ↔
      WantedByWebsocket rules spec := by
  have hweb : normalizeDataTransportFilter tunnelDataTransportWebsocket =
      tunnelDataTransportWebsocket := by
    decide +kernel
  rw [List.any_eq_true]
  simp only [buildTcpListenerPlan, mem_listenerPlan, hweb, plansListener_iff,
    sameListenerIdentity_iff]
  constructor
  · rintro ⟨_, ⟨rule, hmem, ⟨hready, hwritten⟩, rfl⟩, hidentity⟩
    exact ⟨rule, hmem, hready, hwritten, hidentity.symm⟩
  · rintro ⟨rule, hmem, hready, hwritten, hidentity⟩
    exact ⟨_, ⟨rule, hmem, ⟨hready, hwritten⟩, rfl⟩, hidentity.symm⟩

theorem mem_activeListeners_updateRules {state : SharedTunnelRuleState} (revision : String)
    {rules : List SelectedTunnelRule} {listener : TunnelTcpListenerSpec} :
    listener ∈ (state.updateRules revision rules).inner.activeListeners ↔
      listener ∈ state.inner.activeListeners ∧ WantedByWebsocket rules listener := by
  rw [updateRules, List.mem_filter, any_listenerPlan]

theorem mem_listenerHealth_updateRules {state : SharedTunnelRuleState} (revision : String)
    {rules : List SelectedTunnelRule} {health : TunnelListenerHealth} :
    health ∈ (state.updateRules revision rules).inner.listenerHealth ↔
      health ∈ state.inner.listenerHealth ∧ WantedByWebsocket rules health.spec := by
  rw [updateRules, retainListenerHealthForSpecs, List.mem_filter, any_listenerPlan]

theorem WantedByWebsocket.congr {rules : List SelectedTunnelRule}
    {spec spec' : TunnelTcpListenerSpec} (h : WantedByWebsocket rules spec)
    (hidentity : spec.identity = spec'.identity) : WantedByWebsocket rules spec' := by
  obtain ⟨rule, hmem, hready, hwritten, hspec⟩ := h
  exact ⟨rule, hmem, hready, hwritten, hspec.trans hidentity⟩

/-- After a sync a listener runs if it did before and the websocket plan has its identity. -/
theorem runs_updateRules {state : SharedTunnelRuleState} {revision : String}
    {rules : List SelectedTunnelRule} {spec : TunnelTcpListenerSpec} :
    (state.updateRules revision rules).readySnapshot.Runs spec ↔
      state.readySnapshot.Runs spec ∧ WantedByWebsocket rules spec := by
  have hactive : (state.updateRules revision rules).readySnapshot.isActive spec = true ↔
      state.readySnapshot.isActive spec = true ∧ WantedByWebsocket rules spec := by
    rw [ListenerSnapshot.isActive, ListenerSnapshot.isActive, List.any_eq_true, List.any_eq_true]
    constructor
    · rintro ⟨listener, hmem, hsame⟩
      obtain ⟨hmem, hwanted⟩ := (mem_activeListeners_updateRules revision).mp hmem
      exact ⟨⟨listener, hmem, hsame⟩, hwanted.congr (sameListenerIdentity_iff.mp hsame)⟩
    · rintro ⟨⟨listener, hmem, hsame⟩, hwanted⟩
      have hkept : listener ∈ (state.updateRules revision rules).inner.activeListeners :=
        (mem_activeListeners_updateRules revision).mpr
          ⟨hmem, hwanted.congr (sameListenerIdentity_iff.mp hsame).symm⟩
      exact ⟨listener, hkept, hsame⟩
  -- the sync keeps all entries of an identity or none
  have hhealth (hwanted : WantedByWebsocket rules spec) :
      (state.updateRules revision rules).readySnapshot.healthOf spec =
        state.readySnapshot.healthOf spec := by
    simp only [ListenerSnapshot.healthOf, readySnapshot, updateRules, retainListenerHealthForSpecs,
      List.find?_filter]
    congr 1
    funext entry
    rw [Bool.eq_iff_iff, decide_eq_true_iff, and_iff_right_iff_imp]
    intro hsame
    exact any_listenerPlan.mpr (hwanted.congr (sameListenerIdentity_iff.mp hsame).symm)
  rw [ListenerSnapshot.Runs, hactive, ListenerSnapshot.Runs]
  constructor
  · rintro ⟨⟨hactive, hwanted⟩, hrunning⟩
    exact ⟨⟨hactive, hhealth hwanted ▸ hrunning⟩, hwanted⟩
  · rintro ⟨⟨hactive, hrunning⟩, hwanted⟩
    exact ⟨⟨hactive, hwanted⟩, (hhealth hwanted).symm ▸ hrunning⟩

/-- What READY lists after the sync in terms of the state before it. -/
theorem mem_ingressRuleIds_iff {host : TunnelHost} {state : SharedTunnelRuleState}
    {dataTransport : String} {ruleId : UInt64} :
    ruleId ∈ (state.currentReadyForDataTransport host dataTransport).ingressRuleIds ↔
      ∃ rule ∈ state.inner.rules.filter fun rule => rule.id == ruleId,
        readyRule (normalizeDataTransportFilter dataTransport) .ingress rule = true ∧
          host.osSupported = true ∧ host.allowlistIsValid rule.sourceAllowlist = true ∧
          state.readySnapshot.Runs (listenerSpecForRule rule) := by
  have hmem := mem_readyRuleIds host state.readySnapshot state.inner.revision dataTransport
    state.inner.rules .ingress ruleId
  simp only [passes_ingress_iff] at hmem
  simp only [List.mem_filter, beq_iff_eq, and_assoc]
  exact hmem

/-- **A sync leaves the listeners of a transport alone exactly if their identities are also those of
websocket rules in lower case.** -/
theorem updateRules_keeps_iff (host : TunnelHost) (state : SharedTunnelRuleState)
    (revision : String) (rules : List SelectedTunnelRule) (dataTransport : String) :
    state.SyncKeeps host revision rules dataTransport ↔
      (∀ listener ∈ state.inner.activeListeners, Wanted rules dataTransport listener →
        WantedByWebsocket rules listener) ∧
      ∀ health ∈ state.inner.listenerHealth, Wanted rules dataTransport health.spec →
        WantedByWebsocket rules health.spec := by
  constructor
  · rintro ⟨hactive, hhealth, -⟩
    exact ⟨fun listener hmem hwanted =>
        ((mem_activeListeners_updateRules revision).mp (hactive listener hmem hwanted)).2,
      fun health hmem hwanted =>
        ((mem_listenerHealth_updateRules revision).mp (hhealth health hmem hwanted)).2⟩
  · rintro ⟨hactive, hhealth⟩
    refine ⟨fun listener hmem hwanted =>
        (mem_activeListeners_updateRules revision).mpr ⟨hmem, hactive listener hmem hwanted⟩,
      fun health hmem hwanted =>
        (mem_listenerHealth_updateRules revision).mpr ⟨hmem, hhealth health hmem hwanted⟩, ?_⟩
    intro ruleId huntouched
    rw [mem_ingressRuleIds_iff, mem_ingressRuleIds_iff, ← huntouched]
    refine exists_congr fun rule => and_congr_right fun hmem => and_congr_right fun hready =>
      and_congr_right fun _ => and_congr_right fun _ => ?_
    rw [runs_updateRules, and_iff_left_iff_imp]
    rintro ⟨hruns, -⟩
    obtain ⟨listener, hlistener, hsame⟩ := List.any_eq_true.mp hruns
    have hidentity := sameListenerIdentity_iff.mp hsame
    exact (hactive listener hlistener
      ⟨rule, (List.mem_filter.mp hmem).1, hready, hidentity.symm⟩).congr hidentity

/-- The state of a runtime of the transport that serves the rule. -/
def serving (rule : SelectedTunnelRule) (dataTransport : String) : SharedTunnelRuleState :=
  ((TunnelTcpListeners.new .new dataTransport).run
    [.updateRules "1" [rule], .refreshListeners fun _ => none]).ruleState

/-- A second sync with the same rules drops the listener of a `ktp_tcp` rule, and READY no longer
lists the rule. -/
theorem sync_drops_ktp_listener :
    (serving { TunnelTcpRuntime.localRule with dataTransport := "ktp_tcp" }
        "ktp_tcp").inner.activeListeners.length = 1 ∧
    ((serving { TunnelTcpRuntime.localRule with dataTransport := "ktp_tcp" }
        "ktp_tcp").currentReadyForDataTransport TunnelTcpRuntime.openHost
          "ktp_tcp").ingressRuleIds = [7] ∧
    ((serving { TunnelTcpRuntime.localRule with dataTransport := "ktp_tcp" } "ktp_tcp").updateRules
      "2" [{ TunnelTcpRuntime.localRule with dataTransport := "ktp_tcp" }]).inner.activeListeners =
        [] ∧
    (((serving { TunnelTcpRuntime.localRule with dataTransport := "ktp_tcp" } "ktp_tcp").updateRules
      "2" [{ TunnelTcpRuntime.localRule with
        dataTransport := "ktp_tcp" }]).currentReadyForDataTransport TunnelTcpRuntime.openHost
          "ktp_tcp").ingressRuleIds = [] := by
  decide +kernel

end SharedTunnelRuleState

end KeliAgent
