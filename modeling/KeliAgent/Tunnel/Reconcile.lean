import KeliAgent.Tunnel.Listeners

/-!
# Reconciling the listeners with the plan

A refresh drains terminal events, stops what the plan does not keep, starts what is missing, and
writes the snapshot of active listeners twice. Every start may fail, and the plan may hold an id
more than once.

* `refreshStops`, `refreshStarts`: the calls of the core that a refresh makes.
* `Synced.setActiveTcpListeners`: writing a snapshot that is in place changes nothing.
* `Settled`: nothing is left to do for the runtime; a refresh of such a runtime changes nothing.
* **`refreshListeners_reconciles`**: what holds after every refresh, and that a second one does
  nothing after a first one that succeeded.
-/

namespace KeliAgent

/-! ## The snapshot of active listeners -/

theorem compareListenerHealth_eq : compareListenerHealth =
    compareLex (compareOn (·.spec.ruleId)) (compareLex (compareOn (·.spec.listenAddress))
      (compareLex (compareOn (·.spec.listenPort)) (compareOn (·.spec.sourceAllowlist)))) := rfl

instance : Std.TransCmp compareListenerHealth := by
  rw [compareListenerHealth_eq]
  infer_instance

theorem pairwise_sortListenerHealth (health : List TunnelListenerHealth) :
    (sortListenerHealth health).Pairwise fun left right =>
      (compareListenerHealth left right).isLE = true := by
  have htotal : Std.Total fun left right : TunnelListenerHealth =>
      (compareListenerHealth left right).isLE = true := by
    refine ⟨fun left right => ?_⟩
    cases h : compareListenerHealth left right with
    | lt => exact Or.inl rfl
    | eq => exact Or.inl rfl
    | gt =>
      have hlt : compareListenerHealth right left = .lt := Std.OrientedCmp.lt_of_gt h
      exact Or.inr (by rw [hlt]; rfl)
  have htrans : IsTrans TunnelListenerHealth fun left right =>
      (compareListenerHealth left right).isLE = true :=
    ⟨fun _ _ _ => Std.TransCmp.isLE_trans⟩
  exact List.pairwise_insertionSort _ health

namespace SharedTunnelRuleState

variable {state : SharedTunnelRuleState}

/-- The snapshot of active listeners is in place: they are sorted, and so is the health; only active
listeners run, and each of them has health. -/
structure Synced (state : SharedTunnelRuleState) (listeners : List TunnelTcpListenerSpec) :
    Prop where
  active : state.inner.activeListeners = sortByRuleId listeners
  running : ∀ health ∈ state.inner.listenerHealth, health.status = .running →
    ∃ listener ∈ sortByRuleId listeners, sameListenerIdentity health.spec listener = true
  covered : ∀ listener ∈ sortByRuleId listeners, ∃ health ∈ state.inner.listenerHealth,
    sameListenerIdentity health.spec listener = true
  sorted : state.inner.listenerHealth.Pairwise fun left right =>
    (compareListenerHealth left right).isLE = true

/-- The health after a push: what was there, and maybe the listener as running. -/
theorem mem_pushMissingHealth {listener : TunnelTcpListenerSpec} {health : TunnelListenerHealth}
    (h : health ∈ (state.pushMissingHealth listener).inner.listenerHealth) :
    health ∈ state.inner.listenerHealth ∨ health = .ofRunning listener := by
  unfold pushMissingHealth at h
  split_ifs at h
  · exact Or.inl h
  · exact (List.mem_append.mp h).imp_right List.mem_singleton.mp

theorem subset_pushMissingHealth (listener : TunnelTcpListenerSpec) :
    state.inner.listenerHealth ⊆ (state.pushMissingHealth listener).inner.listenerHealth := by
  unfold pushMissingHealth
  split_ifs
  · exact List.Subset.refl _
  · exact List.subset_append_left _ _

theorem covered_pushMissingHealth (state : SharedTunnelRuleState)
    (listener : TunnelTcpListenerSpec) :
    ∃ health ∈ (state.pushMissingHealth listener).inner.listenerHealth,
      sameListenerIdentity health.spec listener = true := by
  unfold pushMissingHealth
  split_ifs with hany
  · exact List.any_eq_true.mp hany
  · exact ⟨.ofRunning listener, List.mem_append_right _ (List.mem_singleton.mpr rfl),
      sameListenerIdentity_iff.mpr rfl⟩

/-- Pushing the missing health of a list of listeners. -/
theorem pushMissingHealth_foldl (listeners : List TunnelTcpListenerSpec)
    (state : SharedTunnelRuleState) :
    (∀ health ∈ (listeners.foldl pushMissingHealth state).inner.listenerHealth,
      health ∈ state.inner.listenerHealth ∨ ∃ listener ∈ listeners, health = .ofRunning listener) ∧
    state.inner.listenerHealth ⊆ (listeners.foldl pushMissingHealth state).inner.listenerHealth ∧
    ∀ listener ∈ listeners,
      ∃ health ∈ (listeners.foldl pushMissingHealth state).inner.listenerHealth,
        sameListenerIdentity health.spec listener = true := by
  induction listeners generalizing state with
  | nil => exact ⟨fun _ h => Or.inl h, List.Subset.refl _, fun _ h => absurd h List.not_mem_nil⟩
  | cons first listeners ih =>
    obtain ⟨hmem, hsub, hcovered⟩ := ih (state.pushMissingHealth first)
    refine ⟨fun health h => ?_, List.Subset.trans (subset_pushMissingHealth first) hsub, ?_⟩
    · rcases hmem health h with h | ⟨listener, hl, rfl⟩
      · rcases mem_pushMissingHealth h with h | rfl
        · exact Or.inl h
        · exact Or.inr ⟨first, List.mem_cons_self, rfl⟩
      · exact Or.inr ⟨listener, List.mem_cons_of_mem _ hl, rfl⟩
    · refine List.forall_mem_cons.mpr ⟨?_, hcovered⟩
      obtain ⟨health, hh, hsame⟩ := covered_pushMissingHealth state first
      exact ⟨health, hsub hh, hsame⟩

/-- The state with the listeners active and the health of others that run dropped. -/
def retainActive (state : SharedTunnelRuleState) (listeners : List TunnelTcpListenerSpec) :
    SharedTunnelRuleState :=
  { state with inner := { state.inner with
    activeListeners := listeners
    listenerHealth := state.inner.listenerHealth.filter fun health =>
      health.status ≠ .running ∨
        (listeners.any fun listener => sameListenerIdentity health.spec listener) = true } }

theorem setActiveTcpListeners_eq (state : SharedTunnelRuleState)
    (listeners : List TunnelTcpListenerSpec) :
    state.setActiveTcpListeners listeners =
      let pushed := (sortByRuleId listeners).foldl pushMissingHealth
        (state.retainActive (sortByRuleId listeners))
      { pushed with inner := { pushed.inner with
        listenerHealth := sortListenerHealth pushed.inner.listenerHealth } } := rfl

theorem synced_setActiveTcpListeners (state : SharedTunnelRuleState)
    (listeners : List TunnelTcpListenerSpec) :
    (state.setActiveTcpListeners listeners).Synced listeners := by
  have hactive := (setActiveTcpListeners_frame state listeners).1
  obtain ⟨hmem, -, hcovered⟩ := pushMissingHealth_foldl (sortByRuleId listeners)
    (state.retainActive (sortByRuleId listeners))
  rw [setActiveTcpListeners_eq] at hactive ⊢
  refine ⟨hactive, ?_, ?_, pairwise_sortListenerHealth _⟩
  · intro health hh hrunning
    rcases hmem health (mem_sortListenerHealth.mp hh) with hh | ⟨listener, hl, rfl⟩
    · have := of_decide_eq_true (List.mem_filter.mp hh).2
      exact List.any_eq_true.mp (this.resolve_left fun hne => hne hrunning)
    · exact ⟨listener, hl, sameListenerIdentity_iff.mpr rfl⟩
  · intro listener hl
    obtain ⟨health, hh, hsame⟩ := hcovered listener hl
    exact ⟨health, mem_sortListenerHealth.mpr hh, hsame⟩

/-- Every health entry is of a listener of the plan. -/
def Planned (state : SharedTunnelRuleState) (plan : List TunnelTcpListenerSpec) : Prop :=
  ∀ health ∈ state.inner.listenerHealth,
    ∃ spec ∈ plan, sameListenerIdentity health.spec spec = true

theorem planned_retainListenerHealth (state : SharedTunnelRuleState)
    (plan : List TunnelTcpListenerSpec) : (state.retainListenerHealth plan).Planned plan :=
  fun _ hh => List.any_eq_true.mp (List.mem_filter.mp hh).2

theorem Planned.retainListenerHealth {plan : List TunnelTcpListenerSpec} (h : state.Planned plan) :
    state.retainListenerHealth plan = state := by
  have hfilter : retainListenerHealthForSpecs state.inner.listenerHealth plan =
      state.inner.listenerHealth :=
    List.filter_eq_self.mpr fun health hh => List.any_eq_true.mpr (h health hh)
  rw [SharedTunnelRuleState.retainListenerHealth, hfilter]

theorem Planned.setListenerHealth {plan : List TunnelTcpListenerSpec} (h : state.Planned plan)
    (health : TunnelListenerHealth) (hspec : health.spec ∈ plan) :
    (state.setListenerHealth health).Planned plan := by
  intro entry hh
  rcases List.mem_append.mp (mem_sortListenerHealth.mp hh) with hh | hh
  · exact h entry (List.mem_filter.mp hh).1
  · cases List.mem_singleton.mp hh
    exact ⟨health.spec, hspec, sameListenerIdentity_iff.mpr rfl⟩

theorem Planned.setActiveTcpListeners {plan listeners : List TunnelTcpListenerSpec}
    (h : state.Planned plan)
    (hplanned : ∀ listener ∈ listeners, ∃ spec ∈ plan, sameListenerIdentity listener spec = true) :
    (state.setActiveTcpListeners listeners).Planned plan := by
  intro health hh
  rcases (pushMissingHealth_foldl (sortByRuleId listeners)
    (state.retainActive (sortByRuleId listeners))).1 health (mem_sortListenerHealth.mp hh) with
    hh | ⟨listener, hl, rfl⟩
  · exact h health (List.mem_filter.mp hh).1
  · exact hplanned listener (mem_sortByRuleId.mp hl)

theorem pushMissingHealth_of_covered {listener : TunnelTcpListenerSpec}
    (h : ∃ health ∈ state.inner.listenerHealth, sameListenerIdentity health.spec listener = true) :
    state.pushMissingHealth listener = state :=
  if_pos (List.any_eq_true.mpr h)

theorem Synced.retainActive {listeners : List TunnelTcpListenerSpec} (h : state.Synced listeners) :
    state.retainActive (sortByRuleId listeners) = state := by
  have hfilter : (state.inner.listenerHealth.filter fun health => health.status ≠ .running ∨
      ((sortByRuleId listeners).any fun listener => sameListenerIdentity health.spec listener) =
        true) = state.inner.listenerHealth := by
    refine List.filter_eq_self.mpr fun health hh => decide_eq_true ?_
    by_cases hrunning : health.status = .running
    · exact Or.inr (List.any_eq_true.mpr (h.running health hh hrunning))
    · exact Or.inl hrunning
  rw [SharedTunnelRuleState.retainActive, hfilter, ← h.active]

/-- **Writing a snapshot that is in place changes nothing.** -/
theorem Synced.setActiveTcpListeners {listeners : List TunnelTcpListenerSpec}
    (h : state.Synced listeners) : state.setActiveTcpListeners listeners = state := by
  have hfold : ∀ rest : List TunnelTcpListenerSpec, rest ⊆ sortByRuleId listeners →
      rest.foldl pushMissingHealth state = state := by
    intro rest
    induction rest with
    | nil => exact fun _ => rfl
    | cons first rest ih =>
      intro hsub
      rw [List.foldl_cons, pushMissingHealth_of_covered (h.covered first (hsub List.mem_cons_self))]
      exact ih fun _ hx => hsub (List.mem_cons_of_mem _ hx)
  rw [setActiveTcpListeners_eq, h.retainActive, hfold _ (List.Subset.refl _)]
  simp only [sortListenerHealth, h.sorted.insertionSort_eq]

end SharedTunnelRuleState

/-! ## The calls of a refresh -/

namespace TunnelTcpListeners

variable (runtime : TunnelTcpListeners)

/-- The plan that a refresh works on. -/
def plan : List TunnelTcpListenerSpec :=
  runtime.ruleState.tcpListenerPlanForDataTransport runtime.dataTransport

/-- The listeners that the retain pass stops. -/
def retainStops (plan : List TunnelTcpListenerSpec) : List UInt64 :=
  (runtime.listeners.entries.filter fun entry => !keepsListener plan entry.1 entry.2).map (·.1)

/-- The entry of the plan is attempted. -/
def attempts (terminal : List TunnelTcpListenerSpec) (spec : TunnelTcpListenerSpec) : Bool :=
  (runtime.listeners.lookup spec.ruleId).isNone &&
    !terminal.any fun event => sameListenerIdentity event spec

/-- The entries that the start pass attempts. -/
def startCalls (start : ℕ → Option String) (terminal : List TunnelTcpListenerSpec) :
    TunnelTcpListeners → List (TunnelTcpListenerSpec × ℕ) → List (TunnelTcpListenerSpec × ℕ)
  | _, [] => []
  | runtime, entry :: entries =>
    (if runtime.attempts terminal entry.1 then [entry] else []) ++
      startCalls start terminal (startListener start terminal runtime entry) entries

/-- The runtime between the retain pass and the start pass. -/
def retained : TunnelTcpListeners :=
  let drained := runtime.drainListenerRuntimeEvents.2
  ({ drained with ruleState := drained.ruleState.retainListenerHealth drained.plan }.retainListeners
    drained.plan).syncActiveListenerSnapshot

/-- The rule ids of all calls of `stop_ingress_listener`: for terminal events, then by the retain
pass. -/
def refreshStops : List UInt64 :=
  runtime.drainListenerRuntimeEvents.1.map (·.ruleId) ++
    runtime.drainListenerRuntimeEvents.2.retainStops runtime.drainListenerRuntimeEvents.2.plan

/-- All calls of `start_ingress_listener`. -/
def refreshStarts (start : ℕ → Option String) : List (TunnelTcpListenerSpec × ℕ) :=
  startCalls start runtime.drainListenerRuntimeEvents.1 runtime.retained
    runtime.drainListenerRuntimeEvents.2.plan.zipIdx

theorem refreshListeners_eq (start : ℕ → Option String) : runtime.refreshListeners start =
    (runtime.drainListenerRuntimeEvents.2.plan.zipIdx.foldl
      (startListener start runtime.drainListenerRuntimeEvents.1)
        runtime.retained).syncActiveListenerSnapshot := rfl

theorem retainListeners_eq (plan : List TunnelTcpListenerSpec) :
    runtime.retainListeners plan = (runtime.retainStops plan).foldl stopListener runtime := rfl

theorem listeners_syncActiveListenerSnapshot :
    runtime.syncActiveListenerSnapshot.listeners = runtime.listeners := rfl

theorem listenerEvents_syncActiveListenerSnapshot :
    runtime.syncActiveListenerSnapshot.listenerEvents = runtime.listenerEvents := rfl

variable {runtime}

/-! ### Stops -/

theorem lookup_stopListener (runtime : TunnelTcpListeners) (ruleId stopped : UInt64) :
    (runtime.stopListener stopped).listeners.lookup ruleId =
      if ruleId = stopped then none else runtime.listeners.lookup ruleId := by
  rw [stopListener]
  split_ifs with h
  · rw [h, AList.lookup_erase]
  · rw [AList.lookup_erase_ne h]

theorem lookup_foldl_stopListener (stopped : List UInt64) (runtime : TunnelTcpListeners)
    (ruleId : UInt64) : (stopped.foldl stopListener runtime).listeners.lookup ruleId =
      if ruleId ∈ stopped then none else runtime.listeners.lookup ruleId := by
  induction stopped generalizing runtime with
  | nil => rfl
  | cons first stopped ih =>
    rw [List.foldl_cons, ih, lookup_stopListener]
    by_cases h : ruleId = first <;> simp [h]

theorem mem_retainStops {plan : List TunnelTcpListenerSpec} {ruleId : UInt64} :
    ruleId ∈ runtime.retainStops plan ↔ ∃ handle, runtime.listeners.lookup ruleId = some handle ∧
      keepsListener plan ruleId handle = false := by
  simp only [retainStops, List.mem_map, List.mem_filter, Bool.not_eq_true']
  constructor
  · rintro ⟨⟨id, handle⟩, ⟨hentry, hkeeps⟩, rfl⟩
    exact ⟨handle, AList.mem_lookup_iff.mpr hentry, hkeeps⟩
  · rintro ⟨handle, hlookup, hkeeps⟩
    exact ⟨⟨ruleId, handle⟩, ⟨AList.mem_lookup_iff.mp hlookup, hkeeps⟩, rfl⟩

/-- The retain pass keeps a handle exactly if the plan does. -/
theorem lookup_retainListeners {plan : List TunnelTcpListenerSpec} {ruleId : UInt64}
    {handle : TunnelTcpListenerSpec} :
    (runtime.retainListeners plan).listeners.lookup ruleId = some handle ↔
      runtime.listeners.lookup ruleId = some handle ∧ keepsListener plan ruleId handle = true := by
  rw [retainListeners_eq, lookup_foldl_stopListener]
  by_cases hmem : ruleId ∈ runtime.retainStops plan
  · rw [if_pos hmem]
    obtain ⟨handle', hlookup, hkeeps⟩ := mem_retainStops.mp hmem
    refine ⟨nofun, fun ⟨hlookup', hkeeps'⟩ => ?_⟩
    cases Option.some.inj (hlookup.symm.trans hlookup')
    rw [hkeeps] at hkeeps'
    cases hkeeps'
  · rw [if_neg hmem]
    refine ⟨fun hlookup => ⟨hlookup, ?_⟩, And.left⟩
    by_contra hkeeps
    exact hmem (mem_retainStops.mpr ⟨handle, hlookup, Bool.not_eq_true _ ▸ hkeeps⟩)

/-- A handle is kept if the first entry of the plan for its id has its address, port and
allowlist. -/
theorem keepsListener_iff {plan : List TunnelTcpListenerSpec} {ruleId : UInt64}
    {handle : TunnelTcpListenerSpec} : keepsListener plan ruleId handle = true ↔
      ∃ spec, (plan.find? fun spec => spec.ruleId == ruleId) = some spec ∧
        sameListenerEndpoint spec handle = true := by
  rw [keepsListener, Bool.and_eq_true]
  constructor
  · rintro ⟨-, h⟩
    cases hfind : plan.find? fun spec => spec.ruleId == ruleId with
    | none => rw [hfind] at h; cases h
    | some spec =>
      rw [hfind, Option.map_some, Option.getD_some] at h
      exact ⟨spec, rfl, h⟩
  · rintro ⟨spec, hfind, hsame⟩
    have hid : (spec.ruleId == ruleId) = true :=
      List.find?_some (p := fun spec : TunnelTcpListenerSpec => spec.ruleId == ruleId) hfind
    refine ⟨List.any_eq_true.mpr ⟨spec, List.mem_of_find?_eq_some hfind, hid⟩, ?_⟩
    rw [hfind, Option.map_some, Option.getD_some]
    exact hsame

/-! ### Terminal events -/

/-- The listener keeps its handle, and is not among the terminal ones. -/
theorem drainEvents_keeps {ruleId : UInt64} {handle : TunnelTcpListenerSpec}
    (events : List TunnelTcpListenerSpec)
    (hevents : ∀ event ∈ events, sameListenerIdentity handle event = false)
    (drained : List TunnelTcpListenerSpec × TunnelTcpListeners)
    (hlookup : drained.2.listeners.lookup ruleId = some handle)
    (hterminal : ∀ event ∈ drained.1, event.ruleId ≠ ruleId) :
    (events.foldl drainEvent drained).2.listeners.lookup ruleId = some handle ∧
      ∀ event ∈ (events.foldl drainEvent drained).1, event.ruleId ≠ ruleId := by
  induction events generalizing drained with
  | nil => exact ⟨hlookup, hterminal⟩
  | cons event events ih =>
    obtain ⟨hevent, hevents⟩ := List.forall_mem_cons.mp hevents
    refine ih hevents _ ?_ ?_
    all_goals unfold drainEvent
    all_goals split
    · exact hlookup
    · rename_i other hother
      split_ifs with hsame
      · rw [lookup_stopListener, if_neg]
        · exact hlookup
        · rintro rfl
          cases Option.some.inj (hlookup.symm.trans hother)
          rw [hevent] at hsame
          cases hsame
      · exact hlookup
    · exact hterminal
    · rename_i other hother
      split_ifs with hsame
      · intro event' hevent'
        rcases List.mem_append.mp hevent' with hevent' | hevent'
        · exact hterminal event' hevent'
        · cases List.mem_singleton.mp hevent'
          rintro rfl
          cases Option.some.inj (hlookup.symm.trans hother)
          rw [hevent] at hsame
          cases hsame
      · exact hterminal

theorem drainListenerRuntimeEvents_keeps {ruleId : UInt64} {handle : TunnelTcpListenerSpec}
    (hlookup : runtime.listeners.lookup ruleId = some handle)
    (hevents : ∀ event ∈ runtime.listenerEvents, sameListenerIdentity handle event = false) :
    runtime.drainListenerRuntimeEvents.2.listeners.lookup ruleId = some handle ∧
      ∀ event ∈ runtime.drainListenerRuntimeEvents.1, event.ruleId ≠ ruleId := by
  have hkeeps := drainEvents_keeps runtime.listenerEvents hevents
    ([], { runtime with listenerEvents := [] }) hlookup fun _ h => absurd h List.not_mem_nil
  unfold drainListenerRuntimeEvents
  simp only
  split_ifs
  · exact hkeeps
  · exact hkeeps

theorem drainListenerRuntimeEvents_of_nil (h : runtime.listenerEvents = []) :
    runtime.drainListenerRuntimeEvents = ([], runtime) := by
  have hruntime : ({ runtime with listenerEvents := [] } : TunnelTcpListeners) = runtime := by
    rw [← h]
  rw [drainListenerRuntimeEvents, h, List.foldl_nil, if_pos rfl, hruntime]

/-! ### What a refresh leaves alone -/

theorem plan_syncActiveListenerSnapshot (runtime : TunnelTcpListeners) :
    runtime.syncActiveListenerSnapshot.plan = runtime.plan := by
  rw [plan, plan, SharedTunnelRuleState.tcpListenerPlanForDataTransport,
    SharedTunnelRuleState.tcpListenerPlanForDataTransport, syncActiveListenerSnapshot,
    (SharedTunnelRuleState.setActiveTcpListeners_frame _ _).2.2]

/-- The drained events are gone, and the plan is as before. -/
theorem drainListenerRuntimeEvents_frame (runtime : TunnelTcpListeners) :
    runtime.drainListenerRuntimeEvents.2.plan = runtime.plan ∧
      runtime.drainListenerRuntimeEvents.2.listenerEvents = [] := by
  have hdrained := List.foldlRecOn
    (motive := fun drained : List TunnelTcpListenerSpec × TunnelTcpListeners =>
      drained.2.plan = runtime.plan ∧ drained.2.listenerEvents = [])
    runtime.listenerEvents drainEvent (b := ([], { runtime with listenerEvents := [] })) ⟨rfl, rfl⟩
    fun drained h event _ => by
      unfold drainEvent
      split
      · exact h
      · split_ifs <;> exact h
  unfold drainListenerRuntimeEvents
  simp only
  split_ifs
  · exact hdrained
  · exact ⟨(plan_syncActiveListenerSnapshot _).trans hdrained.1, hdrained.2⟩

theorem startListener_frame (start : ℕ → Option String) (terminal : List TunnelTcpListenerSpec)
    (runtime : TunnelTcpListeners) (entry : TunnelTcpListenerSpec × ℕ) :
    (startListener start terminal runtime entry).plan = runtime.plan ∧
      (startListener start terminal runtime entry).listenerEvents = runtime.listenerEvents := by
  unfold startListener
  split_ifs
  · exact ⟨rfl, rfl⟩
  · exact ⟨rfl, rfl⟩
  · split <;> exact ⟨rfl, rfl⟩

/-! ### Starts -/

section Starts

variable {start : ℕ → Option String} {terminal : List TunnelTcpListenerSpec}
  {entry : TunnelTcpListenerSpec × ℕ}

theorem startListener_of_not_attempts (h : runtime.attempts terminal entry.1 = false) :
    startListener start terminal runtime entry = runtime := by
  rw [attempts, Bool.and_eq_false_iff] at h
  unfold startListener
  split_ifs with hsome hterminal
  · rfl
  · rfl
  · rcases h with h | h
    · rw [Option.isNone_eq_false_iff] at h
      exact absurd h hsome
    · rw [Bool.not_eq_false'] at h
      exact absurd h hterminal

theorem lookup_of_attempts (h : runtime.attempts terminal entry.1 = true) :
    runtime.listeners.lookup entry.1.ruleId = none := by
  rw [attempts, Bool.and_eq_true, Option.isNone_iff_eq_none] at h
  exact h.1

/-- An attempt that succeeds inserts the handle, and one that fails does not touch them. -/
theorem startListener_of_attempts (h : runtime.attempts terminal entry.1 = true) :
    startListener start terminal runtime entry =
      match start entry.2 with
      | none => { runtime.insertListener entry.1 with
          ruleState := runtime.ruleState.setListenerRunning entry.1 }
      | some error =>
        { runtime with ruleState := runtime.ruleState.setListenerStartFailed entry.1 error } := by
  have hnone := lookup_of_attempts h
  rw [attempts, Bool.and_eq_true, Bool.not_eq_true'] at h
  exact (if_neg (by rw [hnone]; exact Bool.false_ne_true)).trans
    (if_neg (by rw [h.2]; exact Bool.false_ne_true))

/-- The handles after one entry of the plan. -/
theorem lookup_startListener (ruleId : UInt64) :
    (startListener start terminal runtime entry).listeners.lookup ruleId =
      if runtime.attempts terminal entry.1 = true ∧ start entry.2 = none ∧ ruleId = entry.1.ruleId
      then some entry.1 else runtime.listeners.lookup ruleId := by
  by_cases h : runtime.attempts terminal entry.1 = true
  · rw [startListener_of_attempts h]
    cases hstart : start entry.2 with
    | none =>
      by_cases hid : ruleId = entry.1.ruleId
      · rw [if_pos ⟨h, rfl, hid⟩, hid]
        exact AList.lookup_insert _
      · rw [if_neg fun hc => hid hc.2.2]
        exact AList.lookup_insert_ne hid
    | some error => rw [if_neg fun hc => Option.some_ne_none _ hc.2.1]
  · rw [startListener_of_not_attempts (Bool.not_eq_true _ ▸ h), if_neg fun hc => h hc.1]

theorem lookup_startListener_of_some {ruleId : UInt64} {handle : TunnelTcpListenerSpec}
    (h : runtime.listeners.lookup ruleId = some handle) :
    (startListener start terminal runtime entry).listeners.lookup ruleId = some handle := by
  rw [lookup_startListener, if_neg, h]
  rintro ⟨hattempts, -, rfl⟩
  rw [lookup_of_attempts hattempts] at h
  cases h

variable (start terminal) in
/-- The start pass keeps every handle and attempts none of their ids. -/
theorem startPass_keeps {ruleId : UInt64} {handle : TunnelTcpListenerSpec}
    (entries : List (TunnelTcpListenerSpec × ℕ))
    (h : runtime.listeners.lookup ruleId = some handle) :
    (entries.foldl (startListener start terminal) runtime).listeners.lookup ruleId = some handle ∧
      ∀ entry ∈ startCalls start terminal runtime entries, entry.1.ruleId ≠ ruleId := by
  induction entries generalizing runtime with
  | nil => exact ⟨h, fun _ h => absurd h List.not_mem_nil⟩
  | cons entry entries ih =>
    have hentry : (startListener start terminal runtime entry).listeners.lookup ruleId =
        some handle := lookup_startListener_of_some h
    obtain ⟨hkept, hcalls⟩ := ih hentry
    refine ⟨hkept, fun call hcall => ?_⟩
    rcases List.mem_append.mp hcall with hcall | hcall
    · split_ifs at hcall with hattempts
      · cases List.mem_singleton.mp hcall
        rintro rfl
        rw [lookup_of_attempts hattempts] at h
        cases h
      · cases hcall
    · exact hcalls call hcall

/-- Every handle after the start pass was there before or is an entry of the plan. -/
theorem startPass_handles (entries : List (TunnelTcpListenerSpec × ℕ))
    {ruleId : UInt64} {handle : TunnelTcpListenerSpec}
    (h : (entries.foldl (startListener start terminal) runtime).listeners.lookup ruleId =
      some handle) :
    runtime.listeners.lookup ruleId = some handle ∨ ∃ entry ∈ entries, handle = entry.1 := by
  induction entries generalizing runtime with
  | nil => exact Or.inl h
  | cons entry entries ih =>
    rcases ih h with h | ⟨entry', hentry', rfl⟩
    · rw [lookup_startListener] at h
      split_ifs at h with hc
      · exact Or.inr ⟨entry, List.mem_cons_self, (Option.some.inj h).symm⟩
      · exact Or.inl h
    · exact Or.inr ⟨entry', List.mem_cons_of_mem _ hentry', rfl⟩

variable (start terminal) in
/-- Each entry of the plan has a handle. -/
theorem startPass_of_covered (entries : List (TunnelTcpListenerSpec × ℕ))
    (h : ∀ entry ∈ entries, (runtime.listeners.lookup entry.1.ruleId).isSome = true) :
    entries.foldl (startListener start terminal) runtime = runtime ∧
      startCalls start terminal runtime entries = [] := by
  induction entries with
  | nil => exact ⟨rfl, rfl⟩
  | cons entry entries ih =>
    obtain ⟨hentry, hentries⟩ := List.forall_mem_cons.mp h
    have hattempts : runtime.attempts terminal entry.1 = false := by
      rw [attempts, Option.isNone_eq_false_iff.mpr hentry, Bool.false_and]
    have hsame : startListener start terminal runtime entry = runtime :=
      startListener_of_not_attempts hattempts
    rw [List.foldl_cons, startCalls, hsame, hattempts]
    exact ih hentries

/-- **A start pass in which every attempt succeeds.** Its handles are those of the first entries for
their ids, and each entry has one. The induction is over the rest of the plan; the entries before it
have handles, so an entry that is attempted is the first one of its id. -/
theorem startPass_complete {plan done : List TunnelTcpListenerSpec}
    (entries : List (TunnelTcpListenerSpec × ℕ)) (hplan : plan = done ++ entries.map (·.1))
    (hstarts : ∀ entry ∈ startCalls start [] runtime entries, start entry.2 = none)
    (hdone : ∀ spec ∈ done, (runtime.listeners.lookup spec.ruleId).isSome = true)
    (hkeeps : ∀ ruleId handle, runtime.listeners.lookup ruleId = some handle →
      keepsListener plan ruleId handle = true) :
    (∀ spec ∈ plan, ((entries.foldl (startListener start []) runtime).listeners.lookup
      spec.ruleId).isSome = true) ∧
    ∀ ruleId handle, (entries.foldl (startListener start []) runtime).listeners.lookup ruleId =
      some handle → keepsListener plan ruleId handle = true := by
  induction entries generalizing runtime done with
  | nil =>
    rw [List.map_nil, List.append_nil] at hplan
    exact ⟨hplan ▸ hdone, hkeeps⟩
  | cons entry entries ih =>
    obtain ⟨hentry, hstarts⟩ := List.forall_mem_append.mp hstarts
    have hsucceeds (h : runtime.attempts [] entry.1 = true) : start entry.2 = none := by
      rw [if_pos h] at hentry
      exact hentry entry (List.mem_singleton.mpr rfl)
    have hattempts : runtime.attempts [] entry.1 =
        (runtime.listeners.lookup entry.1.ruleId).isNone := by
      rw [attempts, List.any_nil, Bool.not_false, Bool.and_true]
    have hplan' : plan = (done ++ [entry.1]) ++ entries.map (·.1) := by
      rw [hplan, List.map_cons, List.append_cons]
    refine ih hplan' hstarts ?_ ?_
    · refine List.forall_mem_append.mpr ⟨fun spec hspec => ?_, List.forall_mem_singleton.mpr ?_⟩
      · obtain ⟨handle, hhandle⟩ := Option.isSome_iff_exists.mp (hdone spec hspec)
        rw [lookup_startListener_of_some hhandle]
        rfl
      · rw [lookup_startListener]
        split_ifs with hc
        · rfl
        · rw [← Option.not_isNone, Bool.not_eq_true', ← hattempts, Bool.eq_false_iff]
          exact fun h => hc ⟨h, hsucceeds h, rfl⟩
    · intro ruleId handle hhandle
      rw [lookup_startListener] at hhandle
      split_ifs at hhandle with hc
      · obtain ⟨hattempted, -, rfl⟩ := hc
        cases hhandle
        have hnone := lookup_of_attempts hattempted
        refine keepsListener_iff.mpr ⟨entry.1, ?_, ?_⟩
        · have hfirst : (done.find? fun spec => spec.ruleId == entry.1.ruleId) = none := by
            refine List.find?_eq_none.mpr fun spec hspec heq => ?_
            have hsome := hdone spec hspec
            rw [beq_iff_eq.mp heq, hnone] at hsome
            cases hsome
          rw [hplan, List.find?_append, hfirst, List.map_cons, List.find?_cons_of_pos (by simp)]
          rfl
        · simp [sameListenerEndpoint]
      · exact hkeeps ruleId handle hhandle

end Starts

/-! ## The refresh -/

/-- The handle has the identity of an entry of the plan. -/
theorem planned_of_keepsListener {plan : List TunnelTcpListenerSpec} {ruleId : UInt64}
    {handle : TunnelTcpListenerSpec} (hid : handle.ruleId = ruleId)
    (h : keepsListener plan ruleId handle = true) :
    ∃ spec ∈ plan, sameListenerIdentity handle spec = true := by
  obtain ⟨spec, hfind, hsame⟩ := keepsListener_iff.mp h
  have hspec : (spec.ruleId == ruleId) = true :=
    List.find?_some (p := fun spec : TunnelTcpListenerSpec => spec.ruleId == ruleId) hfind
  refine ⟨spec, List.mem_of_find?_eq_some hfind, ?_⟩
  rw [sameListenerIdentity_comm, sameListenerIdentity, hsame, beq_iff_eq.mp hspec, hid,
    beq_self_eq_true, Bool.and_true]

theorem lookup_retained {ruleId : UInt64} {handle : TunnelTcpListenerSpec} :
    runtime.retained.listeners.lookup ruleId = some handle ↔
      runtime.drainListenerRuntimeEvents.2.listeners.lookup ruleId = some handle ∧
        keepsListener runtime.plan ruleId handle = true := by
  rw [← (drainListenerRuntimeEvents_frame runtime).1, TunnelTcpListeners.retained,
    listeners_syncActiveListenerSnapshot]
  exact lookup_retainListeners

theorem Handled.retained (h : runtime.Handled) : runtime.retained.Handled := by
  have hdrained := h.drainListenerRuntimeEvents
  exact ((hdrained.withRuleState (hdrained.latest.retainListenerHealth _)).retainListeners
    _).syncActiveListenerSnapshot.toHandled

theorem retained_frame (runtime : TunnelTcpListeners) :
    runtime.retained.plan = runtime.plan ∧ runtime.retained.listenerEvents = [] := by
  obtain ⟨hplan, hevents⟩ := drainListenerRuntimeEvents_frame runtime
  have hframe := retainListeners_frame { runtime.drainListenerRuntimeEvents.2 with
    ruleState := runtime.drainListenerRuntimeEvents.2.ruleState.retainListenerHealth
      runtime.drainListenerRuntimeEvents.2.plan } runtime.drainListenerRuntimeEvents.2.plan
  rw [TunnelTcpListeners.retained, plan_syncActiveListenerSnapshot,
    listenerEvents_syncActiveListenerSnapshot]
  refine ⟨Eq.trans ?_ hplan, hframe.2.2.trans hevents⟩
  rw [plan, hframe.1, hframe.2.1]
  rfl

variable (runtime) in
theorem refreshListeners_frame (start : ℕ → Option String) :
    (runtime.refreshListeners start).plan = runtime.plan ∧
      (runtime.refreshListeners start).listenerEvents = [] := by
  have hpass := List.foldlRecOn
    (motive := fun started : TunnelTcpListeners =>
      started.plan = runtime.plan ∧ started.listenerEvents = [])
    runtime.drainListenerRuntimeEvents.2.plan.zipIdx
    (startListener start runtime.drainListenerRuntimeEvents.1) (retained_frame runtime)
    fun started h entry _ => by
      obtain ⟨hplan, hevents⟩ := startListener_frame start runtime.drainListenerRuntimeEvents.1
        started entry
      exact ⟨hplan.trans h.1, hevents.trans h.2⟩
  rw [refreshListeners_eq, plan_syncActiveListenerSnapshot,
    listenerEvents_syncActiveListenerSnapshot]
  exact hpass

/-- Every handle after a refresh has the identity of an entry of the plan. -/
theorem Handled.planned_refreshListeners (h : runtime.Handled) (start : ℕ → Option String)
    {ruleId : UInt64} {handle : TunnelTcpListenerSpec}
    (hlookup : (runtime.refreshListeners start).listeners.lookup ruleId = some handle) :
    ∃ spec ∈ runtime.plan, sameListenerIdentity handle spec = true := by
  rw [refreshListeners_eq, listeners_syncActiveListenerSnapshot] at hlookup
  rcases startPass_handles _ hlookup with hlookup | ⟨entry, hentry, rfl⟩
  · exact planned_of_keepsListener (h.retained.keyed hlookup) (lookup_retained.mp hlookup).2
  · rw [← (drainListenerRuntimeEvents_frame runtime).1]
    exact ⟨entry.1, List.fst_mem_of_mem_zipIdx hentry, sameListenerIdentity_iff.mpr rfl⟩

theorem planned_startListener {plan : List TunnelTcpListenerSpec}
    (h : runtime.ruleState.Planned plan) (start : ℕ → Option String)
    (terminal : List TunnelTcpListenerSpec) {entry : TunnelTcpListenerSpec × ℕ}
    (hentry : entry.1 ∈ plan) :
    (TunnelTcpListeners.startListener start terminal runtime entry).ruleState.Planned plan := by
  unfold TunnelTcpListeners.startListener
  split_ifs
  · exact h
  · exact h
  · split
    · exact h.setListenerHealth (.ofRunning entry.1) hentry
    · exact h.setListenerHealth (.failure entry.1 .startFailed _) hentry

theorem planned_syncActiveListenerSnapshot {plan : List TunnelTcpListenerSpec}
    (h : runtime.ruleState.Planned plan)
    (hplanned : ∀ ruleId handle, runtime.listeners.lookup ruleId = some handle →
      ∃ spec ∈ plan, sameListenerIdentity handle spec = true) :
    runtime.syncActiveListenerSnapshot.ruleState.Planned plan := by
  refine h.setActiveTcpListeners fun listener hl => ?_
  obtain ⟨⟨ruleId, handle⟩, hentry, rfl⟩ := List.mem_map.mp hl
  exact hplanned ruleId handle (AList.mem_lookup_iff.mpr hentry)

/-- After a refresh only listeners of the plan have health. -/
theorem Handled.planned_health (h : runtime.Handled) (start : ℕ → Option String) :
    (runtime.refreshListeners start).ruleState.Planned runtime.plan := by
  have hplan := (drainListenerRuntimeEvents_frame runtime).1
  have hretained : runtime.retained.ruleState.Planned runtime.plan := by
    refine planned_syncActiveListenerSnapshot ?_ fun ruleId handle hlookup => ?_
    · rw [(retainListeners_frame _ _).1, hplan]
      exact SharedTunnelRuleState.planned_retainListenerHealth _ _
    · have hkept : runtime.retained.listeners.lookup ruleId = some handle := by
        rw [TunnelTcpListeners.retained, listeners_syncActiveListenerSnapshot]
        exact hlookup
      exact planned_of_keepsListener (h.retained.keyed hkept) (lookup_retained.mp hkept).2
  rw [refreshListeners_eq]
  refine planned_syncActiveListenerSnapshot (List.foldlRecOn
    (motive := fun started : TunnelTcpListeners => started.ruleState.Planned runtime.plan)
    _ _ hretained fun started hstarted entry hentry => ?_) ?_
  · exact planned_startListener hstarted start _ (hplan ▸ List.fst_mem_of_mem_zipIdx hentry)
  · intro ruleId handle hlookup
    have hafter : (runtime.refreshListeners start).listeners.lookup ruleId = some handle := by
      rw [refreshListeners_eq, listeners_syncActiveListenerSnapshot]
      exact hlookup
    exact h.planned_refreshListeners start hafter

/-- Nothing is left to do for the runtime. -/
structure Settled (runtime : TunnelTcpListeners) : Prop where
  events : runtime.listenerEvents = []
  synced : runtime.ruleState.Synced (runtime.listeners.entries.map (·.2))
  planned : runtime.ruleState.Planned runtime.plan
  kept : ∀ ruleId handle, runtime.listeners.lookup ruleId = some handle →
    keepsListener runtime.plan ruleId handle = true
  covered : ∀ spec ∈ runtime.plan, (runtime.listeners.lookup spec.ruleId).isSome = true

theorem Settled.syncActiveListenerSnapshot (h : runtime.Settled) :
    runtime.syncActiveListenerSnapshot = runtime := by
  rw [TunnelTcpListeners.syncActiveListenerSnapshot, h.synced.setActiveTcpListeners]

theorem Settled.retainStops (h : runtime.Settled) : runtime.retainStops runtime.plan = [] := by
  refine List.eq_nil_iff_forall_not_mem.mpr fun ruleId hmem => ?_
  obtain ⟨handle, hlookup, hkeeps⟩ := mem_retainStops.mp hmem
  rw [h.kept ruleId handle hlookup] at hkeeps
  cases hkeeps

theorem Settled.retained (h : runtime.Settled) : runtime.retained = runtime := by
  rw [TunnelTcpListeners.retained, drainListenerRuntimeEvents_of_nil h.events]
  simp only
  rw [h.planned.retainListenerHealth, retainListeners_eq, h.retainStops, List.foldl_nil,
    h.syncActiveListenerSnapshot]

/-- **A refresh of a settled runtime makes no call and changes nothing.** -/
theorem Settled.refreshListeners (h : runtime.Settled) (start : ℕ → Option String) :
    runtime.refreshStops = [] ∧ runtime.refreshStarts start = [] ∧
      runtime.refreshListeners start = runtime := by
  have hcovered : ∀ entry ∈ runtime.plan.zipIdx,
      (runtime.listeners.lookup entry.1.ruleId).isSome = true :=
    fun entry hentry => h.covered entry.1 (List.fst_mem_of_mem_zipIdx hentry)
  obtain ⟨hpass, hcalls⟩ := startPass_of_covered start [] _ hcovered
  refine ⟨?_, ?_, ?_⟩
  · rw [refreshStops, drainListenerRuntimeEvents_of_nil h.events, h.retainStops]
    rfl
  · rw [refreshStarts, h.retained, drainListenerRuntimeEvents_of_nil h.events, hcalls]
  · rw [refreshListeners_eq, h.retained, drainListenerRuntimeEvents_of_nil h.events, hpass,
      h.syncActiveListenerSnapshot]

/-- The snapshot that a refresh leaves is in place. -/
theorem synced_refreshListeners (runtime : TunnelTcpListeners) (start : ℕ → Option String) :
    (runtime.refreshListeners start).ruleState.Synced
      ((runtime.refreshListeners start).listeners.entries.map (·.2)) := by
  rw [refreshListeners_eq]
  exact SharedTunnelRuleState.synced_setActiveTcpListeners _ _

theorem listeners_refreshListeners_of_nil (hevents : runtime.listenerEvents = [])
    (start : ℕ → Option String) : (runtime.refreshListeners start).listeners =
      (runtime.plan.zipIdx.foldl (startListener start []) runtime.retained).listeners := by
  rw [refreshListeners_eq, drainListenerRuntimeEvents_of_nil hevents]
  rfl

/-- A refresh without terminal events in which every attempt succeeds leaves a settled runtime. -/
theorem Handled.settled_refreshListeners (h : runtime.Handled) {start : ℕ → Option String}
    (hevents : runtime.listenerEvents = [])
    (hstarts : ∀ entry ∈ runtime.refreshStarts start, start entry.2 = none) :
    (runtime.refreshListeners start).Settled := by
  obtain ⟨hplan, hnil⟩ := refreshListeners_frame runtime start
  have hmap : runtime.plan = [] ++ runtime.plan.zipIdx.map (·.1) := by
    rw [List.nil_append, List.zipIdx_map_fst]
  rw [refreshStarts, drainListenerRuntimeEvents_of_nil hevents] at hstarts
  have hcomplete := startPass_complete runtime.plan.zipIdx hmap hstarts
    (fun _ h => absurd h List.not_mem_nil) fun _ _ hlookup => (lookup_retained.mp hlookup).2
  rw [← listeners_refreshListeners_of_nil hevents, ← hplan] at hcomplete
  obtain ⟨hcovered, hkept⟩ := hcomplete
  exact
    { events := hnil
      synced := synced_refreshListeners runtime start
      planned := hplan.symm ▸ h.planned_health start
      kept := hkept
      covered := hcovered }

/-- **Reconciliation.** After a refresh the core runs exactly the handles, at most one for an id,
each with the identity of an entry of the plan, and the snapshot holds them; a handle of the first
entry for its id without a terminal event is neither stopped nor started again; and after a refresh
without terminal events in which every attempt succeeds, another one makes no call and changes
nothing. -/
theorem refreshListeners_reconciles (h : runtime.Handled) (start : ℕ → Option String) :
    (∀ ruleId, (runtime.refreshListeners start).coreListeners.lookup ruleId =
      (runtime.refreshListeners start).listeners.lookup ruleId) ∧
    (∀ ruleId handle, (runtime.refreshListeners start).listeners.lookup ruleId = some handle →
      handle.ruleId = ruleId ∧
        ∃ spec ∈ (runtime.refreshListeners start).ruleState.tcpListenerPlanForDataTransport
          (runtime.refreshListeners start).dataTransport, sameListenerIdentity handle spec = true) ∧
    (runtime.refreshListeners start).ruleState.inner.activeListeners =
      sortByRuleId ((runtime.refreshListeners start).listeners.entries.map (·.2)) ∧
    (∀ ruleId handle spec, runtime.listeners.lookup ruleId = some handle →
      (runtime.plan.find? fun spec => spec.ruleId == ruleId) = some spec →
      sameListenerEndpoint spec handle = true →
      (∀ event ∈ runtime.listenerEvents, sameListenerIdentity handle event = false) →
      ruleId ∉ runtime.refreshStops ∧
        (∀ entry ∈ runtime.refreshStarts start, entry.1.ruleId ≠ ruleId) ∧
        (runtime.refreshListeners start).listeners.lookup ruleId = some handle) ∧
    (∀ left ∈ (runtime.refreshListeners start).coreListeners.entries,
      ∀ right ∈ (runtime.refreshListeners start).coreListeners.entries,
        left.2.ruleId = right.2.ruleId → left = right) ∧
    ((∀ entry ∈ runtime.refreshStarts start, start entry.2 = none) →
      runtime.listenerEvents = [] → ∀ start',
        (runtime.refreshListeners start).refreshStops = [] ∧
        (runtime.refreshListeners start).refreshStarts start' = [] ∧
        (runtime.refreshListeners start).refreshListeners start' =
          runtime.refreshListeners start) := by
  have hafter := (h.refreshListeners start).toHandled
  have hcore : ∀ entry ∈ (runtime.refreshListeners start).coreListeners.entries,
      (runtime.refreshListeners start).coreListeners.lookup entry.1 = some entry.2 ∧
        entry.2.ruleId = entry.1 := by
    intro entry hentry
    have hlookup := AList.mem_lookup_iff.mpr hentry
    exact ⟨hlookup, hafter.keyed ((hafter.started _).symm.trans hlookup)⟩
  refine ⟨hafter.started, fun ruleId handle hlookup => ⟨hafter.keyed hlookup, ?_⟩, ?_, ?_, ?_, ?_⟩
  · have hplanned := h.planned_refreshListeners start hlookup
    rw [← (refreshListeners_frame runtime start).1] at hplanned
    exact hplanned
  · rw [refreshListeners_eq]
    exact (SharedTunnelRuleState.setActiveTcpListeners_frame _ _).1
  · intro ruleId handle spec hlookup hfind hsame hevents
    obtain ⟨hdrained, hterminal⟩ := drainListenerRuntimeEvents_keeps hlookup hevents
    have hkeeps : keepsListener runtime.plan ruleId handle = true :=
      keepsListener_iff.mpr ⟨spec, hfind, hsame⟩
    obtain ⟨hkept, hcalls⟩ := startPass_keeps start runtime.drainListenerRuntimeEvents.1
      runtime.drainListenerRuntimeEvents.2.plan.zipIdx (lookup_retained.mpr ⟨hdrained, hkeeps⟩)
    rw [← listeners_syncActiveListenerSnapshot, ← refreshListeners_eq] at hkept
    refine ⟨fun hmem => ?_, hcalls, hkept⟩
    rcases List.mem_append.mp hmem with hmem | hmem
    · obtain ⟨event, hevent, rfl⟩ := List.mem_map.mp hmem
      exact hterminal event hevent rfl
    · obtain ⟨handle', hlookup', hstops⟩ := mem_retainStops.mp hmem
      cases Option.some.inj (hdrained.symm.trans hlookup')
      rw [(drainListenerRuntimeEvents_frame runtime).1, hkeeps] at hstops
      cases hstops
  · intro left hleft right hright hid
    obtain ⟨hleft, hleftId⟩ := hcore left hleft
    obtain ⟨hright, hrightId⟩ := hcore right hright
    rw [hleftId, hrightId] at hid
    rw [hid, hright] at hleft
    exact Sigma.ext hid (heq_of_eq (Option.some.inj hleft).symm)
  · intro hstarts hevents start'
    exact (h.settled_refreshListeners hevents hstarts).refreshListeners start'

/-- The runtime of a rule after a sync; its first refresh starts the listener. -/
theorem refreshListeners_reconciles_local :
    ((new .new "websocket").run [.updateRules "1" [TunnelTcpRuntime.localRule]]).Handled ∧
    (((new .new "websocket").run [.updateRules "1" [TunnelTcpRuntime.localRule]]).refreshStarts
      fun _ => none).length = 1 ∧
    ((((new .new "websocket").run [.updateRules "1" [TunnelTcpRuntime.localRule]]).refreshListeners
      fun _ => none).refreshStarts fun _ => none) = [] := by
  have hhandled := (coherent_run "websocket"
    [.updateRules "1" [TunnelTcpRuntime.localRule]]).toHandled
  refine ⟨hhandled, by decide +kernel, ?_⟩
  exact ((refreshListeners_reconciles hhandled fun _ => none).2.2.2.2.2 (fun _ _ => rfl) rfl
    fun _ => none).2.1

end TunnelTcpListeners

end KeliAgent
