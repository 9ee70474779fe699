import KeliAgent.Tunnel.Preflight
import KeliAgent.Tunnel.Runtime

/-!
# The READY state

What the agent tells the server that it can serve: `build_tunnel_ready_state…` of
`tunnel_runtime.rs`, from the rules, the active listeners and the recorded health of listeners.

* `mem_readyRuleIds`: exactly which rules are advertised; `passes_ingress_iff`, `passes_egress_iff`.
* `sorted_readyRuleIds`: both lists are strictly increasing.
* **`advertised_servable_iff`**: what is advertised can be served exactly if the rules are spelled
  as the listener plan and the lookup of egress rules compare them.
-/

namespace KeliAgent

/-! ## Health of listeners -/

inductive TunnelListenerHealthStatus where
  | running | startFailed | stopped | runtimeError
  deriving DecidableEq, Repr

def TunnelListenerHealthStatus.readyStatus : TunnelListenerHealthStatus → String
  | .running => "listener_running"
  | .startFailed => "listener_start_failed"
  | .stopped => "listener_stopped"
  | .runtimeError => "listener_runtime_error"

structure TunnelListenerHealth where
  spec : TunnelTcpListenerSpec
  status : TunnelListenerHealthStatus
  error : String
  deriving DecidableEq, Repr

def TunnelListenerHealth.ofRunning (spec : TunnelTcpListenerSpec) : TunnelListenerHealth :=
  ⟨spec, .running, ""⟩

def TunnelListenerHealth.failure (spec : TunnelTcpListenerSpec)
    (status : TunnelListenerHealthStatus) (error : String) : TunnelListenerHealth :=
  ⟨spec, status, Text.trim error⟩

/-! ## The READY state -/

structure TunnelDataRuleFailure where
  ruleId : UInt64
  status : String
  error : String
  deriving DecidableEq, Repr

structure TunnelDataReadyState where
  revision : String
  ingressRuleIds : List UInt64
  egressRuleIds : List UInt64
  failedRules : List TunnelDataRuleFailure
  deriving DecidableEq, Repr

namespace TunnelDataReadyState

def empty (revision : String) : TunnelDataReadyState := ⟨Text.trim revision, [], [], []⟩

/-- What the `push_…_failure_once` functions have in common. -/
def pushFailureOnce (ready : TunnelDataReadyState) (failure : TunnelDataRuleFailure) :
    TunnelDataReadyState :=
  if failure ∈ ready.failedRules then ready
  else { ready with failedRules := ready.failedRules ++ [failure] }

def pushListenerFailureOnce (ready : TunnelDataReadyState) (ruleId : UInt64)
    (status error : String) : TunnelDataReadyState :=
  ready.pushFailureOnce ⟨ruleId, status, Text.trim error⟩

def pushPreflightFailureOnce (ready : TunnelDataReadyState) (issue : TunnelPreflightIssue) :
    TunnelDataReadyState :=
  ready.pushFailureOnce ⟨issue.ruleId, tunnelPreflightStatus issue.code, issue.message⟩

def pushUnsupportedDataTransportFailureOnce (ready : TunnelDataReadyState)
    (rule : SelectedTunnelRule) : TunnelDataReadyState :=
  ready.pushFailureOnce ⟨rule.id, "unsupported_data_transport",
    "data transport " ++ rule.transport ++ " is not handled by websocket tunnel data runtime"⟩

end TunnelDataReadyState

/-- What the READY state is computed from, besides the rules. -/
structure ListenerSnapshot where
  activeListeners : List TunnelTcpListenerSpec
  listenerHealth : List TunnelListenerHealth

namespace ListenerSnapshot

variable (snapshot : ListenerSnapshot)

/-- A listener of that identity is active. -/
def isActive (spec : TunnelTcpListenerSpec) : Bool :=
  snapshot.activeListeners.any fun listener => sameListenerIdentity listener spec

/-- The recorded health of the listener. -/
def healthOf (spec : TunnelTcpListenerSpec) : Option TunnelListenerHealth :=
  snapshot.listenerHealth.find? fun health => sameListenerIdentity health.spec spec

theorem healthOf_eq_some {snapshot : ListenerSnapshot} {spec : TunnelTcpListenerSpec}
    {health : TunnelListenerHealth} (h : snapshot.healthOf spec = some health) :
    health ∈ snapshot.listenerHealth ∧ health.spec.identity = spec.identity := by
  have hmem := List.mem_of_find?_eq_some h
  rw [healthOf] at h
  have hsame := List.find?_some h
  exact ⟨hmem, sameListenerIdentity_iff.mp hsame⟩

/-- Bind failures do not count for a port that a listener of the runtime holds. -/
def filterRuntimeOwnedListenerBindFailure (rule : SelectedTunnelRule) (side : TunnelPreflightSide)
    (issues : List TunnelPreflightIssue) : List TunnelPreflightIssue :=
  if side ≠ .ingress ∨ snapshot.isActive (listenerSpecForRule rule) = false then issues
  else issues.filter fun issue => issue.code ≠ .listenBindFailed

/-- The failure of the listener of the rule, if it does not run: its status and its error. -/
def listenerFailure (rule : SelectedTunnelRule) : Option (String × String) :=
  let expected := listenerSpecForRule rule
  let notRunning :=
    (TunnelListenerHealthStatus.stopped.readyStatus,
      "listener is not running on " ++ tcpEndpoint expected.listenAddress expected.listenPort)
  match snapshot.healthOf expected with
  | none => some notRunning
  | some health =>
    if health.status = .running then
      if snapshot.isActive expected then none else some notRunning
    else
      some (health.status.readyStatus,
        if Text.trim health.error = "" then "listener is not running" else Text.trim health.error)

/-- Whether there was a failure, and the READY state with it. -/
def pushListenerHealthFailure (rule : SelectedTunnelRule) (ready : TunnelDataReadyState) :
    Bool × TunnelDataReadyState :=
  match snapshot.listenerFailure rule with
  | none => (false, ready)
  | some (status, error) => (true, ready.pushListenerFailureOnce rule.id status error)

end ListenerSnapshot

section Build

variable (host : TunnelHost) (snapshot : ListenerSnapshot)

def preflightInput (rule : SelectedTunnelRule) : TunnelTcpRulePreflightInput where
  ruleId := rule.id
  listenAddress := rule.listenAddress
  listenPort := rule.listenPort
  targetHost := rule.targetHost
  targetPort := rule.targetPort
  sourceAllowlist := rule.sourceAllowlist

def readyIssues (rule : SelectedTunnelRule) (side : TunnelPreflightSide) :
    List TunnelPreflightIssue :=
  snapshot.filterRuntimeOwnedListenerBindFailure rule side
    (host.validateTunnelTcpRuleForSide (preflightInput rule) side)

def applyReadySide (rule : SelectedTunnelRule) (side : TunnelPreflightSide)
    (ready : TunnelDataReadyState) : TunnelDataReadyState :=
  let issues := readyIssues host snapshot rule side
  let hasUnsupportedOs := issues.any fun issue => issue.code == .unsupportedOs
  let (failed, ready) :=
    if side = .ingress ∧ hasUnsupportedOs = false then
      snapshot.pushListenerHealthFailure rule ready
    else (false, ready)
  let ready := issues.foldl (·.pushPreflightFailureOnce ·) ready
  if failed || !issues.isEmpty then ready
  else
    match side with
    | .ingress => { ready with ingressRuleIds := ready.ingressRuleIds ++ [rule.id] }
    | .egress => { ready with egressRuleIds := ready.egressRuleIds ++ [rule.id] }

/-- One rule in the loop of the READY computation. -/
def applyReadyRule (dataTransport : String) (ready : TunnelDataReadyState)
    (rule : SelectedTunnelRule) : TunnelDataReadyState :=
  if rule.enabled = false ∨ Text.lowercase (Text.trim rule.protocol) ≠ "tcp" then ready
  else if ruleUsesDataTransport rule dataTransport = false then
    if dataTransport = tunnelDataTransportWebsocket then
      ready.pushUnsupportedDataTransportFailureOnce rule
    else ready
  else if Text.lowercase (Text.trim rule.role) = "ingress" then
    applyReadySide host snapshot rule .ingress ready
  else if Text.lowercase (Text.trim rule.role) = "egress" then
    applyReadySide host snapshot rule .egress ready
  else if Text.lowercase (Text.trim rule.role) = "both" then
    applyReadySide host snapshot rule .egress (applyReadySide host snapshot rule .ingress ready)
  else ready

/-- `sort_unstable` and `dedup`. -/
def sortDedup (ids : List UInt64) : List UInt64 :=
  (ids.insertionSort (· ≤ ·)).destutter (· ≠ ·)

/-- `build_tunnel_ready_state_with_listener_health_for_data_transport`. -/
def buildTunnelReadyState (revision : String) (rules : List SelectedTunnelRule)
    (dataTransport : String) : TunnelDataReadyState :=
  let ready := rules.foldl
    (applyReadyRule host snapshot (normalizeDataTransportFilter dataTransport)) (.empty revision)
  { ready with
    ingressRuleIds := sortDedup ready.ingressRuleIds
    egressRuleIds := sortDedup ready.egressRuleIds }

end Build

/-! ## Strictly increasing lists -/

theorem mem_destutter_ne {α : Type} [DecidableEq α] {x : α} {l : List α} :
    x ∈ l.destutter (· ≠ ·) ↔ x ∈ l := by
  have hafter : ∀ (l : List α) (a : α), x ∈ a :: l → x ∈ l.destutter' (· ≠ ·) a := by
    intro l
    induction l with
    | nil => exact fun a h => h
    | cons b l ih =>
      intro a h
      by_cases hab : a = b
      · subst hab
        rw [List.destutter'_cons_neg _ (not_not.mpr rfl)]
        exact ih a (by simpa using h)
      · rw [List.destutter'_cons_pos _ hab]
        rcases List.mem_cons.mp h with rfl | h
        · exact List.mem_cons_self
        · exact List.mem_cons_of_mem _ (ih b h)
  constructor
  · exact fun h => (List.destutter_sublist _ l).subset h
  · cases l with
    | nil => exact id
    | cons a l => exact hafter l a

theorem mem_sortDedup {id : UInt64} {ids : List UInt64} : id ∈ sortDedup ids ↔ id ∈ ids := by
  rw [sortDedup, mem_destutter_ne, List.mem_insertionSort]

theorem sorted_sortDedup (ids : List UInt64) : (sortDedup ids).Pairwise (· < ·) := by
  have hle : (sortDedup ids).Pairwise (· ≤ ·) :=
    (List.pairwise_insertionSort (· ≤ ·) ids).sublist (List.destutter_sublist _ _)
  have hne : (sortDedup ids).IsChain (· ≠ ·) := List.isChain_destutter _ _
  rw [← List.isChain_iff_pairwise, List.isChain_iff_getElem] at hle ⊢
  rw [List.isChain_iff_getElem] at hne
  exact fun i hi => UInt64.lt_of_le_of_ne (hle i hi) (hne i hi)

/-! ## Which rules are advertised -/

/-- The word for the side in the role of a rule. -/
def TunnelPreflightSide.role : TunnelPreflightSide → String
  | .ingress => "ingress"
  | .egress => "egress"

/-- What the READY computation takes for a rule of the side: words are compared in any case. -/
def readyRule (dataTransport : String) (side : TunnelPreflightSide) (rule : SelectedTunnelRule) :
    Bool :=
  rule.enabled && Text.lowercase (Text.trim rule.protocol) == "tcp" &&
    ruleUsesDataTransport rule dataTransport &&
    (Text.lowercase (Text.trim rule.role) == side.role ||
      Text.lowercase (Text.trim rule.role) == "both")

def TunnelDataReadyState.ruleIds (ready : TunnelDataReadyState) :
    TunnelPreflightSide → List UInt64
  | .ingress => ready.ingressRuleIds
  | .egress => ready.egressRuleIds

@[simp] theorem TunnelDataReadyState.ruleIds_pushFailureOnce (ready : TunnelDataReadyState)
    (failure : TunnelDataRuleFailure) (side : TunnelPreflightSide) :
    (ready.pushFailureOnce failure).ruleIds side = ready.ruleIds side := by
  unfold pushFailureOnce
  cases side <;> split_ifs <;> rfl

theorem TunnelDataReadyState.ruleIds_foldl_pushPreflightFailureOnce
    (issues : List TunnelPreflightIssue) (ready : TunnelDataReadyState)
    (side : TunnelPreflightSide) :
    (issues.foldl (·.pushPreflightFailureOnce ·) ready).ruleIds side = ready.ruleIds side := by
  induction issues generalizing ready with
  | nil => rfl
  | cons issue issues ih => exact (ih _).trans (ruleIds_pushFailureOnce _ _ _)

section Advertised

variable (host : TunnelHost) (snapshot : ListenerSnapshot)

/-- The rule has no issue on the side, and its listener runs if it needs one. -/
def Passes (side : TunnelPreflightSide) (rule : SelectedTunnelRule) : Prop :=
  readyIssues host snapshot rule side = [] ∧
    (side = .ingress → snapshot.listenerFailure rule = none)

instance (side : TunnelPreflightSide) (rule : SelectedTunnelRule) :
    Decidable (Passes host snapshot side rule) :=
  inferInstanceAs (Decidable (_ ∧ _))

theorem ruleIds_pushListenerHealthFailure (rule : SelectedTunnelRule)
    (ready : TunnelDataReadyState) (side : TunnelPreflightSide) :
    (snapshot.pushListenerHealthFailure rule ready).2.ruleIds side = ready.ruleIds side := by
  unfold ListenerSnapshot.pushListenerHealthFailure
  split
  · rfl
  · exact TunnelDataReadyState.ruleIds_pushFailureOnce _ _ _

theorem pushListenerHealthFailure_fst (rule : SelectedTunnelRule) (ready : TunnelDataReadyState) :
    (snapshot.pushListenerHealthFailure rule ready).1 = (snapshot.listenerFailure rule).isSome := by
  unfold ListenerSnapshot.pushListenerHealthFailure
  cases snapshot.listenerFailure rule <;> rfl

/-- One side of one rule: its id is added to the list of the side, if it passes. -/
theorem ruleIds_applyReadySide (rule : SelectedTunnelRule) (side side' : TunnelPreflightSide)
    (ready : TunnelDataReadyState) :
    (applyReadySide host snapshot rule side ready).ruleIds side' =
      ready.ruleIds side' ++
        if side = side' ∧ Passes host snapshot side rule then [rule.id] else [] := by
  unfold applyReadySide
  simp only
  generalize hpushed : (if side = .ingress ∧ ((readyIssues host snapshot rule side).any fun issue =>
      issue.code == .unsupportedOs) = false then snapshot.pushListenerHealthFailure rule ready
    else (false, ready)) = pushed
  have hids : pushed.2.ruleIds side' = ready.ruleIds side' := by
    rw [← hpushed]
    split_ifs
    · exact ruleIds_pushListenerHealthFailure _ _ _ _
    · rfl
  -- the issues keep the rule out, whatever the listener does
  have hblocked : (pushed.1 || !(readyIssues host snapshot rule side).isEmpty) = true ↔
      ¬Passes host snapshot side rule := by
    by_cases hissues : readyIssues host snapshot rule side = []
    · have hfst : pushed.1 = true ↔ ¬(side = .ingress → snapshot.listenerFailure rule = none) := by
        rw [← hpushed, hissues]
        cases side <;>
          simp [pushListenerHealthFailure_fst, Option.isSome_iff_ne_none]
      simp [Passes, hissues, hfst]
    · simp [Passes, hissues]
  have hfold := TunnelDataReadyState.ruleIds_foldl_pushPreflightFailureOnce
    (readyIssues host snapshot rule side) pushed.2 side'
  by_cases hpasses : Passes host snapshot side rule
  · rw [if_neg (fun h => hblocked.mp h hpasses)]
    cases side <;> cases side' <;> simp_all [TunnelDataReadyState.ruleIds]
  · rw [if_pos (hblocked.mpr hpasses), hfold, hids]
    simp [hpasses]

/-- One rule: its id is added to the lists of the sides that it has and that it passes. -/
theorem ruleIds_applyReadyRule (dataTransport : String) (ready : TunnelDataReadyState)
    (rule : SelectedTunnelRule) (side : TunnelPreflightSide) :
    (applyReadyRule host snapshot dataTransport ready rule).ruleIds side =
      ready.ruleIds side ++
        if readyRule dataTransport side rule = true ∧ Passes host snapshot side rule then [rule.id]
        else [] := by
  unfold applyReadyRule
  by_cases hskip : rule.enabled = false ∨ Text.lowercase (Text.trim rule.protocol) ≠ "tcp"
  · have hnot : readyRule dataTransport side rule = false := by
      rcases hskip with h | h <;> simp [readyRule, h]
    simp [if_pos hskip, hnot]
  rw [if_neg hskip]
  obtain ⟨henabled, htcp⟩ : rule.enabled = true ∧ Text.lowercase (Text.trim rule.protocol) = "tcp" := by
    simpa using hskip
  by_cases huses : ruleUsesDataTransport rule dataTransport = false
  · have hnot : readyRule dataTransport side rule = false := by simp [readyRule, huses]
    simp only [if_pos huses, hnot, Bool.false_eq_true, false_and, if_false, List.append_nil]
    split_ifs
    · exact TunnelDataReadyState.ruleIds_pushFailureOnce _ _ _
    · rfl
  rw [if_neg huses]
  have hready : readyRule dataTransport side rule = true ↔
      Text.lowercase (Text.trim rule.role) = side.role ∨
        Text.lowercase (Text.trim rule.role) = "both" := by
    simp [readyRule, henabled, htcp, Bool.not_eq_false _ ▸ huses]
  simp only [hready]
  generalize Text.lowercase (Text.trim rule.role) = role
  by_cases hingress : role = "ingress"
  · subst hingress
    rw [if_pos rfl, ruleIds_applyReadySide]
    cases side <;> simp [TunnelPreflightSide.role]
  rw [if_neg hingress]
  by_cases hegress : role = "egress"
  · subst hegress
    rw [if_pos rfl, ruleIds_applyReadySide]
    cases side <;> simp [TunnelPreflightSide.role]
  rw [if_neg hegress]
  by_cases hboth : role = "both"
  · subst hboth
    rw [if_pos rfl, ruleIds_applyReadySide, ruleIds_applyReadySide]
    cases side <;> simp
  · cases side <;> simp [TunnelPreflightSide.role, hingress, hegress, hboth]

/-- **The rules that the READY state lists for a side**: those of the side that pass. -/
theorem mem_readyRuleIds (revision dataTransport : String) (rules : List SelectedTunnelRule)
    (side : TunnelPreflightSide) (ruleId : UInt64) :
    ruleId ∈ (buildTunnelReadyState host snapshot revision rules dataTransport).ruleIds side ↔
      ∃ rule ∈ rules, rule.id = ruleId ∧
        readyRule (normalizeDataTransportFilter dataTransport) side rule = true ∧
        Passes host snapshot side rule := by
  have hfold : ∀ (rules : List SelectedTunnelRule) (ready : TunnelDataReadyState),
      ruleId ∈ (rules.foldl
          (applyReadyRule host snapshot (normalizeDataTransportFilter dataTransport))
          ready).ruleIds side ↔
        ruleId ∈ ready.ruleIds side ∨ ∃ rule ∈ rules, rule.id = ruleId ∧
          readyRule (normalizeDataTransportFilter dataTransport) side rule = true ∧
          Passes host snapshot side rule := by
    intro rules
    induction rules with
    | nil => simp
    | cons rule rules ih =>
      intro ready
      rw [List.foldl_cons, ih, ruleIds_applyReadyRule, List.mem_append, List.exists_mem_cons_iff,
        or_assoc]
      refine or_congr_right (or_congr_left ?_)
      split_ifs with h
      · simp [h, eq_comm]
      · simp [h]
  have hempty : (TunnelDataReadyState.empty revision).ruleIds side = [] := by cases side <;> rfl
  have hbuild : (buildTunnelReadyState host snapshot revision rules dataTransport).ruleIds side =
      sortDedup ((rules.foldl
        (applyReadyRule host snapshot (normalizeDataTransportFilter dataTransport))
        (.empty revision)).ruleIds side) := by
    cases side <;> rfl
  rw [hbuild, mem_sortDedup, hfold, hempty]
  simp

/-- **The lists of the READY state are strictly increasing.** -/
theorem sorted_readyRuleIds (revision dataTransport : String) (rules : List SelectedTunnelRule)
    (side : TunnelPreflightSide) :
    ((buildTunnelReadyState host snapshot revision rules dataTransport).ruleIds side).Pairwise
      (· < ·) := by
  cases side <;> exact sorted_sortDedup _

/-! ## When a rule passes -/

/-- The runtime has a listener of that identity, and the recorded health of it is that it runs. -/
def ListenerSnapshot.Runs (spec : TunnelTcpListenerSpec) : Prop :=
  snapshot.isActive spec = true ∧ (snapshot.healthOf spec).map (·.status) = some .running

theorem listenerFailure_eq_none {rule : SelectedTunnelRule} :
    snapshot.listenerFailure rule = none ↔ snapshot.Runs (listenerSpecForRule rule) := by
  simp only [ListenerSnapshot.listenerFailure, ListenerSnapshot.Runs]
  cases snapshot.healthOf (listenerSpecForRule rule) with
  | none => simp
  | some health =>
    by_cases hrunning : health.status = .running <;>
      by_cases hactive : snapshot.isActive (listenerSpecForRule rule) = true <;>
        simp [hrunning, hactive]

/-- An ingress rule passes with a running listener; whether the port can be bound again does not
matter then. -/
theorem passes_ingress_iff {rule : SelectedTunnelRule} :
    Passes host snapshot .ingress rule ↔
      host.osSupported = true ∧ host.allowlistIsValid rule.sourceAllowlist = true ∧
        snapshot.Runs (listenerSpecForRule rule) := by
  have hissues (hactive : snapshot.isActive (listenerSpecForRule rule) = true) :
      readyIssues host snapshot rule .ingress = [] ↔
        host.osSupported = true ∧ host.allowlistIsValid rule.sourceAllowlist = true := by
    refine Iff.trans ?_ (host.validate_ingress_except_bind (preflightInput rule))
    simp [readyIssues, ListenerSnapshot.filterRuntimeOwnedListenerBindFailure, hactive]
  rw [Passes, listenerFailure_eq_none]
  constructor
  · rintro ⟨hnil, hruns⟩
    exact and_assoc.mp ⟨(hissues (hruns rfl).1).mp hnil, hruns rfl⟩
  · rintro ⟨hos, hallow, hruns⟩
    exact ⟨(hissues hruns.1).mpr ⟨hos, hallow⟩, fun _ => hruns⟩

/-- An egress rule passes with a target. -/
theorem passes_egress_iff {rule : SelectedTunnelRule} :
    Passes host snapshot .egress rule ↔
      host.validateTunnelTcpRuleForSide (preflightInput rule) .egress = [] := by
  simp [Passes, readyIssues, ListenerSnapshot.filterRuntimeOwnedListenerBindFailure]

end Advertised

/-! ## Advertised rules can be served -/

/-- The role of the rule has the side, written in lower case. -/
def writtenRole (side : TunnelPreflightSide) (rule : SelectedTunnelRule) : Bool :=
  Text.trim rule.role == side.role || Text.trim rule.role == "both"

/-- A role in lower case is read by the READY computation as it is written. -/
theorem lowercase_of_writtenRole {side : TunnelPreflightSide} {rule : SelectedTunnelRule}
    (h : writtenRole side rule = true) :
    Text.lowercase (Text.trim rule.role) = side.role ∨
      Text.lowercase (Text.trim rule.role) = "both" := by
  have hside : Text.lowercase side.role = side.role := by cases side <;> decide +kernel
  have hboth : Text.lowercase "both" = "both" := by decide +kernel
  simp only [writtenRole, Bool.or_eq_true, beq_iff_eq] at h
  rcases h with h | h
  · exact Or.inl (by rw [h, hside])
  · exact Or.inr (by rw [h, hboth])

/-- What the listener plan and the lookup of egress rules select: the rules of the side in READY
whose role is in lower case. -/
theorem readyRule_and_writtenRole (dataTransport : String) (side : TunnelPreflightSide)
    (rule : SelectedTunnelRule) :
    (readyRule dataTransport side rule && writtenRole side rule) =
      (rule.enabled && Text.eqIgnoreAsciiCase (Text.trim rule.protocol) "tcp" &&
        ruleUsesDataTransport rule dataTransport &&
        (Text.trim rule.role == side.role || Text.trim rule.role == "both")) := by
  have htcp : (Text.lowercase (Text.trim rule.protocol) == "tcp") =
      Text.eqIgnoreAsciiCase (Text.trim rule.protocol) "tcp" := by
    rw [Bool.eq_iff_iff, beq_iff_eq]
    exact Text.lowercase_eq_iff (by decide +kernel)
  change _ = (_ && writtenRole side rule)
  cases hwritten : writtenRole side rule with
  | false => simp only [Bool.and_false]
  | true =>
    have hrole : (Text.lowercase (Text.trim rule.role) == side.role ||
        Text.lowercase (Text.trim rule.role) == "both") = true := by
      rw [Bool.or_eq_true, beq_iff_eq, beq_iff_eq]
      exact lowercase_of_writtenRole hwritten
    rw [readyRule, htcp, hrole, Bool.and_true]

theorem plansListener_iff {dataTransport : String} {rule : SelectedTunnelRule} :
    plansListener dataTransport rule = true ↔
      readyRule dataTransport .ingress rule = true ∧ writtenRole .ingress rule = true := by
  rw [← Bool.and_eq_true, readyRule_and_writtenRole]
  rfl

theorem findEgressRule_eq (runtime : TunnelTcpRuntime) (ruleId : UInt64) :
    runtime.findEgressRule ruleId = runtime.rules.find? fun rule =>
      rule.id == ruleId && (readyRule runtime.dataTransport .egress rule &&
        writtenRole .egress rule) := by
  unfold TunnelTcpRuntime.findEgressRule
  congr 1
  funext rule
  rw [readyRule_and_writtenRole]
  simp only [Bool.and_assoc, TunnelPreflightSide.role]

/-- What is advertised for the transport is served by a runtime of it: an open frame for an egress
rule is dialled, under a rule that passes the preflight, and every ingress rule has its listener in
the plan. -/
def AdvertisedServable (host : TunnelHost) (snapshot : ListenerSnapshot) (revision : String)
    (dataTransport : String) (runtime : TunnelTcpRuntime) : Prop :=
  (∀ ruleId ∈ (buildTunnelReadyState host snapshot revision runtime.rules
      dataTransport).egressRuleIds,
    ∃ rule, runtime.findEgressRule ruleId = some rule ∧
      host.validateTunnelTcpRuleForSide (preflightInput rule) .egress = [] ∧
      ∀ frame payload dial, decodeSessionOpenPayload frame.payload = .ok payload →
        payload.ruleId = ruleId →
          (runtime.handleEgressOpen frame dial).2.core =
            (runtime.core.openEgressSession frame.sessionId rule.id rule.targetHost
              rule.targetPort dial).2) ∧
    ∀ rule ∈ runtime.rules,
      readyRule (normalizeDataTransportFilter dataTransport) .ingress rule = true →
        listenerSpecForRule rule ∈
          buildTcpListenerPlanForDataTransport runtime.rules dataTransport

/-- For each egress rule that passes, the first rule of its id whose role is in lower case passes as
well; and for each ingress rule there is one with the same listener whose role is in lower case. -/
def SpelledAlike (host : TunnelHost) (rules : List SelectedTunnelRule) (dataTransport : String) :
    Prop :=
  (∀ rule ∈ rules, readyRule dataTransport .egress rule = true →
    host.validateTunnelTcpRuleForSide (preflightInput rule) .egress = [] →
      ∃ before first after, rules = before ++ first :: after ∧ first.id = rule.id ∧
        readyRule dataTransport .egress first = true ∧ writtenRole .egress first = true ∧
        host.validateTunnelTcpRuleForSide (preflightInput first) .egress = [] ∧
        ∀ earlier ∈ before, earlier.id = rule.id →
          readyRule dataTransport .egress earlier = true → writtenRole .egress earlier = false) ∧
    ∀ rule ∈ rules, readyRule dataTransport .ingress rule = true →
      ∃ written ∈ rules, readyRule dataTransport .ingress written = true ∧
        writtenRole .ingress written = true ∧
        listenerSpecForRule written = listenerSpecForRule rule

namespace TunnelTcpRuntime

/-- The frame is dialled under the rule that the lookup finds. -/
theorem core_handleEgressOpen {runtime : TunnelTcpRuntime} {frame : KtpFrame}
    {payload : TunnelSessionOpenPayload} {rule : SelectedTunnelRule}
    (hdecode : decodeSessionOpenPayload frame.payload = .ok payload)
    (hrule : runtime.findEgressRule payload.ruleId = some rule) (dial : String → TcpDial) :
    (runtime.handleEgressOpen frame dial).2.core =
      (runtime.core.openEgressSession frame.sessionId rule.id rule.targetHost rule.targetPort
        dial).2 := by
  simp only [handleEgressOpen, hdecode, hrule]
  split <;> rename_i h <;> rw [h]

/-- The first rule that the lookup finds. -/
theorem findEgressRule_eq_some {runtime : TunnelTcpRuntime} {ruleId : UInt64}
    {rule : SelectedTunnelRule} :
    runtime.findEgressRule ruleId = some rule ↔
      ∃ before after, runtime.rules = before ++ rule :: after ∧ rule.id = ruleId ∧
        readyRule runtime.dataTransport .egress rule = true ∧ writtenRole .egress rule = true ∧
        ∀ earlier ∈ before, earlier.id = ruleId →
          readyRule runtime.dataTransport .egress earlier = true →
            writtenRole .egress earlier = false := by
  rw [findEgressRule_eq, List.find?_eq_some_iff_append]
  simp only [Bool.and_eq_true, beq_iff_eq, Bool.not_eq_true', Bool.and_eq_false_imp]
  constructor
  · rintro ⟨⟨hid, hready, hrole⟩, before, after, hrules, hbefore⟩
    exact ⟨before, after, hrules, hid, hready, hrole, hbefore⟩
  · rintro ⟨before, after, hrules, hid, hready, hrole, hbefore⟩
    exact ⟨⟨hid, hready, hrole⟩, before, after, hrules, hbefore⟩

/-- **What is advertised can be served exactly if the rules are spelled as the listener plan and the
lookup of egress rules compare them.** -/
theorem advertised_servable_iff (host : TunnelHost) (snapshot : ListenerSnapshot)
    (revision dataTransport : String) (runtime : TunnelTcpRuntime)
    (htransport : runtime.dataTransport = normalizeDataTransportFilter dataTransport) :
    AdvertisedServable host snapshot revision dataTransport runtime ↔
      SpelledAlike host runtime.rules (normalizeDataTransportFilter dataTransport) := by
  have hegress : ∀ ruleId,
      ruleId ∈ (buildTunnelReadyState host snapshot revision runtime.rules
          dataTransport).egressRuleIds ↔
        ∃ rule ∈ runtime.rules, rule.id = ruleId ∧
          readyRule (normalizeDataTransportFilter dataTransport) .egress rule = true ∧
          host.validateTunnelTcpRuleForSide (preflightInput rule) .egress = [] := by
    intro ruleId
    have hmem := mem_readyRuleIds host snapshot revision dataTransport runtime.rules .egress ruleId
    simpa only [passes_egress_iff, TunnelDataReadyState.ruleIds] using hmem
  refine and_congr ⟨?_, ?_⟩ (forall_congr' fun rule => forall_congr' fun hmem =>
    forall_congr' fun hready => ?_)
  · intro h rule hmem hready hpass
    obtain ⟨first, hfind, hvalid, -⟩ := h rule.id ((hegress _).mpr ⟨rule, hmem, rfl, hready, hpass⟩)
    obtain ⟨before, after, hrules, hid, hfirst, hrole, hbefore⟩ := findEgressRule_eq_some.mp hfind
    rw [htransport] at hfirst hbefore
    exact ⟨before, first, after, hrules, hid, hfirst, hrole, hvalid, hbefore⟩
  · intro h ruleId hlisted
    obtain ⟨rule, hmem, rfl, hready, hpass⟩ := (hegress _).mp hlisted
    obtain ⟨before, first, after, hrules, hid, hfirst, hrole, hvalid, hbefore⟩ :=
      h rule hmem hready hpass
    rw [← htransport] at hfirst hbefore
    have hfind : runtime.findEgressRule rule.id = some first :=
      findEgressRule_eq_some.mpr ⟨before, after, hrules, hid, hfirst, hrole, hbefore⟩
    refine ⟨first, hfind, hvalid, ?_⟩
    intro frame payload dial hdecode hpayload
    exact core_handleEgressOpen hdecode (hpayload ▸ hfind) dial
  · rw [mem_listenerPlan]
    simp only [plansListener_iff, and_assoc]

/-- A host on which every port can be bound. -/
def openHost : TunnelHost where
  osSupported := true
  parseIp := fun _ => none
  bind := fun _ => none

/-- A runtime with a single rule. -/
def withRule (rule : SelectedTunnelRule) : TunnelTcpRuntime :=
  { new .default "websocket" with rules := [rule] }

/-- The local rule, whose role is in lower case. -/
theorem advertised_servable_local :
    (withRule localRule).dataTransport = normalizeDataTransportFilter "websocket" ∧
      AdvertisedServable openHost ⟨[], []⟩ "1" "websocket" (withRule localRule) := by
  refine ⟨rfl, (advertised_servable_iff openHost ⟨[], []⟩ "1" "websocket" (withRule localRule)
    rfl).mpr ⟨?_, ?_⟩⟩
  · intro rule hmem _ _
    rw [List.mem_singleton.mp hmem]
    exact ⟨[], localRule, [], rfl, rfl, by decide +kernel, by decide +kernel, by decide +kernel,
      fun _ h => absurd h List.not_mem_nil⟩
  · intro rule hmem _
    rw [List.mem_singleton.mp hmem]
    exact ⟨localRule, List.mem_singleton.mpr rfl, by decide +kernel, by decide +kernel, rfl⟩

/-- The same rule with its role in capitals is advertised, but an open frame for it is refused and
no listener is planned for it. -/
theorem capital_role_not_servable :
    (buildTunnelReadyState openHost ⟨[], []⟩ "1" [{ localRule with role := "BOTH" }]
        "websocket").egressRuleIds = [7] ∧
    ((withRule { localRule with role := "BOTH" }).handleEgressOpen (localOpen 1)
        fun _ => .connected).1 =
      refuse 1 7 "runtime_unavailable" "egress rule is not ready" ∧
    readyRule "websocket" .ingress { localRule with role := "BOTH" } = true ∧
    buildTcpListenerPlanForDataTransport [{ localRule with role := "BOTH" }] "websocket" = [] := by
  decide +kernel

end TunnelTcpRuntime

end KeliAgent
