import KeliAgent.Lib.Text
import KeliAgent.Lib.Interleave

/-!
# The connectivity probe

The backend configures targets; probes read the configuration, ping the targets without the lock and
store one result (`cn_connectivity.rs`). Several probes may be under way while the configuration
changes.

* `probeSystem`: updates of the configuration and probes, one access to the state at a time.
* `streak`: how many probes in a row, up to now, found no target.
* **`probe_status_exact`**: in every run the counter is the streak, and the reported status says
  what the last probes found.
-/

namespace KeliAgent

open Interleave

/-! ## The configuration -/

def positiveOrDefault (value default : ℤ) : ℤ := if value > 0 then value else default

/-- The characters between targets. -/
def separatesTargets (c : Char) : Bool := c == '\n' || c == '\r' || c == ',' || c == ';'

/-- One piece of the setting: blank ones and repeated ones are left out. -/
def addTarget (targets : List String) (target : String) : List String :=
  if Text.trim target ≠ "" ∧ Text.trim target ∉ targets then targets ++ [Text.trim target]
  else targets

def parseTargets (value : String) : List String :=
  (Text.split value separatesTargets).foldl addTarget []

structure CnConnectivityProbeConfig where
  enabled : Bool
  targets : List String
  targetsKey : String
  intervalSeconds : ℤ
  retryAttempts : ℤ
  retryDelaySeconds : ℤ
  timeoutSeconds : ℤ
  deriving DecidableEq, Repr

namespace CnConnectivityProbeConfig

def default : CnConnectivityProbeConfig where
  enabled := false
  targets := []
  targetsKey := ""
  intervalSeconds := 60
  retryAttempts := 3
  retryDelaySeconds := 1
  timeoutSeconds := 5

def fromBackend (enabled : Bool) (target : Option String) (intervalSeconds retryAttempts
    retryDelaySeconds timeoutSeconds : ℤ) : CnConnectivityProbeConfig where
  enabled := enabled && !(parseTargets (target.getD "")).isEmpty
  targets := parseTargets (target.getD "")
  targetsKey := "\n".intercalate (parseTargets (target.getD ""))
  intervalSeconds := positiveOrDefault intervalSeconds 60
  retryAttempts := positiveOrDefault retryAttempts 3
  retryDelaySeconds := positiveOrDefault retryDelaySeconds 1
  timeoutSeconds := positiveOrDefault timeoutSeconds 5

/-- The targets are trimmed and not repeated, and an enabled configuration has some. -/
structure Formed (config : CnConnectivityProbeConfig) : Prop where
  trimmed : ∀ target ∈ config.targets, Text.trim target = target ∧ target ≠ ""
  nodup : config.targets.Nodup
  nonempty : config.enabled = true → config.targets ≠ []

end CnConnectivityProbeConfig

/-! ## A probe -/

/-- The statuses of a result: `unknown`, `ok`, `degraded` and `blocked_suspected`. -/
inductive CnConnectivityStatus where
  | unknown | ok | degraded | blockedSuspected
  deriving DecidableEq, Repr

structure CnConnectivityProbeResult where
  status : CnConnectivityStatus
  target : String
  latency : Option ℤ
  message : String
  checkedAt : Option String
  consecutiveFailures : Option UInt32
  deriving DecidableEq, Repr

/-- What the world answers to a probe: the outcome of each attempt on each target, and the times at
which a target and the whole probe were done. A configuration does not repeat targets, so a target
and the number of the attempt determine the call of the prober. -/
structure ProbeAnswers where
  attempt : String → ℕ → Except String ℤ
  targetDone : String → String
  probeDone : String

/-- The attempts that are left, after `count` of them; the last error if none succeeds. -/
def attemptLoop (attempt : ℕ → Except String ℤ) : ℕ → ℕ → Option String → Except (Option String) ℤ
  | 0, _, lastError => .error lastError
  | left + 1, count, _ =>
    match attempt count with
    | .ok latency => .ok latency
    | .error error => attemptLoop attempt left (count + 1) (some error)

def failureMessage (attempts : ℤ) : Option String → String
  | some error => if attempts = 1 then error
    else error ++ " after " ++ toString attempts ++ " attempts"
  | none => "connectivity probe failed"

def probeTargetWithRetries (answers : ProbeAnswers) (target : String) (retryAttempts : ℤ) :
    CnConnectivityProbeResult :=
  let attempts := positiveOrDefault retryAttempts 3
  match attemptLoop (answers.attempt target) attempts.toNat 0 none with
  | .ok latency =>
    { status := .ok, target, latency := some latency, message := "icmp reachable"
      checkedAt := some (answers.targetDone target), consecutiveFailures := none }
  | .error lastError =>
    { status := .degraded, target, latency := none, message := failureMessage attempts lastError
      checkedAt := some (answers.targetDone target), consecutiveFailures := none }

/-- The targets that are left; the messages of those that failed. -/
def targetLoop (answers : ProbeAnswers) (retryAttempts : ℤ) :
    List String → List String → Except (List String) CnConnectivityProbeResult
  | [], failures => .error failures
  | target :: targets, failures =>
    let result := probeTargetWithRetries answers target retryAttempts
    if result.status = .ok then .ok result
    else targetLoop answers retryAttempts targets (failures ++ [target ++ ": " ++ result.message])

def probeTargetsWithRetries (answers : ProbeAnswers) (config : CnConnectivityProbeConfig) :
    CnConnectivityProbeResult :=
  if config.targets = [] then
    { status := .degraded, target := "", latency := none, message := "no targets configured"
      checkedAt := some answers.probeDone, consecutiveFailures := none }
  else
    match targetLoop answers config.retryAttempts config.targets [] with
    | .ok result => result
    | .error failures =>
      { status := .degraded, target := ", ".intercalate config.targets, latency := none
        message := "; ".intercalate failures, checkedAt := some answers.probeDone
        consecutiveFailures := none }

/-! ## The state -/

structure CnConnectivityState where
  config : CnConnectivityProbeConfig
  result : Option CnConnectivityProbeResult
  failures : UInt32

def failureLimit : UInt32 := 2

namespace CnConnectivityState

def default : CnConnectivityState := ⟨.default, none, 0⟩

variable (state : CnConnectivityState)

/-- An enabled configuration has a first target. -/
def waiting (config : CnConnectivityProbeConfig) : CnConnectivityProbeResult where
  status := .unknown
  target := config.targets.headD ""
  latency := none
  message := "waiting for probe"
  checkedAt := none
  consecutiveFailures := none

/-- The locked part of `update_config`. -/
def updateConfig (config : CnConnectivityProbeConfig) : CnConnectivityState :=
  if state.config = config then state
  else
    { failures := 0
      result := if config.enabled then some (waiting config) else none
      config }

def storeProbeResult (config : CnConnectivityProbeConfig) (result : CnConnectivityProbeResult) :
    CnConnectivityState :=
  if state.config ≠ config ∨ state.config.enabled = false then state
  else if result.status = .ok then
    { state with failures := 0, result := some { result with consecutiveFailures := none } }
  else
    let failures := state.failures + 1
    { state with
      failures
      result := some { result with
        status := if failures ≥ failureLimit then .blockedSuspected else .degraded
        consecutiveFailures := some failures } }

end CnConnectivityState

/-! ## Updates and probes -/

inductive ProbeOp where
  | updateConfig (enabled : Bool) (target : Option String) (intervalSeconds retryAttempts
      retryDelaySeconds timeoutSeconds : ℤ)
  | probeOnce (answers : ProbeAnswers)

inductive ProbeTask where
  | update (config : CnConnectivityProbeConfig)
  | snapshot (answers : ProbeAnswers)
  | store (config : CnConnectivityProbeConfig) (answers : ProbeAnswers)

/-- The configuration changed, or a probe of the configuration was stored. -/
inductive ProbeObservation where
  | configured
  | stored (config : CnConnectivityProbeConfig) (answers : ProbeAnswers)

def ProbeOp.start : ProbeOp → ProbeTask
  | .updateConfig enabled target intervalSeconds retryAttempts retryDelaySeconds timeoutSeconds =>
    .update (.fromBackend enabled target intervalSeconds retryAttempts retryDelaySeconds
      timeoutSeconds)
  | .probeOnce answers => .snapshot answers

/-- One access to the state. A probe pings between its two accesses. -/
def ProbeTask.turn (state : CnConnectivityState) :
    ProbeTask → Config CnConnectivityState ProbeTask ProbeObservation
  | .update config =>
    ⟨state.updateConfig config, [], if state.config = config then [] else [.configured]⟩
  | .snapshot answers =>
    ⟨state, if state.config.enabled then [.store state.config answers] else [], []⟩
  | .store config answers =>
    ⟨state.storeProbeResult config (probeTargetsWithRetries answers config), [],
      if state.config ≠ config ∨ state.config.enabled = false then []
      else [.stored config answers]⟩

def probeSystem : System CnConnectivityState ProbeTask ProbeObservation Unit ProbeOp where
  start := ProbeOp.start
  step _ state task := some (task.turn state)

def probeStart : Config CnConnectivityState ProbeTask ProbeObservation := ⟨.default, [], []⟩

/-- Some target answers within its attempts. -/
def CnConnectivityProbeConfig.answered (config : CnConnectivityProbeConfig)
    (answers : ProbeAnswers) : Bool :=
  config.targets.any fun target =>
    (List.range (positiveOrDefault config.retryAttempts 3).toNat).any fun count =>
      (answers.attempt target count).isOk

/-- A stored probe without an answer. -/
def ProbeObservation.failed : ProbeObservation → Bool
  | .configured => false
  | .stored config answers => !config.answered answers

/-- The number of failed probes since the last one that was answered or the last change of the
configuration. -/
def streak (trace : List ProbeObservation) : ℕ :=
  (trace.reverse.takeWhile ProbeObservation.failed).length

/-! ## Targets and answers -/

theorem addTarget_nodup {targets : List String} (h : targets.Nodup) (target : String) :
    (addTarget targets target).Nodup := by
  unfold addTarget
  split_ifs with hnew
  · exact h.append (List.nodup_singleton _) (List.disjoint_singleton.mpr hnew.2)
  · exact h

theorem mem_addTarget {targets : List String} {target new : String}
    (h : new ∈ addTarget targets target) :
    new ∈ targets ∨ new = Text.trim target ∧ Text.trim target ≠ "" := by
  unfold addTarget at h
  split_ifs at h with hnew
  · rcases List.mem_append.mp h with h | h
    · exact Or.inl h
    · exact Or.inr ⟨List.mem_singleton.mp h, hnew.1⟩
  · exact Or.inl h

theorem parseTargets_spec (value : String) :
    (parseTargets value).Nodup ∧
      ∀ target ∈ parseTargets value, Text.trim target = target ∧ target ≠ "" := by
  refine List.foldlRecOn
    (motive := fun targets : List String => targets.Nodup ∧
      ∀ target ∈ targets, Text.trim target = target ∧ target ≠ "")
    (Text.split value separatesTargets) addTarget ⟨List.nodup_nil, nofun⟩ ?_
  rintro targets ⟨hnodup, htrimmed⟩ piece -
  refine ⟨addTarget_nodup hnodup piece, fun target hmem => ?_⟩
  rcases mem_addTarget hmem with hmem | ⟨rfl, hne⟩
  · exact htrimmed target hmem
  · exact ⟨Text.trim_trim piece, hne⟩

namespace CnConnectivityProbeConfig

theorem formed_default : default.Formed := ⟨nofun, List.nodup_nil, nofun⟩

theorem formed_fromBackend (enabled : Bool) (target : Option String) (intervalSeconds retryAttempts
    retryDelaySeconds timeoutSeconds : ℤ) :
    (fromBackend enabled target intervalSeconds retryAttempts retryDelaySeconds
      timeoutSeconds).Formed := by
  obtain ⟨hnodup, htrimmed⟩ := parseTargets_spec (target.getD "")
  refine ⟨htrimmed, hnodup, fun henabled hnil => ?_⟩
  simp only [fromBackend] at henabled hnil
  rw [hnil] at henabled
  simp at henabled

end CnConnectivityProbeConfig

/-- The attempts succeed exactly if one of them does. -/
theorem attemptLoop_isOk (attempt : ℕ → Except String ℤ) (left count : ℕ)
    (lastError : Option String) :
    (attemptLoop attempt left count lastError).isOk = true ↔
      ∃ k, count ≤ k ∧ k < count + left ∧ (attempt k).isOk = true := by
  induction left generalizing count lastError with
  | zero =>
    refine ⟨nofun, ?_⟩
    rintro ⟨k, hle, hlt, -⟩
    omega
  | succ left ih =>
    rw [attemptLoop]
    cases hfirst : attempt count with
    | ok latency =>
      refine ⟨fun _ => ⟨count, le_rfl, by omega, by rw [hfirst]; rfl⟩, fun _ => rfl⟩
    | error error =>
      rw [ih]
      constructor
      · rintro ⟨k, hle, hlt, hk⟩
        exact ⟨k, by omega, by omega, hk⟩
      · rintro ⟨k, hle, hlt, hk⟩
        have hne : k ≠ count := by
          rintro rfl
          rw [hfirst] at hk
          cases hk
        exact ⟨k, by omega, by omega, hk⟩

/-- The target is reachable exactly if one of its attempts succeeds. -/
theorem status_probeTarget (answers : ProbeAnswers) (target : String) (retryAttempts : ℤ) :
    (probeTargetWithRetries answers target retryAttempts).status = .ok ↔
      ((List.range (positiveOrDefault retryAttempts 3).toNat).any fun count =>
        (answers.attempt target count).isOk) = true := by
  have hloop := attemptLoop_isOk (answers.attempt target)
    (positiveOrDefault retryAttempts 3).toNat 0 none
  simp only [Nat.zero_le, true_and, Nat.zero_add] at hloop
  rw [List.any_eq_true]
  simp only [List.mem_range]
  rw [← hloop, probeTargetWithRetries]
  cases attemptLoop (answers.attempt target) (positiveOrDefault retryAttempts 3).toNat 0 none with
  | ok latency => exact ⟨fun _ => rfl, fun _ => rfl⟩
  | error lastError => exact ⟨nofun, nofun⟩

theorem targetLoop_cases (answers : ProbeAnswers) (retryAttempts : ℤ) (targets : List String)
    (failures : List String) :
    match targetLoop answers retryAttempts targets failures with
    | .ok result => result.status = .ok ∧
        ∃ target ∈ targets, (probeTargetWithRetries answers target retryAttempts).status = .ok
    | .error _ =>
        ∀ target ∈ targets, (probeTargetWithRetries answers target retryAttempts).status ≠ .ok := by
  induction targets generalizing failures with
  | nil => exact nofun
  | cons target targets ih =>
    rw [targetLoop]
    by_cases hok : (probeTargetWithRetries answers target retryAttempts).status = .ok
    · simp only [hok, if_true]
      exact ⟨trivial, target, List.mem_cons_self, hok⟩
    · simp only [hok, if_false]
      specialize ih (failures ++
        [target ++ ": " ++ (probeTargetWithRetries answers target retryAttempts).message])
      split at ih
      · obtain ⟨hstatus, target', hmem, htarget'⟩ := ih
        exact ⟨hstatus, target', List.mem_cons_of_mem _ hmem, htarget'⟩
      · exact List.forall_mem_cons.mpr ⟨hok, ih⟩

/-- **A probe is `ok` exactly if some target answers within its attempts.** -/
theorem status_probeTargets (answers : ProbeAnswers) (config : CnConnectivityProbeConfig) :
    (probeTargetsWithRetries answers config).status = .ok ↔ config.answered answers = true := by
  rw [CnConnectivityProbeConfig.answered, List.any_eq_true]
  simp only [← status_probeTarget]
  rw [probeTargetsWithRetries]
  split_ifs with hnil
  · rw [hnil]
    exact ⟨nofun, nofun⟩
  · have hcases := targetLoop_cases answers config.retryAttempts config.targets []
    cases hloop : targetLoop answers config.retryAttempts config.targets [] with
    | ok result =>
      rw [hloop] at hcases
      exact ⟨fun _ => hcases.2, fun _ => hcases.1⟩
    | error failures =>
      rw [hloop] at hcases
      refine ⟨nofun, ?_⟩
      rintro ⟨target, hmem, hok⟩
      exact absurd hok (hcases target hmem)

/-! ## The invariant -/

@[simp] theorem streak_configured (trace : List ProbeObservation) :
    streak (trace ++ [ProbeObservation.configured]) = 0 := by
  simp [streak, ProbeObservation.failed]

theorem streak_stored (trace : List ProbeObservation) (config : CnConnectivityProbeConfig)
    (answers : ProbeAnswers) :
    streak (trace ++ [ProbeObservation.stored config answers]) =
      if config.answered answers then 0 else streak trace + 1 := by
  rw [streak, List.reverse_append, List.reverse_singleton, List.singleton_append,
    List.takeWhile_cons]
  by_cases h : config.answered answers = true
  · simp [ProbeObservation.failed, h]
  · simp [ProbeObservation.failed, h, streak]

/-- The status says what the trace ends with. -/
structure Reports (trace : List ProbeObservation) (status : CnConnectivityStatus) : Prop where
  unknown : status = .unknown ↔ trace.getLast? = some .configured
  ok : status = .ok ↔ ∃ config answers, trace.getLast? = some (.stored config answers) ∧
    config.answered answers = true
  degraded : status = .degraded ↔ streak trace = 1
  blockedSuspected : status = .blockedSuspected ↔ 2 ≤ streak trace

theorem reports_configured (trace : List ProbeObservation) :
    Reports (trace ++ [ProbeObservation.configured]) .unknown := by
  refine ⟨?_, ?_, ?_, ?_⟩ <;> simp

theorem reports_answered (trace : List ProbeObservation) {config : CnConnectivityProbeConfig}
    {answers : ProbeAnswers} (h : config.answered answers = true) :
    Reports (trace ++ [ProbeObservation.stored config answers]) .ok := by
  have hstreak : streak (trace ++ [ProbeObservation.stored config answers]) = 0 := by
    rw [streak_stored, if_pos h]
  refine ⟨by simp, ⟨fun _ => ⟨config, answers, by simp, h⟩, fun _ => rfl⟩, ?_, ?_⟩
  · simp [hstreak]
  · simp [hstreak]

theorem reports_failed {trace : List ProbeObservation} {config : CnConnectivityProbeConfig}
    {answers : ProbeAnswers} (h : config.answered answers = false) :
    Reports (trace ++ [ProbeObservation.stored config answers])
      (if 2 ≤ streak trace + 1 then .blockedSuspected else .degraded) := by
  have hstreak : streak (trace ++ [ProbeObservation.stored config answers]) = streak trace + 1 := by
    rw [streak_stored, h]
    rfl
  have hlast : ∀ config' answers', (trace ++ [ProbeObservation.stored config answers]).getLast? =
      some (.stored config' answers') → config'.answered answers' = false := by
    intro config' answers' heq
    rw [List.getLast?_concat, Option.some.injEq, ProbeObservation.stored.injEq] at heq
    obtain ⟨rfl, rfl⟩ := heq
    exact h
  refine ⟨?_, ?_, ?_, ?_⟩
  · split_ifs <;> simp
  · constructor
    · split_ifs <;> exact nofun
    · rintro ⟨config', answers', heq, hok⟩
      rw [hlast config' answers' heq] at hok
      cases hok
  · rw [hstreak]
    split_ifs with h2
    · exact ⟨nofun, fun h1 => by omega⟩
    · exact ⟨fun _ => by omega, fun _ => rfl⟩
  · rw [hstreak]
    split_ifs with h2
    · exact ⟨fun _ => h2, fun _ => rfl⟩
    · exact ⟨nofun, fun h2' => absurd h2' h2⟩

/-- The counter has 32 bits; as long as the streak fits, the status is right. -/
structure ProbeInv (state : CnConnectivityState) (trace : List ProbeObservation) : Prop where
  formed : state.config.Formed
  present : state.result.isSome = state.config.enabled
  counted : state.failures = UInt32.ofNat (streak trace)
  reported : ∀ result, state.result = some result → streak trace < 2 ^ 32 →
    Reports trace result.status

namespace ProbeInv

variable {state : CnConnectivityState} {trace : List ProbeObservation}

theorem empty : ProbeInv .default [] where
  formed := CnConnectivityProbeConfig.formed_default
  present := rfl
  counted := rfl
  reported := nofun

/-- **An update.** -/
theorem update (h : ProbeInv state trace) {config : CnConnectivityProbeConfig}
    (hconfig : config.Formed) :
    ProbeInv (state.updateConfig config)
      (trace ++ if state.config = config then [] else [ProbeObservation.configured]) := by
  unfold CnConnectivityState.updateConfig
  split_ifs with hsame henabled
  · rw [List.append_nil]
    exact h
  · refine ⟨hconfig, henabled.symm, by simp, ?_⟩
    rintro result hresult -
    cases hresult
    exact reports_configured trace
  · exact ⟨hconfig, (Bool.eq_false_iff.mpr henabled).symm, by simp, nofun⟩

/-- A probe that was answered is stored. -/
theorem stored_answered (h : ProbeInv state trace) {answers : ProbeAnswers}
    (henabled : state.config.enabled = true) (hok : state.config.answered answers = true) :
    ProbeInv { state with
        failures := 0
        result := some { probeTargetsWithRetries answers state.config with
          consecutiveFailures := none } }
      (trace ++ [ProbeObservation.stored state.config answers]) := by
  refine ⟨h.formed, henabled.symm, ?_, ?_⟩
  · rw [streak_stored, if_pos hok]
    rfl
  · rintro result hresult -
    cases hresult
    rw [show (probeTargetsWithRetries answers state.config).status = .ok from
      (status_probeTargets answers state.config).mpr hok]
    exact reports_answered trace hok

/-- A probe that was not answered is stored. -/
theorem stored_failed (h : ProbeInv state trace) {answers : ProbeAnswers}
    (henabled : state.config.enabled = true) (hfailed : state.config.answered answers = false) :
    ProbeInv { state with
        failures := state.failures + 1
        result := some { probeTargetsWithRetries answers state.config with
          status := if state.failures + 1 ≥ failureLimit then .blockedSuspected else .degraded
          consecutiveFailures := some (state.failures + 1) } }
      (trace ++ [ProbeObservation.stored state.config answers]) := by
  have hstreak : streak (trace ++ [ProbeObservation.stored state.config answers]) =
      streak trace + 1 := by
    rw [streak_stored, hfailed]
    rfl
  have hcounted : state.failures + 1 = UInt32.ofNat (streak trace + 1) := by
    rw [h.counted, UInt32.ofNat_add]
    rfl
  refine ⟨h.formed, henabled.symm, ?_, ?_⟩
  · rw [hstreak]
    exact hcounted
  · intro result hresult hfew
    cases hresult
    rw [hstreak] at hfew
    have hlimit : state.failures + 1 ≥ failureLimit ↔ 2 ≤ streak trace + 1 := by
      rw [hcounted, ge_iff_le, UInt32.le_iff_toNat_le, UInt32.toNat_ofNat_of_lt' hfew]
      rfl
    simp only [hlimit]
    exact reports_failed hfailed

/-- **A store.** -/
theorem store (h : ProbeInv state trace) (config : CnConnectivityProbeConfig)
    (answers : ProbeAnswers) :
    ProbeInv (state.storeProbeResult config (probeTargetsWithRetries answers config))
      (trace ++ if state.config ≠ config ∨ state.config.enabled = false then []
        else [ProbeObservation.stored config answers]) := by
  unfold CnConnectivityState.storeProbeResult
  by_cases hignored : state.config ≠ config ∨ state.config.enabled = false
  · rw [if_pos hignored, if_pos hignored, List.append_nil]
    exact h
  · rw [if_neg hignored, if_neg hignored]
    obtain ⟨hsame, henabled⟩ := not_or.mp hignored
    rw [not_not] at hsame
    rw [Bool.not_eq_false] at henabled
    subst hsame
    by_cases hok : state.config.answered answers = true
    · rw [if_pos ((status_probeTargets answers state.config).mpr hok)]
      exact h.stored_answered henabled hok
    · rw [if_neg fun hstatus => hok ((status_probeTargets answers state.config).mp hstatus)]
      exact h.stored_failed henabled (Bool.eq_false_iff.mpr hok)

end ProbeInv

/-- The configurations on their way to the state are formed. -/
def ProbeTask.Formed : ProbeTask → Prop
  | .update config => config.Formed
  | .snapshot _ | .store _ _ => True

theorem ProbeTask.formed_start (op : ProbeOp) : op.start.Formed := by
  cases op with
  | updateConfig => exact CnConnectivityProbeConfig.formed_fromBackend _ _ _ _ _ _
  | probeOnce => trivial

/-- **One access.** -/
theorem ProbeInv.turn {state : CnConnectivityState} {trace : List ProbeObservation}
    (h : ProbeInv state trace) {task : ProbeTask} (htask : task.Formed) :
    ProbeInv (task.turn state).shared (trace ++ (task.turn state).trace) ∧
      ∀ next ∈ (task.turn state).tasks, next.Formed := by
  cases task with
  | update config => exact ⟨h.update htask, nofun⟩
  | snapshot answers =>
    refine ⟨by simpa [ProbeTask.turn] using h, fun next hnext => ?_⟩
    simp only [ProbeTask.turn] at hnext
    split_ifs at hnext
    · cases List.mem_singleton.mp hnext
      trivial
    · cases hnext
  | store config answers => exact ⟨h.store config answers, nofun⟩

/-- **Any interleaving.** -/
theorem probeInv_run {actions : List (Action Unit ProbeOp)}
    {c : Config CnConnectivityState ProbeTask ProbeObservation}
    (hrun : probeSystem.run probeStart actions = some c) : ProbeInv c.shared c.trace := by
  have hinv := @System.inv_run _ _ _ _ _ probeSystem (fun _ _ _ _ => True)
    (fun state tasks trace => ProbeInv state trace ∧ ∀ task ∈ tasks, task.Formed)
    (fun hperm h => ⟨h.1, fun task htask => h.2 task (hperm.mem_iff.mpr htask)⟩)
    (fun op h => ⟨h.1, List.forall_mem_cons.mpr ⟨ProbeTask.formed_start op, h.2⟩⟩)
    (fun h _ hstep => by
      cases hstep
      obtain ⟨htask, htasks⟩ := List.forall_mem_cons.mp h.2
      obtain ⟨hstate, hnext⟩ := h.1.turn htask
      exact ⟨hstate, List.forall_mem_append.mpr ⟨hnext, htasks⟩⟩)
    probeStart c actions ⟨ProbeInv.empty, fun _ h => absurd h List.not_mem_nil⟩
    (System.along_of_forall (fun _ _ _ _ => trivial) _ actions) hrun
  exact hinv.1

/-- **The state of the connectivity probe.** In every interleaving of updates and probes there is a
result exactly while the configuration is enabled, and an enabled configuration has trimmed targets
without repetitions. A probe of another configuration stores nothing. The counter is the number of
failed probes in a row, and the status says what the last probes of the configuration found; a probe
is `ok` exactly if some target answered within its attempts. -/
theorem probe_status_exact {actions : List (Action Unit ProbeOp)}
    {c : Config CnConnectivityState ProbeTask ProbeObservation}
    (hrun : probeSystem.run probeStart actions = some c) :
    (c.shared.result.isSome = true ↔ c.shared.config.enabled = true) ∧
    (c.shared.config.enabled = true → c.shared.config.targets ≠ [] ∧
      c.shared.config.targets.Nodup ∧
      ∀ target ∈ c.shared.config.targets, Text.trim target = target ∧ target ≠ "") ∧
    (∀ config answers, .store config answers ∈ c.tasks → config ≠ c.shared.config →
      (ProbeTask.store config answers).turn c.shared = ⟨c.shared, [], []⟩) ∧
    (streak c.trace < 2 ^ 32 → c.shared.failures.toNat = streak c.trace ∧
      ∀ result, c.shared.result = some result → Reports c.trace result.status) ∧
    ∀ config answers, (probeTargetsWithRetries answers config).status = .ok ↔
      config.answered answers = true := by
  have h := probeInv_run hrun
  refine ⟨by rw [h.present], fun henabled => ⟨h.formed.nonempty henabled, h.formed.nodup,
    h.formed.trimmed⟩, ?_, fun hfew => ⟨?_, fun result hresult => h.reported result hresult hfew⟩,
    fun config answers => status_probeTargets answers config⟩
  · intro config answers _ hne
    have hignored : c.shared.config ≠ config ∨ c.shared.config.enabled = false := Or.inl hne.symm
    rw [ProbeTask.turn, CnConnectivityState.storeProbeResult, if_pos hignored, if_pos hignored]
  · rw [h.counted, UInt32.toNat_ofNat_of_lt' hfew]

/-- No target answers. -/
def silent : ProbeAnswers := ⟨fun _ _ => .error "timeout", fun _ => "", ""⟩

/-- Two probes of two targets overlap, and both fail. -/
def twoFailures : List (Action Unit ProbeOp) :=
  [.start (.updateConfig true (some "a, b") 60 1 1 5), .turn 0 (), .start (.probeOnce silent),
    .turn 0 (), .start (.probeOnce silent), .turn 0 (), .turn 0 (), .turn 0 ()]

theorem probe_status_exact_twoFailures :
    ∃ c result, probeSystem.run probeStart twoFailures = some c ∧ c.shared.result = some result ∧
      c.shared.failures.toNat = 2 ∧ result.status = .blockedSuspected := by
  have hseen : ((probeSystem.run probeStart twoFailures).map fun c =>
      (streak c.trace, c.shared.config.enabled)) = some (2, true) := by
    decide +kernel
  obtain ⟨c, hrun, hc⟩ := Option.map_eq_some_iff.mp hseen
  obtain ⟨hstreak, henabled⟩ := Prod.mk.inj hc
  obtain ⟨hpresent, -, -, hcounted, -⟩ := probe_status_exact hrun
  obtain ⟨result, hresult⟩ := Option.isSome_iff_exists.mp (hpresent.mpr henabled)
  obtain ⟨hfailures, hreports⟩ := hcounted (by rw [hstreak]; decide)
  exact ⟨c, result, hrun, hresult, hfailures.trans hstreak,
    (hreports result hresult).blockedSuspected.mpr (by rw [hstreak])⟩

end KeliAgent
