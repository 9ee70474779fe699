import KeliAgent.Tunnel.Accounting
import KeliAgent.Tunnel.Effects

/-!
# The limit on sessions

An operation that opens a session checks the number of active sessions first and counts its own
session last; an egress open dials its target in between. The check therefore misses the operations
that have passed it and are not yet counted.

* `Ledger.Covered`: the sessions in the map are counted, or their count is under way; kept by every
  step, in order or not.
* `TunnelTask.admitted`: a task that has passed the check and has not counted its session.
* **`sessions_le_limit`**: the map never exceeds the limit, if every check that is passed leaves
  room for the admitted operations too.
* `concurrent_opens_exceed_limit`: two opens pass the check of a limit of one.
-/

namespace KeliAgent

open Interleave AsyncTunnelCore

/-! ## Every session in the map is covered -/

namespace Ledger

variable {l l' : Ledger} {a : Action} {ts ts' rest tokens us : List Token}

/-- The sessions in the map, and those yet to be uncounted, are counted or yet to be counted. -/
def Covered (l : Ledger) (tokens : List Token) : Prop :=
  l.refs.length + due Duty.owesActive (fun _ => true) tokens ≤
    l.active + due Duty.lacksActive (fun _ => true) tokens

theorem Covered.perm (h : l.Covered tokens) (hperm : tokens.Perm us) : l.Covered us := by
  unfold Covered at h ⊢
  rwa [← due_perm hperm, ← due_perm hperm]

/-- An insertion replaces the entry of its id, if there is one. -/
theorem length_refs_insert_le (l : Ledger) (sessionId ruleId : UInt64) :
    (l.insert sessionId ruleId).refs.length ≤ l.refs.length + 1 := by
  have hentries : (l.insert sessionId ruleId).sessions.entries =
      ⟨sessionId, l.cells.length⟩ :: l.sessions.entries.kerase sessionId := rfl
  have hle := (List.kerase_sublist sessionId l.sessions.entries).length_le
  rw [refs, hentries, List.length_map, List.length_cons, refs, List.length_map]
  omega

theorem length_refs_erase {sessionId : UInt64} {n : ℕ} (h : l.sessions.lookup sessionId = some n) :
    l.refs.length = (l.erase sessionId).refs.length + 1 := by
  rw [(refs_erase h).length_eq, List.length_cons]

theorem Covered.step (h : l.Covered (ts ++ rest)) (hstep : Step l a ts l' ts') :
    l'.Covered (ts' ++ rest) := by
  unfold Covered at h ⊢
  cases hstep with
  | insert sessionId ruleId =>
    have hlen := length_refs_insert_le l sessionId ruleId
    have hactive : (l.insert sessionId ruleId).active = l.active := rfl
    simp [Duty.owesActive, Duty.lacksActive] at h ⊢
    omega
  | removeOwn hcell hm =>
    have hlen := length_refs_erase hm
    have hactive : ∀ i, (l.erase i).active = l.active := fun _ => rfl
    simp [Duty.owesActive, Duty.lacksActive, hactive] at h ⊢
    omega
  | remove hn =>
    have hlen := length_refs_erase hn
    have hactive : ∀ i, (l.erase i).active = l.active := fun _ => rfl
    simp [Duty.owesActive, Duty.lacksActive, hactive] at h ⊢
    omega
  | drain =>
    have hrefs : l.clear.refs.length = 0 := rfl
    have hactive : l.clear.active = l.active := rfl
    have howes : due Duty.owesActive (fun _ => true) (l.refs.map (⟨.closing, ·⟩)) = l.refs.length := by
      simp [due, List.countP_map, Function.comp_def, Duty.owesActive]
    have hlacks : due Duty.lacksActive (fun _ => true) (l.refs.map (⟨.closing, ·⟩)) = 0 := by
      simp [due, List.countP_map, Function.comp_def, Duty.lacksActive]
    rw [due_append, due_append, howes, hlacks, hrefs, hactive]
    rw [List.nil_append] at h
    omega
  | _ =>
    simp [Duty.owesActive, Duty.lacksActive] at h ⊢
    omega

/-- Only the counting of a session makes the counter grow. -/
theorem Step.active_le (hstep : Step l a ts l' ts')
    (hlacks : due Duty.lacksActive (fun _ => true) ts = 0) : l'.active ≤ l.active := by
  cases hstep with
  | countActive n => simp [Duty.lacksActive] at hlacks
  | insert | removeOwn | remove | drain => exact le_rfl
  | _ => simp

end Ledger

/-! ## Admitted operations -/

/-- The task is about to check the number of active sessions. -/
def TunnelTask.checks : TunnelTask → Bool
  | .opening (.egressCheck _ _) | .opening (.ingressCheck _ _) => true
  | _ => false

/-- The task has passed the check and has yet to count its session. -/
def TunnelTask.admitted : TunnelTask → Bool
  | .opening (.egressDial _ _) | .opening (.insert _) | .opening (.countActive _ _) => true
  | _ => false

/-- A check that is passed leaves room for the operations that were admitted before. -/
def ChecksAdmitted (core : AsyncTunnelCore) (t : TunnelTask) (rest : List TunnelTask)
    (_ : TunnelAnswer) : Prop :=
  t.checks = true → core.stats.activeSessions < core.limits.maxSessionsPerAgent →
    core.stats.activeSessions + rest.countP (·.admitted) < core.limits.maxSessionsPerAgent

instance (core : AsyncTunnelCore) (t : TunnelTask) (rest : List TunnelTask)
    (answer : TunnelAnswer) : Decidable (ChecksAdmitted core t rest answer) :=
  inferInstanceAs (Decidable (t.checks = true →
    core.stats.activeSessions < core.limits.maxSessionsPerAgent →
      core.stats.activeSessions + rest.countP (·.admitted) < core.limits.maxSessionsPerAgent))

theorem TunnelTask.admitted_of_kind {t : TunnelTask} (h : t.kind ≠ .opening) :
    t.admitted = false := by
  cases t with
  | opening task => exact absurd rfl h
  | _ => rfl

/-- A session that is not counted has an admitted task. -/
theorem due_lacksActive_le (tasks : List TunnelTask) :
    Ledger.due Duty.lacksActive (fun _ => true) (tokensOf tasks) ≤
      tasks.countP (·.admitted) := by
  have hone : ∀ t : TunnelTask, Ledger.due Duty.lacksActive (fun _ => true) t.tokens ≤
      if t.admitted then 1 else 0 := by
    intro t
    cases t with
    | opening task => cases task <;> simp [TunnelTask.tokens, OpenTask.tokens, Duty.lacksActive,
        TunnelTask.admitted]
    | reader ref task => cases task <;> simp [TunnelTask.tokens, ReaderTask.tokens, Duty.lacksActive]
    | close task => cases task <;> simp [TunnelTask.tokens, CloseTask.tokens, Duty.lacksActive]
    | closeAll task =>
      cases task <;> simp [TunnelTask.tokens, CloseAllTask.tokens, Duty.lacksActive, Ledger.due,
        List.countP_map, Function.comp_def, TunnelTask.admitted]
    | writer | data | nextFrames => simp [TunnelTask.tokens]
  induction tasks with
  | nil => exact le_rfl
  | cons t ts ih =>
    have := hone t
    rw [tokensOf_cons, Ledger.due_append, List.countP_cons]
    omega

/-! ## Runs -/

/-- The sessions are covered, and the counted sessions and the admitted operations are within the
limit. -/
structure WithinLimit (maxSessions : ℕ) (core : AsyncTunnelCore) (tasks : List TunnelTask) :
    Prop where
  limit : core.limits.maxSessionsPerAgent = maxSessions
  rules : ∀ t ∈ tasks, t.RuleKnown core.ledger
  covered : core.ledger.Covered (tokensOf tasks)
  reserved : core.stats.activeSessions + tasks.countP (·.admitted) ≤ maxSessions

/-- Admission, seen from the counter: an operation that opens a session adds itself only by a check,
and gives up its place when it is counted. -/
theorem OpenTask.admitted_turn (answer : TunnelAnswer) (core : AsyncTunnelCore) (task : OpenTask) :
    (task.turn answer core).shared.stats.activeSessions +
          (task.turn answer core).tasks.countP (·.admitted) ≤
        core.stats.activeSessions + (if (TunnelTask.opening task).admitted then 1 else 0) ∨
      ((TunnelTask.opening task).checks = true ∧
        core.stats.activeSessions < core.limits.maxSessionsPerAgent ∧
        (task.turn answer core).shared.stats.activeSessions +
          (task.turn answer core).tasks.countP (·.admitted) = core.stats.activeSessions + 1) := by
  have hcheck : core.ensureAgentSessionCapacity = .ok () →
      core.stats.activeSessions < core.limits.maxSessionsPerAgent := by
    intro hok
    unfold ensureAgentSessionCapacity at hok
    split_ifs at hok with hfull
    exact not_le.mp hfull
  cases task with
  | egressCheck sessionId ruleId =>
    simp only [OpenTask.turn]
    split
    · exact Or.inl (by simp)
    · rename_i hok
      exact Or.inr ⟨rfl, hcheck hok, by simp [TunnelTask.admitted]⟩
  | ingressCheck sessionId payload =>
    simp only [OpenTask.turn]
    split
    · exact Or.inl (by simp)
    · rename_i hok
      exact Or.inr ⟨rfl, hcheck hok, by simp [TunnelTask.admitted]⟩
  | egressDial sessionId ruleId =>
    refine Or.inl ?_
    simp only [OpenTask.turn]
    split <;> simp [TunnelTask.admitted]
  | countRule opening ref =>
    refine Or.inl ?_
    cases opening <;> simp [OpenTask.turn, Opening.afterCount, TunnelTask.admitted, updateStats,
      TunnelRuntimeStats.countRule]
  | announce sessionId payload ref =>
    refine Or.inl ?_
    have hactive : (core.announce sessionId payload answer.now).2.stats = core.stats := by
      unfold AsyncTunnelCore.announce
      cases encodeSessionOpenPayload payload <;> rfl
    simp only [OpenTask.turn]
    split <;> rename_i h <;> rw [h] at hactive <;>
    · simp only [dropReceiver, modifySession, List.countP_nil, List.countP_singleton,
        TunnelTask.admitted, Bool.false_eq_true, if_false, Nat.add_zero]
      exact (congrArg TunnelRuntimeStats.activeSessions hactive).le
  | _ =>
    refine Or.inl ?_
    simp [OpenTask.turn, TunnelTask.admitted, insertSession, updateStats,
      TunnelRuntimeStats.countActive, TunnelRuntimeStats.countTotal, spawnSessionReader,
      setReaderTask, modifySession]

namespace WithinLimit

variable {maxSessions : ℕ} {core : AsyncTunnelCore} {t : TunnelTask} {tasks rest : List TunnelTask}

theorem perm {tasks' : List TunnelTask} (hperm : tasks.Perm tasks')
    (h : WithinLimit maxSessions core tasks) : WithinLimit maxSessions core tasks' where
  limit := h.limit
  rules := fun t ht => h.rules t (hperm.mem_iff.mpr ht)
  covered := h.covered.perm (hperm.flatMap_right _)
  reserved := hperm.countP_eq _ ▸ h.reserved

theorem start (op : TunnelOp) (h : WithinLimit maxSessions core tasks) :
    WithinLimit maxSessions core (op.task :: tasks) where
  limit := h.limit
  rules := List.forall_mem_cons.mpr ⟨ruleKnown_start op _, h.rules⟩
  covered := by
    rw [tokensOf_cons, tokens_start]
    exact h.covered
  reserved := by
    have hop : op.task.admitted = false := by cases op <;> rfl
    rw [List.countP_cons_of_neg (by simp [hop])]
    exact h.reserved

/-- The counter and the admitted operations after a turn. -/
theorem reserved_turn (h : WithinLimit maxSessions core (t :: rest)) {answer : TunnelAnswer}
    (hchecks : ChecksAdmitted core t rest answer) {d : TunnelTurn}
    (hturn : t.turn answer core = some d) :
    d.shared.stats.activeSessions + (d.tasks ++ rest).countP (·.admitted) ≤ maxSessions := by
  have hbefore := h.reserved
  rw [List.countP_cons] at hbefore
  rw [List.countP_append]
  by_cases hkind : t.kind = .opening
  · cases t with
    | opening task =>
      cases hturn
      rcases task.admitted_turn answer core with hle | ⟨hcheck, hroom, heq⟩
      · omega
      · have hlt := hchecks hcheck hroom
        rw [h.limit] at hlt
        omega
    | _ => cases hkind
  · have htasks : d.tasks.countP (·.admitted) = 0 := by
      rw [List.countP_eq_zero]
      intro u hu
      rw [TunnelTask.admitted_of_kind ((TunnelTask.frame_turn hturn hkind).1 u hu ▸ hkind)]
      exact Bool.false_ne_true
    obtain ⟨ts, ts', frame, htokens, -, hstep⟩ :=
      t.ledgerMove answer (h.rules t List.mem_cons_self) hturn
    have hnone : Ledger.due Duty.lacksActive (fun _ => true) ts = 0 := by
      have hle := due_lacksActive_le [t]
      rw [List.countP_singleton, TunnelTask.admitted_of_kind hkind, tokensOf_cons, tokensOf_nil,
        List.append_nil, Ledger.due_perm htokens, Ledger.due_append] at hle
      simp only [Bool.false_eq_true, if_false] at hle
      omega
    have hactive : d.shared.stats.activeSessions ≤ core.stats.activeSessions :=
      hstep.active_le hnone
    omega

theorem turn (h : WithinLimit maxSessions core (t :: rest)) {answer : TunnelAnswer}
    (hchecks : ChecksAdmitted core t rest answer) {d : TunnelTurn}
    (hturn : t.turn answer core = some d) :
    WithinLimit maxSessions d.shared (d.tasks ++ rest) := by
  obtain ⟨ts, ts', frame, hbefore, hafter, hstep⟩ :=
    t.ledgerMove answer (h.rules t List.mem_cons_self) hturn
  refine ⟨?_, rulesKnown_turn hturn h.rules hstep, ?_, h.reserved_turn hchecks hturn⟩
  · rw [(TunnelTask.core_turn hturn).1, h.limit]
  · have hcovered : core.ledger.Covered (ts ++ (frame ++ tokensOf rest)) := by
      refine h.covered.perm ?_
      rw [tokensOf_cons, ← List.append_assoc]
      exact hbefore.append_right _
    refine (hcovered.step hstep).perm ?_
    rw [tokensOf_append, ← List.append_assoc]
    exact (hafter.append_right _).symm

theorem length_le (h : WithinLimit maxSessions core tasks) :
    core.sessions.entries.length ≤ maxSessions := by
  have hcovered := h.covered
  have hlacks := due_lacksActive_le tasks
  have hreserved := h.reserved
  have hrefs : core.ledger.refs.length = core.sessions.entries.length := List.length_map _
  have hactive : core.ledger.active = core.stats.activeSessions := rfl
  unfold Ledger.Covered at hcovered
  omega

end WithinLimit

/-- **The limit on sessions.** In every run in which each check that is passed leaves room for the
operations admitted before it, the map never holds more sessions than the limit. -/
theorem sessions_le_limit (limits : TunnelRuntimeLimits)
    {actions : List (Action TunnelAnswer TunnelOp)}
    {c : Config AsyncTunnelCore TunnelTask TunnelObservation}
    (halong : tunnelSystem.Along ChecksAdmitted (tunnelStart limits) actions)
    (hrun : tunnelSystem.run (tunnelStart limits) actions = some c) :
    c.shared.sessions.entries.length ≤ limits.maxSessionsPerAgent := by
  have hstart : WithinLimit limits.maxSessionsPerAgent (tunnelStart limits).shared
      (tunnelStart limits).tasks :=
    ⟨rfl, fun _ ht => absurd ht List.not_mem_nil, le_rfl, Nat.zero_le _⟩
  exact (@System.inv_run _ _ _ _ _ tunnelSystem ChecksAdmitted
    (fun core tasks _ => WithinLimit limits.maxSessionsPerAgent core tasks)
    (fun hperm h => h.perm hperm) (fun op h => h.start op)
    (fun h hchecks hturn => h.turn hchecks hturn) _ _ _ hstart halong hrun).length_le

/-! ### Concurrent opens -/

def atMost (maxSessions : ℕ) : TunnelRuntimeLimits :=
  { TunnelRuntimeLimits.default with maxSessionsPerAgent := maxSessions }

/-- The second open is checked, dials and inserts its session while the first one is not yet
counted. A third one comes when both are. -/
def threeOpens : List (Action TunnelAnswer TunnelOp) :=
  [.start (.openEgress 1 7), .turn 0 endOfStream, .start (.openEgress 2 7), .turn 0 endOfStream] ++
    List.replicate 6 (.turn 1 endOfStream) ++ [.start (.openEgress 3 7), .turn 0 endOfStream]

/-- There is room for the two opens that overlap, and the third is refused. -/
theorem sessions_le_limit_concurrent :
    tunnelSystem.Along ChecksAdmitted (tunnelStart (atMost 2)) threeOpens ∧
    ∃ c, tunnelSystem.run (tunnelStart (atMost 2)) threeOpens = some c ∧
      c.shared.sessions.lookup 1 = some 0 ∧ c.shared.sessions.lookup 2 = some 1 ∧
      c.shared.sessions.lookup 3 = none ∧ c.shared.sessions.entries.length ≤ 2 := by
  have halong : tunnelSystem.Along ChecksAdmitted (tunnelStart (atMost 2)) threeOpens := by
    decide +kernel
  exact ⟨halong, _, rfl, by decide +kernel, by decide +kernel, by decide +kernel,
    sessions_le_limit (atMost 2) halong rfl⟩

/-- Both opens pass the check before either is counted. -/
theorem concurrent_opens_exceed_limit :
    ∃ c, tunnelSystem.run (tunnelStart (atMost 1))
        [.start (.openEgress 1 7), .turn 0 endOfStream, .start (.openEgress 2 7),
          .turn 0 endOfStream, .turn 0 endOfStream, .turn 0 endOfStream, .turn 1 endOfStream,
          .turn 0 endOfStream] = some c ∧
      c.shared.sessions.entries.length = 2 := by
  refine ⟨_, rfl, ?_⟩
  decide +kernel

end KeliAgent
