import KeliAgent.Tunnel.Arrival
import KeliAgent.Tunnel.Outbound
import KeliAgent.Tunnel.Pending

/-!
# From the server to the TCP stream

The data session passes the data frames of the server to the core one after the other, by calls of
`handle_session_data`. A call finds the session by the id of the frame alone.

* `dataCalls`: the calls of a schedule; `dataResults`: the results of those that have returned.
* `Admitted`: the condition on a turn. Calls are made one at a time; the session is the only one
  with its id, and is there before its first data.
* `Feed`: what entered the channel of the session are the payloads of the first calls for it.
* **`written_isPrefix_sent`**: what is written to the TCP stream of a session is a prefix of what
  the server has sent for its id.
-/

namespace KeliAgent

open Interleave AsyncTunnelCore

/-! ## Calls and results -/

/-- The payloads of the calls for a session id. -/
def payloadsFor (sessionId : UInt64) (calls : List (UInt64 × List UInt8)) : List (List UInt8) :=
  (calls.filter (·.1 = sessionId)).map (·.2)

def TunnelOp.dataCall : TunnelOp → Option (UInt64 × List UInt8)
  | .sessionData sessionId payload => some (sessionId, payload)
  | _ => none

/-- The calls of `handle_session_data`, in order. -/
def dataCalls (ops : List TunnelOp) : List (UInt64 × List UInt8) := ops.filterMap (·.dataCall)

def TunnelObservation.dataResult : TunnelObservation → Option (Except TunnelRuntimeError Unit)
  | .dataHandled result => some result
  | _ => none

/-- The results of the calls that have returned. -/
def dataResults (trace : List TunnelObservation) : List (Except TunnelRuntimeError Unit) :=
  trace.filterMap (·.dataResult)

/-- `handle_server_frame` returns an error only if the code is another one, and the data session
ends with it. -/
def Continues : Except TunnelRuntimeError Unit → Bool
  | .ok () => true
  | .error error => error.code = "runtime_unavailable"

section Calls

variable {sessionId : UInt64}

theorem payloadsFor_append (calls calls' : List (UInt64 × List UInt8)) :
    payloadsFor sessionId (calls ++ calls') =
      payloadsFor sessionId calls ++ payloadsFor sessionId calls' := by
  simp [payloadsFor]

theorem dataCalls_append (ops ops' : List TunnelOp) :
    dataCalls (ops ++ ops') = dataCalls ops ++ dataCalls ops' :=
  List.filterMap_append

theorem dataResults_append (tr tr' : List TunnelObservation) :
    dataResults (tr ++ tr') = dataResults tr ++ dataResults tr' :=
  List.filterMap_append

theorem dataResults_handled (result : Except TunnelRuntimeError Unit) :
    dataResults [.dataHandled result] = [result] := rfl

theorem dataResults_of_kind {kind : TaskKind} {trace : List TunnelObservation}
    (h : SeenBy kind trace) (hne : kind ≠ .data) : dataResults trace = [] := by
  refine List.filterMap_eq_nil_iff.mpr fun o ho => ?_
  have hkind := h o ho
  cases o with
  | dataHandled result => exact absurd hkind.symm hne
  | _ => rfl

end Calls

/-! ## The session and its id -/

namespace Ledger

variable {l l' : Ledger} {a : Action} {ts ts' : List Token} {sessionId : UInt64} {ref : ℕ}

/-- Of all sessions that there ever were, the one at `ref` has the id and no other. -/
def Sole (sessionId : UInt64) (ref : ℕ) (l : Ledger) : Prop :=
  ∀ {n id}, l.idOf n = some id → (id = sessionId ↔ n = ref)

/-- The session has left the map. -/
structure Gone (sessionId : UInt64) (ref : ℕ) (l : Ledger) : Prop where
  opened : ref < l.cells.length
  missing : l.sessions.lookup sessionId = none

/-- The session id that an action inserts. -/
def Action.inserts : Action → Option UInt64
  | .insert sessionId => some sessionId
  | _ => none

theorem Sole.step (h : l.Sole sessionId ref) (hstep : Step l a ts l' ts')
    (hinserts : ∀ id ∈ a.inserts, id = sessionId ↔ l.cells.length = ref) :
    l'.Sole sessionId ref := by
  intro n id hid
  cases hstep with
  | insert id' ruleId =>
    rcases lt_or_ge n l.cells.length with hlt | hge
    · refine h (n := n) ?_
      rw [← hid, idOf, idOf, Ledger.insert, List.getElem?_append_left hlt]
    · have hlt := (List.getElem?_eq_some_iff.mp (Option.map_eq_some_iff.mp hid).choose_spec.1).1
      obtain rfl : n = l.cells.length := by
        rw [Ledger.insert, List.length_append, List.length_singleton] at hlt
        omega
      obtain rfl : id' = id := by simpa [idOf, Ledger.insert] using hid
      exact hinserts _ rfl
  | spawn | cancel | leave | endRule =>
    rw [idOf_setStatus] at hid
    exact h hid
  | abort =>
    rw [idOf_abort] at hid
    exact h hid
  | _ => exact h hid

theorem Gone.step (h : l.Gone sessionId ref) (hstep : Step l a ts l' ts')
    (hinserts : ∀ id ∈ a.inserts, id = sessionId ↔ l.cells.length = ref) :
    l'.Gone sessionId ref := by
  refine ⟨h.opened.trans_le hstep.length_le, ?_⟩
  have hmissing := h.missing
  cases hstep with
  | insert id ruleId =>
    have hne : sessionId ≠ id := fun heq =>
      h.opened.ne' ((hinserts id rfl).mp heq.symm)
    rw [Ledger.insert, AList.lookup_insert_ne hne]
    exact hmissing
  | removeOwn | remove =>
    rw [lookup_erase]
    split_ifs
    · rfl
    · exact hmissing
  | drain => rfl
  | _ => exact hmissing

end Ledger

/-! ## The condition -/

/-- The session id that the task is about to look up. -/
def TunnelTask.looksUp : TunnelTask → Option UInt64
  | .data (.lookup sessionId _) => some sessionId
  | _ => none

/-- The condition on a turn. -/
structure Admitted (sessionId : UInt64) (ref : ℕ) (core : AsyncTunnelCore) (t : TunnelTask)
    (rest : List TunnelTask) (_ : TunnelAnswer) : Prop where
  alone : t.kind = .data → ∀ u ∈ rest, u.kind ≠ .data
  sole : ∀ id ∈ (t.action core).inserts, id = sessionId ↔ core.arena.length = ref
  opened : t.looksUp = some sessionId → ref < core.arena.length

instance (sessionId : UInt64) (ref : ℕ) (core : AsyncTunnelCore) (t : TunnelTask)
    (rest : List TunnelTask) (answer : TunnelAnswer) :
    Decidable (Admitted sessionId ref core t rest answer) :=
  -- not by trying all ids
  have : Decidable (∀ id ∈ (t.action core).inserts, id = sessionId ↔ core.arena.length = ref) :=
    Option.decidableForallMem _
  decidable_of_iff ((t.kind = .data → ∀ u ∈ rest, u.kind ≠ .data) ∧
      (∀ id ∈ (t.action core).inserts, id = sessionId ↔ core.arena.length = ref) ∧
      (t.looksUp = some sessionId → ref < core.arena.length))
    ⟨fun h => ⟨h.1, h.2.1, h.2.2⟩, fun h => ⟨h.alone, h.sole, h.opened⟩⟩

/-! ## One call -/

/-- The payload of a call for the session that has not returned. -/
def DataTask.carries (sessionId : UInt64) (ref : ℕ) : DataTask → List (List UInt8)
  | .lookup id payload => if id = sessionId then [payload] else []
  | .reserve r payload | .send r payload | .release r payload => if r = ref then [payload] else []

/-- The call has found the session. -/
def DataTask.holds (ref : ℕ) : DataTask → Bool
  | .lookup _ _ => false
  | .reserve r _ | .send r _ | .release r _ => r = ref

/-- The calls that have not returned. -/
def dataTasks (tasks : List TunnelTask) : List DataTask :=
  tasks.filterMap fun
    | .data task => some task
    | _ => none

theorem dataTasks_append (ts us : List TunnelTask) :
    dataTasks (ts ++ us) = dataTasks ts ++ dataTasks us :=
  List.filterMap_append

section Turn

variable {sessionId : UInt64} {ref : ℕ} {core : AsyncTunnelCore} {answer : TunnelAnswer}
  {d : TunnelTurn} {task : DataTask}

/-- How a turn of a call goes on: the call does, or it returns. Then its payload has entered the
channel; or the session is gone; or it was refused, and the data session ends. -/
inductive CallTurn (sessionId : UInt64) (ref : ℕ) (core : AsyncTunnelCore) (task : DataTask)
    (d : TunnelTurn) : Prop
  | goesOn {task' : DataTask} (htasks : d.tasks = [.data task']) (htrace : d.trace = [])
    (hsent : sentTo ref ((TunnelTask.data task).sent core) = [])
    (hcarries : task'.carries sessionId ref = task.carries sessionId ref)
    (hholds : core.ledger.Gone sessionId ref → task.holds ref = false → task'.holds ref = false)
  | accepted {result : Except TunnelRuntimeError Unit} (htasks : d.tasks = [])
    (htrace : d.trace = [.dataHandled result]) (hresult : Continues result = true)
    (hsent : sentTo ref ((TunnelTask.data task).sent core) = task.carries sessionId ref)
    (hholds : task.holds ref = false → task.carries sessionId ref = [])
  | gone {result : Except TunnelRuntimeError Unit} (htasks : d.tasks = [])
    (htrace : d.trace = [.dataHandled result]) (hresult : Continues result = true)
    (hsent : sentTo ref ((TunnelTask.data task).sent core) = [])
    (hgone : core.ledger.Gone sessionId ref)
  | refused {result : Except TunnelRuntimeError Unit} (htasks : d.tasks = [])
    (htrace : d.trace = [.dataHandled result]) (hresult : Continues result = false)
    (hsent : sentTo ref ((TunnelTask.data task).sent core) = [])

theorem callTurn_lookup (hplaced : core.ledger.Placed) (hsole : core.ledger.Sole sessionId ref)
    {id : UInt64} {payload : List UInt8}
    (hopened : id = sessionId → ref < core.arena.length)
    (hturn : (DataTask.lookup id payload).turn core = some d) :
    CallTurn sessionId ref core (.lookup id payload) d := by
  simp only [DataTask.turn] at hturn
  split at hturn <;> cases hturn
  · rename_i hnone
    by_cases hid : id = sessionId
    · subst hid
      exact .gone rfl rfl (by decide) rfl ⟨length_cells core ▸ hopened rfl, hnone⟩
    · have hcarries : (DataTask.lookup id payload).carries sessionId ref = [] := if_neg hid
      exact .accepted rfl rfl (by decide) hcarries.symm fun _ => hcarries
  · rename_i r hsome
    have hr : id = sessionId ↔ r = ref := hsole (hplaced hsome)
    refine .goesOn rfl rfl rfl (if_congr hr.symm rfl rfl) fun hgone _ => ?_
    -- a session that is gone is not found
    refine decide_eq_false fun heq => ?_
    obtain rfl := hr.mpr heq
    rw [show core.sessions.lookup id = none from hgone.missing] at hsome
    cases hsome

theorem callTurn (hplaced : core.ledger.Placed) (hsole : core.ledger.Sole sessionId ref)
    (hopened : (TunnelTask.data task).looksUp = some sessionId → ref < core.arena.length)
    (hturn : task.turn core = some d) : CallTurn sessionId ref core task d := by
  cases task with
  | lookup id payload =>
    exact callTurn_lookup hplaced hsole (fun hid => hopened (congrArg some hid)) hturn
  | reserve r payload =>
    obtain ⟨session, -, rfl⟩ := Option.map_eq_some_iff.mp hturn
    cases hreserve :
        session.reservePendingBytes payload.length core.limits.maxSessionPendingBytes with
    | error error =>
      refine .refused rfl rfl ?_ rfl
      simp only [AsyncTunnelSession.reservePendingBytes] at hreserve
      split_ifs at hreserve <;> cases hreserve <;>
        simp [Continues, TunnelRuntimeError.sessionPendingBytesLimit]
    | ok reserved => exact .goesOn rfl rfl rfl rfl fun _ h => h
  | send r payload =>
    obtain ⟨session, hs, rfl⟩ := Option.map_eq_some_iff.mp hturn
    have hsent : (TunnelTask.data (.send r payload)).sent core =
        if (session.trySend payload).isSome then [(r, payload)] else [] := by
      rw [TunnelTask.sent, hs, Option.bind_some]
    cases hsend : session.trySend payload with
    | some sent =>
      rw [hsend] at hsent
      refine .accepted rfl rfl rfl ?_ fun h => if_neg (of_decide_eq_false h)
      rw [hsent, DataTask.carries]
      by_cases hr : r = ref <;> simp [sentTo, hr]
    | none =>
      rw [hsend] at hsent
      refine .goesOn rfl rfl ?_ rfl fun _ h => h
      rw [hsent]
      rfl
  | release r payload =>
    cases hturn
    exact .refused rfl rfl (by decide) rfl

theorem OpenTask.dataTasks_turn (answer : TunnelAnswer) (core : AsyncTunnelCore)
    (task : OpenTask) : dataTasks (task.turn answer core).tasks = [] := by
  cases task with
  | egressCheck | egressDial | ingressCheck | announce =>
    simp only [OpenTask.turn]
    split <;> rfl
  | _ => rfl

/-- A task other than a call has nothing to do with calls. -/
theorem TunnelTask.no_call {t : TunnelTask} (hturn : t.turn answer core = some d)
    (hkind : t.kind ≠ .data) :
    t.sent core = [] ∧ dataResults d.trace = [] ∧ dataTasks d.tasks = [] ∧ dataTasks [t] = [] := by
  have hnone : ∀ {u : TunnelTask}, u.kind ≠ .data → dataTasks [u] = [] ∧ u.sent core = [] := by
    intro u hu
    cases u with
    | data task => exact absurd rfl hu
    | _ => exact ⟨rfl, rfl⟩
  refine ⟨(hnone hkind).2, dataResults_of_kind (seenBy_turn hturn) hkind, ?_, (hnone hkind).1⟩
  by_cases hopen : t.kind = .opening
  · cases t with
    | opening task =>
      cases hturn
      exact task.dataTasks_turn answer core
    | _ => cases hopen
  · refine List.filterMap_eq_nil_iff.mpr fun u hu => ?_
    have hu' : u.kind ≠ .data := by
      rw [(frame_turn hturn hopen).1 u hu]
      exact hkind
    cases u with
    | data task => exact absurd rfl hu'
    | _ => rfl

end Turn

/-! ## Over all schedules -/

/-- What entered the channel of the session, `accepted`, and the calls for it. -/
structure Feed (sessionId : UInt64) (ref : ℕ) (calls : List (UInt64 × List UInt8))
    (core : AsyncTunnelCore) (accepted : List (List UInt8)) (tasks : List TunnelTask)
    (trace : List TunnelObservation) : Prop where
  one : OneReader core tasks
  placed : core.ledger.Placed
  sole : core.ledger.Sole sessionId ref
  /-- If only the last result ends the data session, these were the first calls. -/
  isPrefix : (∀ result ∈ (dataResults trace).dropLast, Continues result = true) →
    accepted <+: payloadsFor sessionId calls
  /-- As long as the data session goes on, all calls for the session were accepted, or it is
  gone. -/
  flow : (∀ result ∈ dataResults trace, Continues result = true) → (dataTasks tasks).length ≤ 1 →
    payloadsFor sessionId calls =
        accepted ++ (dataTasks tasks).flatMap (·.carries sessionId ref) ∨
      core.ledger.Gone sessionId ref ∧ ∀ task ∈ dataTasks tasks, task.holds ref = false

namespace Feed

variable {sessionId : UInt64} {ref : ℕ} {calls : List (UInt64 × List UInt8)}
  {core : AsyncTunnelCore} {accepted : List (List UInt8)} {t : TunnelTask}
  {tasks rest : List TunnelTask} {trace : List TunnelObservation} {answer : TunnelAnswer}
  {d : TunnelTurn}

theorem empty (sessionId : UInt64) (ref : ℕ) (limits : TunnelRuntimeLimits) :
    Feed sessionId ref [] (.new limits) [] [] [] where
  one := OneReader.empty limits
  placed := fun h => by cases h
  sole := fun h => by cases h
  isPrefix _ := List.nil_prefix
  flow _ _ := .inl rfl

theorem perm {tasks' : List TunnelTask} (hperm : tasks.Perm tasks')
    (h : Feed sessionId ref calls core accepted tasks trace) :
    Feed sessionId ref calls core accepted tasks' trace := by
  refine ⟨h.one.perm hperm, h.placed, h.sole, h.isPrefix, fun hresults hlength => ?_⟩
  have hdata : (dataTasks tasks).Perm (dataTasks tasks') := hperm.filterMap _
  -- there is at most one call, so that the order is the same
  have heq : dataTasks tasks = dataTasks tasks' := by
    match hcalls : dataTasks tasks', hlength with
    | [], _ => exact (hcalls ▸ hdata).eq_nil
    | [task], _ => exact (hcalls ▸ hdata).eq_singleton
  rw [← heq]
  exact h.flow hresults (heq ▸ hlength)

theorem start (op : TunnelOp) (h : Feed sessionId ref calls core accepted tasks trace) :
    Feed sessionId ref (calls ++ dataCalls [op]) core accepted (op.task :: tasks) trace := by
  refine ⟨h.one.start op, h.placed, h.sole, fun hresults => ?_, fun hresults hlength => ?_⟩
  · rw [payloadsFor_append]
    exact (h.isPrefix hresults).trans (List.prefix_append _ _)
  · cases op with
    | sessionData id payload =>
      have hcons : dataTasks ((TunnelOp.sessionData id payload).task :: tasks) =
          .lookup id payload :: dataTasks tasks := rfl
      rw [hcons] at hlength ⊢
      obtain hnone : dataTasks tasks = [] := List.length_eq_zero_iff.mp (by simpa using hlength)
      have hflow := h.flow hresults (by rw [hnone]; exact Nat.zero_le _)
      rw [hnone] at hflow ⊢
      refine hflow.imp (fun hall => ?_) fun hgone => ⟨hgone.1, List.forall_mem_singleton.mpr rfl⟩
      rw [payloadsFor_append, hall, List.flatMap_nil, List.append_nil, List.flatMap_singleton]
      congr 1
      by_cases hid : id = sessionId <;>
        simp [dataCalls, TunnelOp.dataCall, payloadsFor, DataTask.carries, hid]
    | _ =>
      rw [show dataCalls [_] = [] from rfl, List.append_nil]
      exact h.flow hresults hlength

/-- What a turn does to the sessions. -/
theorem ledger_turn (h : Feed sessionId ref calls core accepted (t :: rest) trace)
    (hadmitted : Admitted sessionId ref core t rest answer) (hturn : t.turn answer core = some d) :
    OneReader d.shared (d.tasks ++ rest) ∧ d.shared.ledger.Placed ∧
      d.shared.ledger.Sole sessionId ref ∧
      (core.ledger.Gone sessionId ref → d.shared.ledger.Gone sessionId ref) := by
  obtain ⟨ts, ts', frame, -, -, hstep⟩ :=
    t.ledgerMove answer (h.one.rules t List.mem_cons_self) hturn
  have hinserts := hadmitted.sole
  rw [← length_cells] at hinserts
  exact ⟨h.one.turn hturn, Ledger.Placed.step (fun hn => h.placed hn) hstep,
    Ledger.Sole.step (fun hn => h.sole hn) hstep hinserts, fun hgone => hgone.step hstep hinserts⟩

/-- A turn of another task. -/
theorem turn_other (h : Feed sessionId ref calls core accepted (t :: rest) trace)
    (hadmitted : Admitted sessionId ref core t rest answer) (hturn : t.turn answer core = some d)
    (hkind : t.kind ≠ .data) :
    Feed sessionId ref calls d.shared accepted (d.tasks ++ rest) (trace ++ d.trace) := by
  obtain ⟨-, hresults, htasks, htask⟩ := TunnelTask.no_call hturn hkind
  obtain ⟨hone, hplaced, hsole, hgone⟩ := h.ledger_turn hadmitted hturn
  have hsame : dataResults (trace ++ d.trace) = dataResults trace := by
    rw [dataResults_append, hresults, List.append_nil]
  have hcalls : dataTasks (d.tasks ++ rest) = dataTasks (t :: rest) := by
    rw [← List.singleton_append, dataTasks_append, dataTasks_append, htasks, htask]
  refine ⟨hone, hplaced, hsole, ?_, ?_⟩ <;> rw [hsame]
  · exact h.isPrefix
  · rw [hcalls]
    exact fun hgood hlength => (h.flow hgood hlength).imp_right (And.imp_left hgone)

section Call

variable {task : DataTask}

/-- A call that takes a turn is the only one. -/
theorem dataTasks_alone (hadmitted : Admitted sessionId ref core (.data task) rest answer) :
    dataTasks rest = [] := by
  refine List.filterMap_eq_nil_iff.mpr fun u hu => ?_
  have hne := hadmitted.alone rfl u hu
  cases u with
  | data task => exact absurd rfl hne
  | _ => rfl

theorem flow_alone (h : Feed sessionId ref calls core accepted (.data task :: rest) trace)
    (hadmitted : Admitted sessionId ref core (.data task) rest answer)
    (hgood : ∀ result ∈ dataResults trace, Continues result = true) :
    payloadsFor sessionId calls = accepted ++ task.carries sessionId ref ∨
      core.ledger.Gone sessionId ref ∧ task.holds ref = false := by
  have hflow := h.flow hgood
  have htasks : dataTasks (.data task :: rest) = [task] :=
    congrArg (task :: ·) (dataTasks_alone hadmitted)
  rw [htasks, List.flatMap_singleton, List.forall_mem_singleton] at hflow
  exact hflow le_rfl

/-- What has entered the channel after a turn of a call. -/
theorem isPrefix_call (h : Feed sessionId ref calls core accepted (.data task :: rest) trace)
    (hadmitted : Admitted sessionId ref core (.data task) rest answer)
    (hcall : CallTurn sessionId ref core task d)
    (hgood : ∀ result ∈ (dataResults (trace ++ d.trace)).dropLast, Continues result = true) :
    accepted ++ sentTo ref ((TunnelTask.data task).sent core) <+:
      payloadsFor sessionId calls := by
  have hold (hgood : ∀ result ∈ dataResults trace, Continues result = true) :
      accepted <+: payloadsFor sessionId calls :=
    h.isPrefix fun result hmem => hgood result ((List.dropLast_prefix _).subset hmem)
  rw [dataResults_append] at hgood
  cases hcall with
  | goesOn htasks htrace hsent =>
    rw [htrace, show dataResults [] = [] from rfl, List.append_nil] at hgood
    rw [hsent, List.append_nil]
    exact h.isPrefix hgood
  | accepted htasks htrace hresult hsent hholds =>
    rw [htrace, dataResults_handled, List.dropLast_concat] at hgood
    rw [hsent]
    rcases h.flow_alone hadmitted hgood with hall | ⟨-, hfree⟩
    · rw [hall]
    · rw [hholds hfree, List.append_nil]
      exact hold hgood
  | gone htasks htrace hresult hsent | refused htasks htrace hresult hsent =>
    rw [htrace, dataResults_handled, List.dropLast_concat] at hgood
    rw [hsent, List.append_nil]
    exact hold hgood

/-- What the call has left to do, as long as the data session goes on. -/
theorem flow_call (h : Feed sessionId ref calls core accepted (.data task :: rest) trace)
    (hadmitted : Admitted sessionId ref core (.data task) rest answer)
    (hcall : CallTurn sessionId ref core task d)
    (hgood : ∀ result ∈ dataResults (trace ++ d.trace), Continues result = true) :
    payloadsFor sessionId calls = accepted ++ sentTo ref ((TunnelTask.data task).sent core) ++
        (dataTasks d.tasks).flatMap (·.carries sessionId ref) ∨
      core.ledger.Gone sessionId ref ∧ ∀ task ∈ dataTasks d.tasks, task.holds ref = false := by
  rw [dataResults_append] at hgood
  have hflow := h.flow_alone hadmitted (List.forall_mem_append.mp hgood).1
  cases hcall with
  | goesOn htasks htrace hsent hcarries hholds =>
    rw [htasks, hsent, List.append_nil]
    refine hflow.imp (fun hall => ?_) fun ⟨hleft, hfree⟩ =>
      ⟨hleft, List.forall_mem_singleton.mpr (hholds hleft hfree)⟩
    rw [hall, ← hcarries]
    exact congrArg (_ ++ ·) (List.append_nil _).symm
  | accepted htasks htrace hresult hsent hholds =>
    rw [htasks, hsent]
    refine hflow.imp (fun hall => ?_) fun ⟨hleft, _⟩ =>
      ⟨hleft, fun _ hmem => absurd hmem List.not_mem_nil⟩
    rw [hall]
    exact (List.append_nil _).symm
  | gone htasks htrace hresult hsent hleft =>
    rw [htasks]
    exact .inr ⟨hleft, fun _ hmem => absurd hmem List.not_mem_nil⟩
  | refused htasks htrace hresult =>
    rw [htrace, dataResults_handled] at hgood
    have htrue := List.forall_mem_singleton.mp (List.forall_mem_append.mp hgood).2
    rw [hresult] at htrue
    cases htrue

/-- A turn of a call. -/
theorem turn_call (h : Feed sessionId ref calls core accepted (.data task :: rest) trace)
    (hadmitted : Admitted sessionId ref core (.data task) rest answer)
    (hturn : (TunnelTask.data task).turn answer core = some d) :
    Feed sessionId ref calls d.shared
      (accepted ++ sentTo ref ((TunnelTask.data task).sent core)) (d.tasks ++ rest)
      (trace ++ d.trace) := by
  obtain ⟨hone, hplaced, hsole, hgone⟩ := h.ledger_turn hadmitted hturn
  have hcall := callTurn h.placed h.sole hadmitted.opened hturn
  refine ⟨hone, hplaced, hsole, h.isPrefix_call hadmitted hcall, fun hgood _ => ?_⟩
  rw [dataTasks_append, dataTasks_alone hadmitted, List.append_nil]
  exact (h.flow_call hadmitted hcall hgood).imp_right (And.imp_left hgone)

end Call

theorem turn (h : Feed sessionId ref calls core accepted (t :: rest) trace)
    (hadmitted : Admitted sessionId ref core t rest answer)
    (hturn : t.turn answer core = some d) :
    Feed sessionId ref calls d.shared (accepted ++ sentTo ref (t.sent core)) (d.tasks ++ rest)
      (trace ++ d.trace) := by
  by_cases hkind : t.kind = .data
  · cases t with
    | data task => exact h.turn_call hadmitted hturn
    | _ => cases hkind
  · rw [(TunnelTask.no_call hturn hkind).1, show sentTo ref [] = [] from rfl, List.append_nil]
    exact h.turn_other hadmitted hturn hkind

end Feed

/-- What is written to the stream of the session are the payloads of the first calls for it. -/
theorem written_isPrefix_calls {sessionId : UInt64} {ref : ℕ} {limits : TunnelRuntimeLimits}
    {actions : List (Action TunnelAnswer TunnelOp)}
    {c : Config AsyncTunnelCore TunnelTask TunnelObservation}
    (halong : tunnelSystem.Along (Admitted sessionId ref) (tunnelStart limits) actions)
    (hrun : tunnelSystem.run (tunnelStart limits) actions = some c)
    (hresults : ∀ result ∈ (dataResults c.trace).dropLast, Continues result = true) :
    writtenBytes ref c.trace <+:
      (payloadsFor sessionId (dataCalls (System.started actions))).flatten := by
  have herase : (sendingStart limits).erase = tunnelStart limits := rfl
  rw [← herase] at hrun halong
  obtain ⟨d, hd, rfl⟩ := tunnelSystem.exists_record sendHistory hrun
  obtain ⟨hmetered, hfeed⟩ := @System.inv_run_started _ _ _ _ _ (tunnelSystem.record sendHistory)
    (fun s t ts answer => Admitted sessionId ref s.1 t.1 (ts.map (·.1)) answer)
    (fun ops s (tasks : List (TunnelTask × Unit)) trace =>
      Metered limits s.1 s.2 (tasks.map Prod.fst) trace ∧
        Feed sessionId ref (dataCalls ops) s.1 (sentTo ref s.2) (tasks.map Prod.fst) trace)
    (fun hperm h => ⟨h.1.perm (hperm.map _), h.2.perm (hperm.map _)⟩)
    (fun op h => ⟨h.1.start op, dataCalls_append _ [op] ▸ h.2.start op⟩)
    (fun h hadmitted hstep => by
      obtain ⟨turn, hturn, rfl⟩ := Option.map_eq_some_iff.mp hstep
      have hmetered := h.1.turn hturn
      have hfeed := h.2.turn hadmitted hturn
      simpa [sendHistory, Function.comp_def] using And.intro hmetered hfeed)
    [] (sendingStart limits) d actions
    ⟨Metered.empty limits, Feed.empty sessionId ref limits⟩
    (System.along_record tunnelSystem sendHistory halong) hd
  obtain ⟨more, hmore⟩ := hfeed.isPrefix hresults
  rw [List.nil_append] at hmore
  rw [← hmore, List.flatten_append]
  exact (hmetered.pipes ref).isPrefix.trans (List.prefix_append _ _)

/-! ## The frames of the server -/

/-- The call that `handle_server_frame` makes for a data frame; the leg is not looked at. -/
def KtpFrame.dataCall (frame : KtpFrame) : Option (UInt64 × List UInt8) :=
  if frame.frameType = .sessionData then some (frame.sessionId, frame.payload) else none

/-- The data of a frame for the session id. -/
def KtpFrame.dataFor (sessionId : UInt64) (frame : KtpFrame) : List UInt8 :=
  if frame.frameType = .sessionData ∧ frame.sessionId = sessionId then frame.payload else []

theorem flatten_payloadsFor (sessionId : UInt64) (frames : List KtpFrame) :
    (payloadsFor sessionId (frames.filterMap (·.dataCall))).flatten =
      frames.flatMap (·.dataFor sessionId) := by
  induction frames with
  | nil => rfl
  | cons frame frames ih =>
    rw [List.flatMap_cons, ← ih]
    by_cases htype : frame.frameType = .sessionData <;>
      by_cases hid : frame.sessionId = sessionId <;>
      simp [KtpFrame.dataCall, KtpFrame.dataFor, payloadsFor, htype, hid]

/-- **From the server to the TCP stream.** The server seals frames; what arrives of them, in any
chunking and up to any point, is read by a data session over a KTP socket, under timers that may
fire at any time; its data frames are passed on to the core by calls, one at a time, of which only
the last one may be refused; the calls interleave with all tasks of the core. Then what is written
to the TCP stream of a session that is the only one with its id, and is there before its first data,
is a prefix of the data that the server has sent for that id. -/
theorem written_isPrefix_sent {aead : Aead} (hc : aead.Correct) {W : Type}
    (world : DataSessionWorld W) (agentIdHint agentVersion : String) (fuel : ℕ) (w : W)
    {incoming : List ReadResult} {cryptoKey : KtpCryptoKey} {m b m' : ℕ}
    {socket : KtpEncryptedTcpTunnelDataSocket}
    (hreads : SocketReads aead
      ⟨.fromIo incoming cryptoKey .clientToRelay .relayToClient m b, m'⟩
      (DataSession.socketReads
        (DataSession.runTunnelDataSession world agentIdHint agentVersion fuel w).trace) socket)
    {sent : List KtpFrame} {records : List (List UInt8)} {sealer : KtpCryptoSeal}
    (hsealed : (KtpCryptoSeal.new cryptoKey .relayToClient).sealFrames aead sent =
      (.ok records, sealer))
    (hm : ∀ frame ∈ sent, frame.payload.length ≤ m)
    (hbytes : incomingBytes incoming <+: records.flatten)
    {sessionId : UInt64} {ref : ℕ} {limits : TunnelRuntimeLimits}
    {actions : List (Action TunnelAnswer TunnelOp)}
    {c : Config AsyncTunnelCore TunnelTask TunnelObservation}
    (halong : tunnelSystem.Along (Admitted sessionId ref) (tunnelStart limits) actions)
    (hrun : tunnelSystem.run (tunnelStart limits) actions = some c)
    (hresults : ∀ result ∈ (dataResults c.trace).dropLast, Continues result = true)
    (hcalls : payloadsFor sessionId (dataCalls (System.started actions)) <+:
      payloadsFor sessionId ((DataSession.handled
        (DataSession.runTunnelDataSession world agentIdHint agentVersion fuel w).trace).filterMap
          (·.dataCall))) :
    writtenBytes ref c.trace <+: sent.flatMap (·.dataFor sessionId) := by
  have hhandled := (DataSession.session_handles world agentIdHint agentVersion fuel w).isPrefix_sent
    hc hreads hsealed hm hbytes
  set frames := DataSession.handled
    (DataSession.runTunnelDataSession world agentIdHint agentVersion fuel w).trace
  obtain ⟨more, hmore⟩ := hcalls
  calc writtenBytes ref c.trace
      <+: (payloadsFor sessionId (dataCalls (System.started actions))).flatten :=
        written_isPrefix_calls halong hrun hresults
    _ <+: frames.flatMap (·.dataFor sessionId) := by
        rw [← flatten_payloadsFor, ← hmore, List.flatten_append]
        exact List.prefix_append _ _
    _ <+: sent.flatMap (·.dataFor sessionId) := by
        rcases hhandled with hnil | ⟨ack, rest, rfl, hack, more', rfl⟩
        · rw [hnil]
          exact List.nil_prefix
        · have hnone : ack.dataFor sessionId = [] := if_neg fun hand => by
            rw [hack] at hand
            cases hand.1
          rw [List.flatMap_cons, hnone, List.nil_append, List.flatMap_append]
          exact List.prefix_append _ _

/-- A byte for the first session, and its record behind the one of the acknowledgement. -/
def byteFrame : KtpFrame := ⟨.sessionData, .egress, 0, 1, [97]⟩

def byteRecord : List UInt8 :=
  cryptoHeaderBytes .relayToClient 1 41 ++ frameBytes byteFrame ++ List.replicate 16 0

/-- A server that sends the byte and closes the connection. -/
def byteWorld : DataSessionWorld ℕ :=
  { DataSession.pingingWorld with
    readOptionalKtpFrameBatch := fun _ w =>
      if w = 0 then (.ok (some [byteFrame]), 1) else (.error .socketClosed, w) }

def byteTrace : DataSession.Trace :=
  (DataSession.runTunnelDataSession byteWorld "agent" "1" 3 0).trace

def byteSocket : KtpEncryptedTcpTunnelDataSocket :=
  ⟨.fromIo [.data ⟨ackRecord, by decide, by decide⟩, .data ⟨byteRecord, by decide, by decide⟩]
    ⟨Vector.replicate 32 0⟩ .clientToRelay .relayToClient 1024 4096, 1024⟩

def byteSocketGreeted : KtpEncryptedTcpTunnelDataSocket := (byteSocket.readFrame clearAead "").2

/-- The session is opened, and the byte is passed on and written. -/
def byteWritten : List (Action TunnelAnswer TunnelOp) :=
  openFirst 1 ++ .start (.sessionData 1 [97]) :: List.replicate 6 (.turn 0 endOfStream)

theorem written_isPrefix_sent_byte :
    ∃ c, tunnelSystem.run (tunnelStart .default) byteWritten = some c ∧
      writtenBytes 0 c.trace = [97] ∧
      writtenBytes 0 c.trace <+:
        [KtpFrame.connection .helloAck [], byteFrame].flatMap (·.dataFor 1) := by
  have hreads : DataSession.socketReads byteTrace =
      [.frame (byteSocket.readFrame clearAead "").1,
        .batch (byteSocketGreeted.readOptionalKtpFrameBatchWithTimeout clearAead 64 5 "").1,
        .batch ((byteSocketGreeted.readOptionalKtpFrameBatchWithTimeout clearAead 64 5
          "").2.readOptionalKtpFrameBatchWithTimeout clearAead 64 5 "").1] := by
    decide +kernel
  obtain ⟨socket, hsocket⟩ : ∃ socket, SocketReads clearAead byteSocket
      (DataSession.socketReads byteTrace) socket := by
    rw [hreads]
    exact ⟨_, .readFrame _ (.readBatch _ _ _ (.readBatch _ _ _ .done))⟩
  have hsealed : ((KtpCryptoSeal.new ⟨Vector.replicate 32 0⟩ .relayToClient).sealFrames clearAead
      [.connection .helloAck [], byteFrame]).1 = .ok [ackRecord, byteRecord] := by decide +kernel
  have halong : tunnelSystem.Along (Admitted 1 0) (tunnelStart .default) byteWritten := by
    decide +kernel
  have hcalls : payloadsFor 1 (dataCalls (System.started byteWritten)) <+:
      payloadsFor 1 ((DataSession.handled byteTrace).filterMap (·.dataCall)) := by decide +kernel
  have hseen : (tunnelSystem.run (tunnelStart .default) byteWritten).map (fun c =>
      (writtenBytes 0 c.trace, dataResults c.trace)) = some ([97], [.ok ()]) := by decide +kernel
  obtain ⟨c, hrun, hc⟩ := Option.map_eq_some_iff.mp hseen
  obtain ⟨hwritten, hresults⟩ := Prod.mk.inj hc
  have hlast : ∀ result ∈ (dataResults c.trace).dropLast, Continues result = true := by
    rw [hresults]
    exact fun _ hmem => absurd hmem List.not_mem_nil
  exact ⟨c, hrun, hwritten, written_isPrefix_sent clearAead_correct byteWorld "agent" "1" 3 0
    hsocket (Prod.ext hsealed rfl) (by decide) (by decide) halong hrun hlast hcalls⟩

end KeliAgent
