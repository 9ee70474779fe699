import KeliAgent.Lib.CompareExchange
import KeliAgent.Tunnel.Core
import KeliAgent.Tunnel.Dwell

/-!
# The atomic counters of the tunnel runtime

The counters of `tunnel_async_runtime.rs` are atomic cells that the tasks of all sessions write:
`reserve_pending_bytes`, `fetch_update` and `update_atomic_max` are loops around a weak
compare-exchange, and a call of `TunnelRuntimeStats` writes one cell after the other. The rest of
the model takes a loop as one step and, in the queue, a whole call.

* **`pending_bytes_linearized`**: the loops over the pending bytes of a session are one step each.
* **`stats_settled`**: once the calls have returned, the counters of bytes, sessions and dwell times
  are those of the calls made one after the other.
-/

namespace KeliAgent

open Interleave

/-! ## The pending bytes of a session -/

inductive PendingOp where
  | reserve (bytes limit : ℕ)
  | release (bytes : ℕ)
  deriving DecidableEq

namespace PendingOp

/-- The loops of `reserve_pending_bytes`, which loads again after a failed exchange, and of
`fetch_update`. -/
def access : PendingOp → CompareExchange.Access Unit ℕ (Except TunnelRuntimeError Unit)
  | .reserve bytes limit =>
    { cell := ()
      attempt := fun current =>
        if 2 ^ 64 ≤ current + bytes then
          .stop (.error (.sessionPendingBytesLimit "session pending byte counter overflowed"))
        else if limit < current + bytes then
          .stop (.error (.sessionPendingBytesLimit
            ("session pending bytes would exceed limit " ++ toString limit)))
        else .write (current + bytes) (.ok ())
      kind := .reload }
  | .release bytes =>
    { cell := ()
      attempt := fun current => .write (current - bytes) (.ok ())
      kind := .loop }

/-- The operation as the single step that the model of the tunnel takes. -/
def step (session : AsyncTunnelSession) :
    PendingOp → Except TunnelRuntimeError Unit × AsyncTunnelSession
  | .reserve bytes limit =>
    match session.reservePendingBytes bytes limit with
    | .error error => (.error error, session)
    | .ok reserved => (.ok (), reserved)
  | .release bytes => (.ok (), session.releasePendingBytes bytes)

/-- The results of the operations, one after the other, and the session after them. -/
def steps (session : AsyncTunnelSession) :
    List PendingOp → List (Except TunnelRuntimeError Unit) × AsyncTunnelSession
  | [] => ([], session)
  | op :: ops =>
    let (result, session) := op.step session
    let (results, session) := steps session ops
    (result :: results, session)

theorem step_eq (session : AsyncTunnelSession) (op : PendingOp) :
    op.step session = ((op.access.attempt session.pendingBytes).result,
      { session with
        pendingBytes := (op.access.attempt session.pendingBytes).value session.pendingBytes }) := by
  cases op with
  | reserve bytes limit =>
    simp only [step, access, AsyncTunnelSession.reservePendingBytes]
    split_ifs <;> rfl
  | release bytes => rfl

theorem steps_of_replays {session : AsyncTunnelSession}
    {effects : List (CompareExchange.Effect PendingOp (Except TunnelRuntimeError Unit))}
    {cells : Unit → ℕ}
    (h : CompareExchange.Replays access (fun _ => session.pendingBytes) effects cells) :
    steps session (effects.map (·.name)) =
      (effects.map (·.result), { session with pendingBytes := cells () }) := by
  induction effects generalizing session with
  | nil =>
    cases h
    rfl
  | cons effect effects ih =>
    obtain ⟨hresult, hrest⟩ := h
    simp only [List.map_cons, steps, step_eq]
    rw [ih hrest, hresult]

end PendingOp

/-- **The loops over the pending bytes are linearizable.** However the loads and exchanges of
reservations and releases interleave, and whichever exchanges fail for no reason, the results and
the counter are those of the operations as single steps, in the order in which they took effect; and
every operation that started took effect once or is still to do so. -/
theorem pending_bytes_linearized {session : AsyncTunnelSession}
    {actions : List (Action Bool PendingOp)}
    {c : Config (Unit → ℕ) (CompareExchange.Task PendingOp ℕ)
      (CompareExchange.Effect PendingOp (Except TunnelRuntimeError Unit))}
    (hrun : (CompareExchange.system PendingOp.access fun op => [op]).run
      ⟨fun _ => session.pendingBytes, [], []⟩ actions = some c) :
    PendingOp.steps session (c.trace.map (·.name)) =
        (c.trace.map (·.result), { session with pendingBytes := c.shared () }) ∧
      (c.trace.map (·.name) ++ c.tasks.flatMap (·.todo)).Perm (System.started actions) := by
  refine ⟨PendingOp.steps_of_replays (CompareExchange.replays_run hrun), ?_⟩
  have hperm := CompareExchange.perm_accesses_run hrun
  simpa [CompareExchange.Config.accesses] using hperm

/-- Two reservations load the same count. The second takes effect first, the exchange of the other
fails, and there is no room when it loads again. -/
def reservationRace : List (Action Bool PendingOp) :=
  [.start (.reserve 6 10), .start (.reserve 5 10), .turn 0 false, .turn 1 false, .turn 1 false,
    .turn 1 false, .turn 0 false]

theorem pending_bytes_linearized_race :
    ∃ c, (CompareExchange.system PendingOp.access fun op => [op]).run ⟨fun _ => 0, [], []⟩
        reservationRace = some c ∧
      c.shared () = 5 ∧
      PendingOp.steps (.new 0 0 .ingress) [.reserve 5 10, .reserve 6 10] =
        (c.trace.map (·.result),
          { AsyncTunnelSession.new 0 0 .ingress with pendingBytes := c.shared () }) := by
  exact ⟨_, rfl, rfl, (@pending_bytes_linearized (.new 0 0 .ingress) reservationRace _ rfl).1⟩

/-! ## The counters of the runtime -/

/-- The cells of `TunnelRuntimeStats` that these calls only add to. -/
inductive StatsSum where
  | activeSessions
  | totalSessions
  /-- The count of a rule, under the lock of the map. -/
  | ruleSessionCounts (ruleId : UInt64)
  | bytesIn
  | bytesOut
  | dwellFrames
  | dwellMicrosTotal
  | dwellMicrosBucket (index : ℕ)
  deriving DecidableEq

/-- Those that are only raised. -/
inductive StatsMax where
  | dwellMicrosMax
  deriving DecidableEq

abbrev StatsCell := StatsSum ⊕ StatsMax

inductive StatsAccess where
  | fetchAdd (cell : StatsSum) (amount : UInt64)
  | updateAtomicMax (cell : StatsMax) (candidate : UInt64)

def StatsAccess.access : StatsAccess → CompareExchange.Access StatsCell UInt64 Unit
  | .fetchAdd cell amount => ⟨.inl cell, fun current => .write (current + amount) (), .fetch⟩
  | .updateAtomicMax cell candidate =>
    ⟨.inr cell, fun current => if current < candidate then .write candidate () else .stop (), .loop⟩

/-- The calls that add to these cells. `session_closed` is none of them: what it subtracts stops at
zero, so that the order counts. -/
inductive StatsCall where
  | sessionOpened (ruleId : UInt64)
  | bytesIn (bytes : ℕ)
  | bytesOut (bytes : ℕ)
  | recordOutboundQueueDwell (elapsed : ℕ)

namespace StatsCall

/-- The accesses of the call to these cells, in their order. -/
def accesses : StatsCall → List StatsAccess
  | .sessionOpened ruleId =>
    [.fetchAdd .activeSessions 1, .fetchAdd .totalSessions 1,
      .fetchAdd (.ruleSessionCounts ruleId) 1]
  | .bytesIn bytes => [.fetchAdd .bytesIn (UInt64.ofNat bytes)]
  | .bytesOut bytes => [.fetchAdd .bytesOut (UInt64.ofNat bytes)]
  | .recordOutboundQueueDwell elapsed =>
    let elapsedMicros := UInt64.ofNat (min elapsed (2 ^ 64 - 1))
    [.fetchAdd .dwellFrames 1, .fetchAdd .dwellMicrosTotal elapsedMicros,
      .updateAtomicMax .dwellMicrosMax elapsedMicros,
      .fetchAdd (.dwellMicrosBucket (outboundQueueDwellBucketIndex elapsedMicros)) 1]

/-- The call as one step. -/
def step (stats : TunnelRuntimeStats) : StatsCall → TunnelRuntimeStats
  | .sessionOpened ruleId => stats.sessionOpened ruleId
  | .bytesIn bytes => stats.countBytesIn bytes
  | .bytesOut bytes => stats.countBytesOut bytes
  | .recordOutboundQueueDwell elapsed => stats.recordOutboundQueueDwell elapsed

end StatsCall

def TunnelRuntimeStats.cell (stats : TunnelRuntimeStats) : StatsCell → UInt64
  | .inl .activeSessions => UInt64.ofNat stats.activeSessions
  | .inl .totalSessions => stats.totalSessions
  | .inl (.ruleSessionCounts ruleId) => UInt64.ofNat (stats.ruleSessionCounts ruleId)
  | .inl .bytesIn => stats.bytesIn
  | .inl .bytesOut => stats.bytesOut
  | .inl .dwellFrames => stats.outboundQueueDwell.frames
  | .inl .dwellMicrosTotal => stats.outboundQueueDwell.microsTotal
  | .inl (.dwellMicrosBucket index) => stats.outboundQueueDwell.microsBuckets.getD index 0
  | .inr .dwellMicrosMax => stats.outboundQueueDwell.microsMax

theorem max_u64_eq (a b : UInt64) : max a b = if a < b then b else a := by
  apply UInt64.toNat_inj.mp
  rw [toNat_max_u64]
  split_ifs with h
  · exact max_eq_right (UInt64.lt_iff_toNat_lt.mp h).le
  · exact max_eq_left (Nat.le_of_not_lt fun hlt => h (UInt64.lt_iff_toNat_lt.mpr hlt))

namespace StatsAccess

theorem applyAt_fetchAdd (cell : StatsSum) (cell' : StatsCell) (amount value : UInt64) :
    (fetchAdd cell amount).access.applyAt cell' value =
      if .inl cell = cell' then value + amount else value := rfl

theorem applyAt_updateAtomicMax (cell : StatsMax) (cell' : StatsCell) (candidate value : UInt64) :
    (updateAtomicMax cell candidate).access.applyAt cell' value =
      if .inr cell = cell' then max value candidate else value := by
  rw [max_u64_eq]
  unfold CompareExchange.Access.applyAt access
  dsimp only
  split_ifs <;> rfl

theorem applyAt_comm (x y : StatsAccess) (cell : StatsCell) (value : UInt64) :
    y.access.applyAt cell (x.access.applyAt cell value) =
      x.access.applyAt cell (y.access.applyAt cell value) := by
  cases cell with
  | inl cell =>
    -- only `fetch_add` reaches the cell
    cases x <;> cases y <;> simp only [applyAt_fetchAdd, applyAt_updateAtomicMax, reduceCtorEq,
      if_false]
    split_ifs <;> ac_rfl
  | inr cell =>
    cases x <;> cases y <;> simp only [applyAt_fetchAdd, applyAt_updateAtomicMax, reduceCtorEq,
      if_false]
    rename_i cellx candidatex celly candidatey
    cases cell
    cases cellx
    cases celly
    apply UInt64.toNat_inj.mp
    simp only [if_true, toNat_max_u64]
    exact max_right_comm ..

end StatsAccess

namespace TunnelRuntimeStats

/-- The buckets are as many as in the default. -/
def Bucketed (stats : TunnelRuntimeStats) : Prop :=
  stats.outboundQueueDwell.microsBuckets.length = outboundQueueDwellMicrosBuckets.length

theorem bucketed_step {stats : TunnelRuntimeStats} (h : stats.Bucketed) (call : StatsCall) :
    (call.step stats).Bucketed := by
  cases call with
  | recordOutboundQueueDwell elapsed => exact (List.length_modify ..).trans h
  | _ => exact h

theorem cell_step {stats : TunnelRuntimeStats} (h : stats.Bucketed) (call : StatsCall)
    (cell : StatsCell) : (call.step stats).cell cell =
      call.accesses.foldl (fun value name => name.access.applyAt cell value) (stats.cell cell) := by
  cases call with
  | sessionOpened ruleId =>
    simp only [StatsCall.accesses, List.foldl_cons, List.foldl_nil, StatsAccess.applyAt_fetchAdd]
    rcases cell with (_ | _ | ruleId' | _ | _ | _ | _ | _) | _
    case inl.activeSessions => exact UInt64.ofNat_add _ 1
    case inl.ruleSessionCounts =>
      simp only [cell, StatsCall.step, sessionOpened, countRule, countTotal, countActive,
        reduceCtorEq, if_false, Sum.inl.injEq, StatsSum.ruleSessionCounts.injEq]
      split_ifs with heq
      · rw [← heq, Function.update_self]
        exact UInt64.ofNat_add _ 1
      · rw [Function.update_of_ne (Ne.symm heq)]
    all_goals rfl
  | recordOutboundQueueDwell elapsed =>
    simp only [StatsCall.accesses, List.foldl_cons, List.foldl_nil, StatsAccess.applyAt_fetchAdd,
      StatsAccess.applyAt_updateAtomicMax]
    rcases cell with (_ | _ | _ | _ | _ | _ | _ | index) | _
    case inl.dwellMicrosBucket =>
      have hlt := outboundQueueDwellBucketIndex_lt (UInt64.ofNat (min elapsed (2 ^ 64 - 1)))
      rw [← h] at hlt
      simp only [cell, StatsCall.step, recordOutboundQueueDwell, List.getD_eq_getElem?_getD,
        List.getElem?_modify, reduceCtorEq, if_false, Sum.inl.injEq,
        StatsSum.dwellMicrosBucket.injEq]
      split_ifs with heq
      · subst heq
        rw [List.getElem?_eq_getElem hlt]
        rfl
      · simp
    all_goals rfl
  | _ =>
    simp only [StatsCall.accesses, List.foldl_cons, List.foldl_nil, StatsAccess.applyAt_fetchAdd]
    rcases cell with (_ | _ | _ | _ | _ | _ | _ | _) | _ <;> rfl

theorem cell_steps {stats : TunnelRuntimeStats} (h : stats.Bucketed) (calls : List StatsCall)
    (cell : StatsCell) : (calls.foldl StatsCall.step stats).cell cell =
      (calls.flatMap StatsCall.accesses).foldl (fun value name => name.access.applyAt cell value)
        (stats.cell cell) := by
  induction calls generalizing stats with
  | nil => rfl
  | cons call calls ih =>
    rw [List.foldl_cons, List.flatMap_cons, List.foldl_append, ← cell_step h,
      ih (bucketed_step h call)]

end TunnelRuntimeStats

/-- **The counters settle.** However the accesses of the calls interleave, once all calls have
returned the counters hold what they would hold if the calls had been made one after the other, in
the order in which they started. -/
theorem stats_settled {actions : List (Action Bool StatsCall)}
    {c : Config (StatsCell → UInt64) (CompareExchange.Task StatsAccess UInt64)
      (CompareExchange.Effect StatsAccess Unit)}
    (hrun : (CompareExchange.system StatsAccess.access StatsCall.accesses).run
      ⟨TunnelRuntimeStats.default.cell, [], []⟩ actions = some c) (hdone : c.tasks = []) :
    c.shared = ((System.started actions).foldl StatsCall.step .default).cell := by
  funext cell
  rw [TunnelRuntimeStats.cell_steps (by rfl)]
  exact CompareExchange.settled hrun hdone fun x y value => StatsAccess.applyAt_comm x y cell value

/-- Two dwell times are recorded at once. The first exchange of the maximum fails for no reason, and
that of the smaller time because of the larger one. Then two sessions are opened in turns. -/
def statsRace : List (Action Bool StatsCall) :=
  [.start (.recordOutboundQueueDwell 30), .start (.recordOutboundQueueDwell 7),
    .turn 0 false, .turn 0 false, .turn 0 false, .turn 1 false, .turn 0 false, .turn 0 false,
    .turn 0 true, .turn 0 false, .turn 1 false, .turn 0 false, .turn 0 false, .turn 0 false,
    .turn 0 false, .start (.sessionOpened 7), .start (.sessionOpened 9), .turn 1 false,
    .turn 1 false, .turn 1 false, .turn 1 false, .turn 1 false, .turn 1 false, .turn 1 false,
    .turn 0 false]

theorem stats_settled_race :
    ∃ c, (CompareExchange.system StatsAccess.access StatsCall.accesses).run
        ⟨TunnelRuntimeStats.default.cell, [], []⟩ statsRace = some c ∧ c.tasks = [] ∧
      c.shared (.inl .activeSessions) = 2 ∧ c.shared (.inl (.ruleSessionCounts 9)) = 1 ∧
      c.shared = ([.recordOutboundQueueDwell 30, .recordOutboundQueueDwell 7, .sessionOpened 7,
        .sessionOpened 9].foldl StatsCall.step .default).cell :=
  ⟨_, rfl, rfl, rfl, rfl, @stats_settled statsRace _ rfl rfl⟩

end KeliAgent
