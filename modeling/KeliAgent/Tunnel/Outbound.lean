import KeliAgent.Tunnel.Closing
import KeliAgent.Tunnel.Integrity

/-!
# From the TCP stream to the data session

The data session drains frames from the queue that all sessions share. The frames say which session
they are of by a leg and an id.

* `drainedBytes`: the data of a session that was drained; `queueBytes`: the data that still waits.
* `Carried`: the condition on a turn. Each chunk of the session finds room, no other session has its
  leg and id, and nothing of it is discarded before its reader has ended.
* `Flow`: drained and waiting data are what was queued, up to the end of the session.
* **`drained_isPrefix_read`**: what was drained is a prefix of what was read.
-/

namespace KeliAgent

open Interleave AsyncTunnelCore

/-! ## The data of a session -/

/-- What tells the data frames of a session from those of others. -/
abbrev SessionKey := FrameLeg × UInt64

def AsyncTunnelSession.key (session : AsyncTunnelSession) : SessionKey :=
  (session.leg, session.sessionId)

def KtpFrame.dataOf (key : SessionKey) (frame : KtpFrame) : List UInt8 :=
  if frame.frameType = .sessionData ∧ (frame.leg, frame.sessionId) = key then frame.payload else []

def TunnelObservation.drainedBytes (key : SessionKey) : TunnelObservation → List UInt8
  | .drained frames => frames.flatMap (·.dataOf key)
  | _ => []

/-- The data of the session that was drained. -/
def drainedBytes (key : SessionKey) (trace : List TunnelObservation) : List UInt8 :=
  trace.flatMap (·.drainedBytes key)

/-- The data of the session that waits in the queue. -/
def queueBytes (key : SessionKey) (queue : AsyncTunnelFrameQueue) : List UInt8 :=
  queue.frames.flatMap fun queued => queued.frame.dataOf key

@[simp] theorem drainedBytes_append (key : SessionKey) (tr tr' : List TunnelObservation) :
    drainedBytes key (tr ++ tr') = drainedBytes key tr ++ drainedBytes key tr' := by
  simp [drainedBytes]

section Queue

variable {key : SessionKey} {queue : AsyncTunnelFrameQueue}

theorem queueBytes_tryPush_none {frame : KtpFrame} (h : frame.dataOf key = []) (now : ℕ) :
    queueBytes key (queue.tryPush frame now).2 = queueBytes key queue := by
  rcases queue.tryPush_cases frame now with ⟨-, hpush⟩ | ⟨-, hpush⟩ <;> simp [hpush, queueBytes, h]

theorem queueBytes_remove_other {sessionId : UInt64} (h : sessionId ≠ key.2) :
    queueBytes key (queue.removeSessionFrames sessionId).2 = queueBytes key queue := by
  simp only [queueBytes, AsyncTunnelFrameQueue.removeSessionFrames]
  induction queue.frames with
  | nil => rfl
  | cons queued frames ih =>
    rw [List.filter_cons, List.flatMap_cons]
    split_ifs with hkeep
    · rw [List.flatMap_cons, ih]
    · -- a frame of another session has no data of this one
      have hid : queued.frame.sessionId = sessionId := by simpa using hkeep
      have hne : ¬ (queued.frame.leg, queued.frame.sessionId) = key := fun heq =>
        h (by rw [← hid, ← heq])
      rw [ih, KtpFrame.dataOf, if_neg fun hand => hne hand.2, List.nil_append]

theorem queueBytes_remove :
    queueBytes key (queue.removeSessionFrames key.2).2 = [] := by
  refine List.flatMap_eq_nil_iff.mpr fun queued hmem => if_neg fun hand => ?_
  have hne : queued.frame.sessionId ≠ key.2 := by simpa using (List.mem_filter.mp hmem).2
  exact hne (congrArg Prod.snd hand.2)

theorem queueBytes_drain (stats : TunnelRuntimeStats) (maxFrames now : ℕ) :
    (queue.drain stats maxFrames now).1.flatMap (·.dataOf key) ++
      queueBytes key (queue.drain stats maxFrames now).2.1 = queueBytes key queue := by
  simp only [AsyncTunnelFrameQueue.drain, queueBytes, List.flatMap_map]
  rw [← List.flatMap_append, List.take_append_drop]

end Queue

/-! ## Who makes which observations -/

/-- Whose tasks make the observation. -/
def TunnelObservation.kind : TunnelObservation → TaskKind
  | .opened _ | .attached _ => .opening
  | .dataHandled _ => .data
  | .closed _ => .close
  | .closedAll => .closeAll
  | .drained _ => .nextFrames
  | .read ref _ | .queued ref _ | .refused ref _ => .reader ref
  | .written ref _ => .writer ref

/-- The trace has only observations of this kind. -/
def SeenBy (kind : TaskKind) (trace : List TunnelObservation) : Prop :=
  ∀ o ∈ trace, o.kind = kind

theorem seenBy_nil (kind : TaskKind) : SeenBy kind [] := fun _ h => absurd h List.not_mem_nil

theorem seenBy_one {kind : TaskKind} {o : TunnelObservation} (h : o.kind = kind) :
    SeenBy kind [o] := List.forall_mem_singleton.mpr h

theorem OpenTask.seenBy_turn (answer : TunnelAnswer) (core : AsyncTunnelCore) (task : OpenTask) :
    SeenBy .opening (task.turn answer core).trace := by
  cases task with
  | egressCheck | egressDial | ingressCheck | announce =>
    simp only [OpenTask.turn]
    split
    · exact seenBy_one rfl
    · exact seenBy_nil _
  | setReader opening r => cases opening <;> exact seenBy_one rfl
  | _ => exact seenBy_nil _

theorem ReaderTask.seenBy_turn (answer : TunnelAnswer) (core : AsyncTunnelCore) (r : ℕ)
    (session : AsyncTunnelSession) (task : ReaderTask) :
    SeenBy (.reader r) (task.turn answer core r session).trace := by
  cases task with
  | pushData chunk | pushClose =>
    simp only [ReaderTask.turn, ReaderTask.push]
    split <;> exact seenBy_one rfl
  | read =>
    simp only [ReaderTask.turn]
    split_ifs
    · exact seenBy_nil _
    split
    · exact seenBy_nil _
    · exact seenBy_nil _
    · exact seenBy_one rfl
  | remove =>
    simp only [ReaderTask.turn]
    split <;> exact seenBy_nil _
  | _ => exact seenBy_nil _

theorem DataTask.seenBy_turn {core : AsyncTunnelCore} {task : DataTask} {d : TunnelTurn}
    (hturn : task.turn core = some d) : SeenBy .data d.trace := by
  cases task with
  | lookup =>
    simp only [DataTask.turn] at hturn
    split at hturn <;> cases hturn
    · exact seenBy_one rfl
    · exact seenBy_nil _
  | release =>
    cases hturn
    exact seenBy_one rfl
  | reserve =>
    obtain ⟨session, -, rfl⟩ := Option.map_eq_some_iff.mp hturn
    split
    · exact seenBy_one rfl
    · exact seenBy_nil _
  | send =>
    obtain ⟨session, -, rfl⟩ := Option.map_eq_some_iff.mp hturn
    split
    · exact seenBy_one rfl
    · exact seenBy_nil _

theorem CloseTask.seenBy_turn {core : AsyncTunnelCore} {task : CloseTask} {d : TunnelTurn}
    (hturn : task.turn core = some d) : SeenBy .close d.trace := by
  cases task <;> simp only [CloseTask.turn] at hturn
  case remove =>
    split at hturn <;> cases hturn
    · exact seenBy_one rfl
    · exact seenBy_nil _
  case await =>
    split_ifs at hturn
    cases hturn
    exact seenBy_nil _
  case removeFrames | uncountActive =>
    cases hturn
    exact seenBy_nil _
  case abort =>
    obtain ⟨session, -, rfl⟩ := Option.map_eq_some_iff.mp hturn
    exact seenBy_nil _
  case uncountRule =>
    obtain ⟨session, -, rfl⟩ := Option.map_eq_some_iff.mp hturn
    exact seenBy_one rfl

theorem CloseAllTask.seenBy_turn {answer : TunnelAnswer} {core : AsyncTunnelCore}
    {task : CloseAllTask} {d : TunnelTurn} (hturn : task.turn answer core = some d) :
    SeenBy .closeAll d.trace := by
  cases task with
  | await readers =>
    cases readers with
    | nil =>
      cases hturn
      exact seenBy_one rfl
    | cons r readers =>
      simp only [CloseAllTask.turn] at hturn
      split_ifs at hturn
      cases hturn
      exact seenBy_nil _
  | next =>
    simp only [CloseAllTask.turn] at hturn
    split at hturn
    · cases hturn
      exact seenBy_nil _
    · obtain ⟨session, -, rfl⟩ := Option.map_eq_some_iff.mp hturn
      exact seenBy_nil _
  | uncountRule =>
    obtain ⟨session, -, rfl⟩ := Option.map_eq_some_iff.mp hturn
    exact seenBy_nil _
  | drain | uncountActive =>
    cases hturn
    exact seenBy_nil _

theorem WriterTask.seenBy_turn {answer : TunnelAnswer} {core : AsyncTunnelCore} {r : ℕ}
    {session : AsyncTunnelSession} {task : WriterTask} {d : TunnelTurn}
    (hturn : task.turn answer core r session = some d) : SeenBy (.writer r) d.trace := by
  cases task with
  | receive =>
    simp only [WriterTask.turn] at hturn
    split at hturn <;> cases hturn
    exact seenBy_nil _
  | write =>
    simp only [WriterTask.turn] at hturn
    split at hturn <;> cases hturn <;> exact seenBy_one rfl
  | countBytes | release | stop =>
    cases hturn
    exact seenBy_nil _

/-- **What a task makes visible is of its own kind.** -/
theorem TunnelTask.seenBy_turn {answer : TunnelAnswer} {core : AsyncTunnelCore} {t : TunnelTask}
    {d : TunnelTurn} (hturn : t.turn answer core = some d) : SeenBy t.kind d.trace := by
  cases t with
  | opening task =>
    cases hturn
    exact task.seenBy_turn answer core
  | reader r task =>
    obtain ⟨session, -, rfl⟩ := Option.map_eq_some_iff.mp hturn
    exact task.seenBy_turn answer core r session
  | writer r task =>
    obtain ⟨session, -, hturn⟩ := Option.bind_eq_some_iff.mp hturn
    exact WriterTask.seenBy_turn hturn
  | data task => exact DataTask.seenBy_turn hturn
  | close task => exact CloseTask.seenBy_turn hturn
  | closeAll task => exact CloseAllTask.seenBy_turn hturn
  | nextFrames maxFrames =>
    cases hturn
    exact seenBy_one rfl

/-! ## The condition -/

/-- The effect discards frames with the session id. -/
def QueueEffect.discards (sessionId : UInt64) : QueueEffect → Bool
  | .remove id => id = sessionId
  | .clear => true
  | _ => false

/-- Of all sessions that there ever were, the one at `ref` has the key and no other. -/
def Keyed (key : SessionKey) (ref : ℕ) (core : AsyncTunnelCore) : Prop :=
  ∀ entry ∈ core.arena.zipIdx, entry.1.key = key ↔ entry.2 = ref

theorem Keyed.iff {key : SessionKey} {ref : ℕ} {core : AsyncTunnelCore} (h : Keyed key ref core)
    {r : ℕ} {session : AsyncTunnelSession} (hs : core.arena[r]? = some session) :
    session.key = key ↔ r = ref :=
  h (session, r) (List.mem_zipIdx_iff_getElem?.mpr hs)

/-- The condition on a turn. -/
structure Carried (key : SessionKey) (ref : ℕ) (core : AsyncTunnelCore) (t : TunnelTask)
    (rest : List TunnelTask) (answer : TunnelAnswer) : Prop where
  fits : DataPushFits ref core t rest answer
  keyed : Keyed key ref core
  kept : (t.effect core).discards key.2 = true → queueBytes key core.outbound = [] ∨
    core.arena[ref]?.map (·.readerStatus) = some .finished

instance (key : SessionKey) (ref : ℕ) (core : AsyncTunnelCore) (t : TunnelTask)
    (rest : List TunnelTask) (answer : TunnelAnswer) :
    Decidable (Carried key ref core t rest answer) :=
  have : Decidable (Keyed key ref core) :=
    inferInstanceAs (Decidable (∀ entry ∈ core.arena.zipIdx, entry.1.key = key ↔ entry.2 = ref))
  decidable_of_iff (DataPushFits ref core t rest answer ∧ Keyed key ref core ∧
      ((t.effect core).discards key.2 = true → queueBytes key core.outbound = [] ∨
        core.arena[ref]?.map (·.readerStatus) = some .finished))
    ⟨fun h => ⟨h.1, h.2.1, h.2.2⟩, fun h => ⟨h.fits, h.keyed, h.kept⟩⟩

/-! ## One turn -/

section Turn

variable {key : SessionKey} {ref : ℕ} {core : AsyncTunnelCore} {answer : TunnelAnswer}
  {d : TunnelTurn}

/-- Only a drain drains. -/
theorem TunnelTask.drainedBytes_turn {t : TunnelTask} (hturn : t.turn answer core = some d)
    (hne : t.kind ≠ .nextFrames) : drainedBytes key d.trace = [] := by
  refine List.flatMap_eq_nil_iff.mpr fun o ho => ?_
  have hkind := seenBy_turn hturn o ho
  cases o with
  | drained frames => exact absurd hkind.symm hne
  | _ => rfl

/-- A reader adds what it queues to the data in the queue. -/
theorem ReaderTask.queueBytes_turn (hkeyed : Keyed key ref core) {r : ℕ}
    {session : AsyncTunnelSession} (hs : core.arena[r]? = some session) (task : ReaderTask) :
    queueBytes key (task.turn answer core r session).shared.outbound =
      queueBytes key core.outbound ++ queuedBytes ref (task.turn answer core r session).trace := by
  cases task with
  | pushData chunk =>
    have hdata : (dataFrame session.leg session.sessionId chunk).dataOf key =
        if r = ref then chunk else [] :=
      if_congr ((and_iff_right rfl).trans (hkeyed.iff hs)) rfl rfl
    simp only [ReaderTask.turn, ReaderTask.push, pushFrame]
    rcases core.outbound.tryPush_cases (dataFrame session.leg session.sessionId chunk) answer.now
      with ⟨-, hpush⟩ | ⟨-, hpush⟩
    · simp [hpush, queuedBytes, TunnelObservation.queuedBytes]
    · simp only [hpush, queueBytes, List.flatMap_append, List.flatMap_singleton, hdata]
      simp [queuedBytes, TunnelObservation.queuedBytes, dataFrame]
  | pushClose =>
    have hnone : (closeFrame session.leg session.sessionId).dataOf key = [] :=
      if_neg fun hand => by simp [closeFrame] at hand
    simp only [ReaderTask.turn, ReaderTask.shared_push, queueBytes_tryPush_none hnone]
    rcases ReaderTask.push_cases answer core r (closeFrame session.leg session.sessionId) .remove
      with ⟨-, -, htrace⟩ | ⟨-, -, htrace⟩ <;> rw [htrace] <;>
      simp [queuedBytes, TunnelObservation.queuedBytes, closeFrame]
  | read | remove =>
    simp only [ReaderTask.turn]
    (repeat' split) <;> exact (List.append_nil _).symm
  | _ => exact (List.append_nil _).symm

/-- A task other than a reader and a drain leaves the data of the session in the queue alone, unless
it discards it. -/
theorem TunnelTask.queueBytes_effect {t : TunnelTask} (hreader : ∀ r, t.kind ≠ .reader r)
    (hdrain : t.kind ≠ .nextFrames) (hkept : (t.effect core).discards key.2 = false) (now : ℕ) :
    queueBytes key ((t.effect core).outbound now core.outbound) = queueBytes key core.outbound := by
  cases t with
  | opening task =>
    cases task with
    | announce sessionId payload r =>
      simp only [effect]
      cases encodeSessionOpenPayload payload with
      | error error => rfl
      | ok payload =>
        exact queueBytes_tryPush_none (if_neg fun hand => by simp [openFrame] at hand) now
    | _ => rfl
  | reader r task => exact absurd rfl (hreader r)
  | close task =>
    cases task with
    | removeFrames sessionId r =>
      exact queueBytes_remove_other (of_decide_eq_false hkept)
    | _ => rfl
  | closeAll task =>
    cases task with
    | await readers =>
      cases readers with
      | nil => exact absurd hkept.symm Bool.false_ne_true
      | cons r readers => rfl
    | _ => rfl
  | nextFrames maxFrames => exact absurd rfl hdrain
  | _ => rfl

/-- What a task other than a reader queues is not seen. -/
theorem TunnelTask.queuedBytes_turn {t : TunnelTask} (hturn : t.turn answer core = some d)
    (hreader : t.kind ≠ .reader ref) : queuedBytes ref d.trace = [] := by
  refine (bytes_of_others fun o ho hread => ?_).2
  by_cases hopen : t.kind = .opening
  · cases t with
    | opening task =>
      cases hturn
      rw [(task.frame_turn answer core).1 o ho] at hread
      cases hread
    | _ => cases hopen
  · exact hreader ((TunnelTask.frame_turn hturn hopen).2 o ho ref hread)

/-- **A turn that discards nothing of the session** moves its data on: what it drains and what is in
the queue then is what was in the queue and what it queued. -/
theorem TunnelTask.flow_turn {t : TunnelTask} (hkeyed : Keyed key ref core)
    (hturn : t.turn answer core = some d) (hkept : (t.effect core).discards key.2 = false) :
    drainedBytes key d.trace ++ queueBytes key d.shared.outbound =
      queueBytes key core.outbound ++ queuedBytes ref d.trace := by
  by_cases hdrain : t.kind = .nextFrames
  · cases t with
    | nextFrames maxFrames =>
      cases hturn
      simp only [drainedBytes, List.flatMap_singleton, TunnelObservation.drainedBytes]
      exact (queueBytes_drain core.stats maxFrames answer.now).trans (List.append_nil _).symm
    | _ => cases hdrain
  · rw [drainedBytes_turn hturn hdrain, List.nil_append]
    by_cases hreader : ∃ r, t.kind = .reader r
    · obtain ⟨r, hr⟩ := hreader
      cases t with
      | reader r task =>
        obtain ⟨session, hs, rfl⟩ := Option.map_eq_some_iff.mp hturn
        exact task.queueBytes_turn hkeyed hs
      | _ => cases hr
    · rw [queuedBytes_turn hturn fun hr => hreader ⟨ref, hr⟩, List.append_nil,
        (core_turn hturn).2]
      exact queueBytes_effect (fun r hr => hreader ⟨r, hr⟩) hdrain hkept answer.now

/-- A turn that discards the data of the session does nothing else to it. -/
theorem TunnelTask.discard_turn {t : TunnelTask} (hturn : t.turn answer core = some d)
    (hdiscards : (t.effect core).discards key.2 = true) :
    drainedBytes key d.trace = [] ∧ queueBytes key d.shared.outbound = [] ∧
      queuedBytes ref d.trace = [] := by
  have hcore := (core_turn hturn).2
  have hkind : t.kind = .close ∨ t.kind = .closeAll := by
    cases t with
    | opening task =>
      cases task with
      | announce sessionId payload r =>
        simp only [effect] at hdiscards
        split at hdiscards <;> cases hdiscards
      | _ => cases hdiscards
    | reader r task =>
      cases task with
      | pushData chunk | pushClose =>
        cases hs : core.arena[r]? <;> rw [effect, hs] at hdiscards <;> cases hdiscards
      | _ => cases hdiscards
    | close task => exact .inl rfl
    | closeAll task => exact .inr rfl
    | _ => cases hdiscards
  refine ⟨drainedBytes_turn hturn ?_, ?_, queuedBytes_turn hturn ?_⟩
  · rcases hkind with h | h <;> rw [h] <;> simp
  · rw [hcore]
    cases heffect : t.effect core with
    | remove sessionId =>
      rw [heffect] at hdiscards
      cases of_decide_eq_true hdiscards
      exact queueBytes_remove
    | clear => rfl
    | _ =>
      rw [heffect] at hdiscards
      cases hdiscards
  · rcases hkind with h | h <;> rw [h] <;> simp

end Turn

/-! ## Over all schedules -/

/-- Nobody opens the session or reads for it any more. -/
def Unserved (ref : ℕ) (core : AsyncTunnelCore) (tasks : List TunnelTask) : Prop :=
  ref < core.ledger.cells.length ∧ ref ∉ Ledger.owned (tokensOf tasks)

/-- What was drained and what waits is what was queued, until the session has ended and the rest was
discarded. -/
structure Flow (key : SessionKey) (ref : ℕ) (core : AsyncTunnelCore) (tasks : List TunnelTask)
    (trace : List TunnelObservation) : Prop where
  intact : Intact ref core tasks trace
  live : core.ledger.Live (tokensOf tasks)
  flow : drainedBytes key trace ++ queueBytes key core.outbound = queuedBytes ref trace ∨
    Unserved ref core tasks ∧ queueBytes key core.outbound = [] ∧
      drainedBytes key trace <+: queuedBytes ref trace

namespace Flow

variable {key : SessionKey} {ref : ℕ} {core : AsyncTunnelCore} {t : TunnelTask}
  {tasks rest : List TunnelTask} {trace : List TunnelObservation} {answer : TunnelAnswer}
  {d : TunnelTurn}

theorem empty (key : SessionKey) (ref : ℕ) (limits : TunnelRuntimeLimits) :
    Flow key ref (.new limits) [] [] :=
  ⟨⟨OneReader.empty limits, Nat.zero_le _, rfl, fun _ h => absurd h List.not_mem_nil⟩,
    fun _ h => absurd h List.not_mem_nil, .inl rfl⟩

theorem perm {tasks' : List TunnelTask} (hperm : tasks.Perm tasks')
    (h : Flow key ref core tasks trace) : Flow key ref core tasks' trace := by
  have htokens : (tokensOf tasks).Perm (tokensOf tasks') := hperm.flatMap_right _
  refine ⟨h.intact.perm hperm, h.live.perm htokens, h.flow.imp_right fun ⟨hunserved, hrest⟩ => ?_⟩
  exact ⟨⟨hunserved.1, fun hn => hunserved.2 ((Ledger.mem_owned_perm htokens).mpr hn)⟩, hrest⟩

theorem start (op : TunnelOp) (h : Flow key ref core tasks trace) :
    Flow key ref core (op.task :: tasks) trace := by
  have htokens : tokensOf (op.task :: tasks) = tokensOf tasks := by
    rw [tokensOf_cons, tokens_start, List.nil_append]
  refine ⟨h.intact.start op, ?_, ?_⟩
  · rw [htokens]
    exact h.live
  · rw [Unserved, htokens]
    exact h.flow

theorem live_turn (hone : OneReader core (t :: rest))
    (hlive : core.ledger.Live (tokensOf (t :: rest))) (hturn : t.turn answer core = some d) :
    d.shared.ledger.Live (tokensOf (d.tasks ++ rest)) := by
  obtain ⟨ts, ts', frame, hbefore, hafter, hstep⟩ :=
    t.ledgerMove answer (hone.rules t List.mem_cons_self) hturn
  have hperm : (tokensOf (t :: rest)).Perm (ts ++ (frame ++ tokensOf rest)) := by
    rw [tokensOf_cons, ← List.append_assoc]
    exact hbefore.append_right _
  refine ((hlive.perm hperm).step (hone.solo.perm hperm) hstep).perm ?_
  rw [tokensOf_append, ← List.append_assoc]
  exact (hafter.append_right _).symm

/-- A session that has ended stays so. -/
theorem unserved_turn (hone : OneReader core (t :: rest)) (hturn : t.turn answer core = some d)
    (h : Unserved ref core (t :: rest)) : Unserved ref d.shared (d.tasks ++ rest) :=
  (@settled_le core ⟨[], []⟩ answer t [] d rest hone hturn).unowned h

/-- A session that has ended queues nothing. -/
theorem queuedBytes_of_unserved (hturn : t.turn answer core = some d)
    (h : Unserved ref core (t :: rest)) : queuedBytes ref d.trace = [] := by
  refine TunnelTask.queuedBytes_turn hturn fun hkind => h.2 ?_
  rw [tokensOf_cons, Ledger.owned_append]
  refine List.mem_append_left _ ?_
  cases t with
  | reader r task =>
    cases hkind
    cases task <;> simp [TunnelTask.tokens, ReaderTask.tokens, Ledger.owned, Duty.owns]
  | _ => cases hkind

theorem turn (h : Flow key ref core (t :: rest) trace)
    (hcarried : Carried key ref core t rest answer) (hturn : t.turn answer core = some d) :
    Flow key ref d.shared (d.tasks ++ rest) (trace ++ d.trace) := by
  have hone := h.intact.one
  refine ⟨h.intact.turn hcarried.fits hturn, live_turn hone h.live hturn, ?_⟩
  rw [drainedBytes_append, queuedBytes_append]
  cases hdiscards : (t.effect core).discards key.2 with
  | false =>
    have hmove := TunnelTask.flow_turn hcarried.keyed hturn hdiscards
    refine h.flow.imp (fun hflow => ?_) fun ⟨hunserved, hempty, hfirst⟩ => ?_
    · rw [List.append_assoc, hmove, ← List.append_assoc, hflow]
    · -- nothing moves any more
      have hqueued := queuedBytes_of_unserved hturn hunserved
      rw [hempty, hqueued, List.append_nil, List.append_eq_nil_iff] at hmove
      rw [hmove.1, hmove.2, hqueued, List.append_nil, List.append_nil]
      exact ⟨unserved_turn hone hturn hunserved, rfl, hfirst⟩
  | true =>
    obtain ⟨hdrained, hempty', hqueued⟩ := @TunnelTask.discard_turn key ref _ _ _ _ hturn hdiscards
    rw [hdrained, hempty', hqueued, List.append_nil, List.append_nil, List.append_nil]
    rcases h.flow with hflow | ⟨hunserved, -, hfirst⟩
    · rcases hcarried.kept hdiscards with hempty | hfinished
      · rw [hempty, List.append_nil] at hflow
        exact .inl hflow
      · have hunserved : Unserved ref core (t :: rest) :=
          @unowned_of_finished core ⟨[], []⟩ _ h.live ref hfinished
        exact .inr ⟨unserved_turn hone hturn hunserved, rfl, hflow ▸ List.prefix_append _ _⟩
    · exact .inr ⟨unserved_turn hone hturn hunserved, rfl, hfirst⟩

theorem run {limits : TunnelRuntimeLimits} {actions : List (Action TunnelAnswer TunnelOp)}
    {c : Config AsyncTunnelCore TunnelTask TunnelObservation}
    (halong : tunnelSystem.Along (Carried key ref) (tunnelStart limits) actions)
    (hrun : tunnelSystem.run (tunnelStart limits) actions = some c) :
    Flow key ref c.shared c.tasks c.trace :=
  System.inv_run (fun hperm h => h.perm hperm) start (fun h hcarried hturn => h.turn hcarried hturn)
    (empty key ref limits) halong hrun

theorem prefix_read (h : Flow key ref core tasks trace) :
    drainedBytes key trace <+: readBytes ref trace := by
  rw [h.intact.stream]
  refine List.IsPrefix.trans ?_ (List.prefix_append _ _)
  rcases h.flow with hflow | ⟨-, -, hfirst⟩
  · exact hflow ▸ List.prefix_append _ _
  · exact hfirst

end Flow

/-- **From the TCP stream to the data session.** As long as each chunk of a session finds room in
the queue, no other session has its leg and id, and nothing of it is discarded before its reader has
ended, the data that the data session drains for it is a prefix of what was read from its stream, in
every interleaving with the other sessions. -/
theorem drained_isPrefix_read {key : SessionKey} {ref : ℕ} {limits : TunnelRuntimeLimits}
    {actions : List (Action TunnelAnswer TunnelOp)}
    {c : Config AsyncTunnelCore TunnelTask TunnelObservation}
    (halong : tunnelSystem.Along (Carried key ref) (tunnelStart limits) actions)
    (hrun : tunnelSystem.run (tunnelStart limits) actions = some c) :
    drainedBytes key c.trace <+: readBytes ref c.trace :=
  (Flow.run halong hrun).prefix_read

/-- The first byte of a session is drained; the second one is still in the queue when the session is
closed, and discarded. -/
def drainedAndClosed : List (Action TunnelAnswer TunnelOp) :=
  openFirst 1 ++ readOne 1 97 ++ [.start (.nextFrames 8), .turn 0 (oneByte 0)] ++ readOne 0 98 ++
    [.start (.closeSession 1), .turn 0 (oneByte 0), .turn 0 (oneByte 0), .turn 1 (oneByte 0),
      .turn 0 (oneByte 0), .turn 0 (oneByte 0)]

theorem drained_isPrefix_read_closed :
    tunnelSystem.Along (Carried (.egress, 1) 0) (tunnelStart .default) drainedAndClosed ∧
    ∃ c, tunnelSystem.run (tunnelStart .default) drainedAndClosed = some c ∧
      queueBytes (.egress, 1) c.shared.outbound = [] ∧ readBytes 0 c.trace = [97, 98] ∧
      drainedBytes (.egress, 1) c.trace = [97] ∧
      drainedBytes (.egress, 1) c.trace <+: readBytes 0 c.trace := by
  have halong : tunnelSystem.Along (Carried (.egress, 1) 0) (tunnelStart .default)
      drainedAndClosed := by decide +kernel
  refine ⟨halong, _, rfl, ?_, ?_, ?_, drained_isPrefix_read halong rfl⟩ <;> decide +kernel

end KeliAgent
