import KeliAgent.Lib.History
import KeliAgent.Lib.Pipe
import KeliAgent.Tunnel.Accounting
import KeliAgent.Tunnel.Effects

/-!
# Pending bytes and the order of inbound data

The channel from the data session to the writer of a session is a metered pipe (`Pipe`):
`handle_session_data` reserves, sends or gives back; the writer receives, writes and releases. Every
turn of every task is a step of the pipe of every session (**`turn_pipe`**), so in any interleaving
the counter of pending bytes is exact and the bytes written are a prefix of those accepted
(**`pending_bytes_exact`**).
-/

namespace KeliAgent

open Interleave AsyncTunnelCore Pipe

/-! ## The pipe of a session -/

def AsyncTunnelSession.pipe (session : AsyncTunnelSession) : Pipe.State UInt8 where
  metered := session.pendingBytes
  queue := session.toTcp
  isOpen := session.receiverOpen

namespace AsyncTunnelCore

def pipe (core : AsyncTunnelCore) (ref : ℕ) : Option (Pipe.State UInt8) :=
  core.arena[ref]?.map (·.pipe)

section Pipe

variable (core : AsyncTunnelCore) {ref r : ℕ}

theorem pipe_of_arena {session : AsyncTunnelSession} (hs : core.arena[ref]? = some session) :
    core.pipe ref = some session.pipe := by
  rw [pipe, hs, Option.map_some]

theorem pipe_modifySession_of_ne (h : ref ≠ r) (f : AsyncTunnelSession → AsyncTunnelSession) :
    (core.modifySession r f).pipe ref = core.pipe ref := by
  rw [pipe, getElem?_modifySession_of_ne core h, pipe]

theorem pipe_modifySession_self (f : AsyncTunnelSession → AsyncTunnelSession)
    (g : Pipe.State UInt8 → Pipe.State UInt8) (hf : ∀ session, (f session).pipe = g session.pipe) :
    (core.modifySession ref f).pipe ref = (core.pipe ref).map g := by
  cases hs : core.arena[ref]? with
  | none => simp [pipe, modifySession, hs]
  | some session =>
    rw [pipe, getElem?_modifySession_self hs, pipe_of_arena core hs]
    exact congrArg some (hf session)

theorem pipe_set {session session' : AsyncTunnelSession} (hs : core.arena[ref]? = some session) :
    (core.modifySession ref fun _ => session').pipe ref = some session'.pipe := by
  rw [pipe, getElem?_modifySession_self hs, Option.map_some]

/-- What does not touch the channel or its counter. -/
theorem pipe_modifySession_same {f : AsyncTunnelSession → AsyncTunnelSession}
    (hf : ∀ session, (f session).pipe = session.pipe) :
    (core.modifySession r f).pipe ref = core.pipe ref := by
  by_cases h : ref = r
  · subst h
    rw [pipe_modifySession_self core f id hf, Option.map_id]
    rfl
  · exact pipe_modifySession_of_ne core h f

theorem pipe_insertSession (sessionId ruleId : UInt64) (leg : FrameLeg) (ref : ℕ) :
    (core.insertSession sessionId ruleId leg).pipe ref =
      if ref = core.arena.length then some ⟨0, [], true⟩ else core.pipe ref := by
  unfold pipe insertSession
  split_ifs with h
  · subst h
    simp [AsyncTunnelSession.new, AsyncTunnelSession.pipe]
  · rcases Nat.lt_or_ge ref core.arena.length with hlt | hge
    · rw [List.getElem?_append_left hlt]
    · have hnone : (core.arena ++ [AsyncTunnelSession.new sessionId ruleId leg])[ref]? = none :=
        List.getElem?_eq_none_iff.mpr (by rw [List.length_append, List.length_singleton]; omega)
      rw [hnone, List.getElem?_eq_none_iff.mpr hge]

@[simp] theorem pipe_updateStats (f : TunnelRuntimeStats → TunnelRuntimeStats) :
    (core.updateStats f).pipe ref = core.pipe ref := rfl

@[simp] theorem pipe_spawnSessionReader : (core.spawnSessionReader r).pipe ref = core.pipe ref :=
  pipe_modifySession_same core fun _ => rfl

@[simp] theorem pipe_setReaderTask : (core.setReaderTask r).pipe ref = core.pipe ref :=
  pipe_modifySession_same core fun _ => rfl

@[simp] theorem pipe_finishReader : (core.finishReader r).pipe ref = core.pipe ref :=
  pipe_modifySession_same core fun _ => rfl

@[simp] theorem pipe_abortReader : (core.abortReader r).pipe ref = core.pipe ref := by
  refine pipe_modifySession_same core fun session => ?_
  split_ifs <;> rfl

@[simp] theorem pipe_announce (sessionId : UInt64) (payload : TunnelSessionOpenPayload) (now : ℕ) :
    (core.announce sessionId payload now).2.pipe ref = core.pipe ref := by
  unfold announce
  cases encodeSessionOpenPayload payload <;> rfl

theorem pipe_dropReceiver_self :
    (core.dropReceiver ref).pipe ref = (core.pipe ref).map fun p => { p with isOpen := false } :=
  pipe_modifySession_self core _ _ fun _ => rfl

end Pipe

end AsyncTunnelCore

/-! ## What tasks have in hand -/

/-- The session that the task has a stake in, and the stake. -/
def TunnelTask.stake : TunnelTask → Option (ℕ × Stake UInt8)
  | .opening (.countActive _ ref) | .opening (.countTotal _ ref) | .opening (.countRule _ ref)
  | .opening (.announce _ _ ref) | .opening (.spawnReader _ ref)
  | .opening (.spawnWriter _ ref) => some (ref, .starting)
  | .writer ref .receive => some (ref, .waiting)
  | .writer ref (.countBytes payload) | .writer ref (.write payload) => some (ref, .holding payload)
  | .writer ref (.release payload done) => some (ref, .released payload done)
  | .writer ref .stop => some (ref, .stopping)
  | .data (.send ref payload) => some (ref, .sending payload)
  | .data (.release ref payload) => some (ref, .returning payload)
  | _ => none

/-- The stakes of the tasks in one session. -/
def stakesIn (ref : ℕ) (tasks : List TunnelTask) : List (Stake UInt8) :=
  tasks.filterMap fun t => t.stake.bind fun s => if s.1 = ref then some s.2 else none

@[simp] theorem stakesIn_nil (ref : ℕ) : stakesIn ref [] = [] := rfl

@[simp] theorem stakesIn_append (ref : ℕ) (ts us : List TunnelTask) :
    stakesIn ref (ts ++ us) = stakesIn ref ts ++ stakesIn ref us := List.filterMap_append

theorem stakesIn_cons_none {ref : ℕ} {t : TunnelTask} (h : t.stake = none) (ts : List TunnelTask) :
    stakesIn ref (t :: ts) = stakesIn ref ts := by
  simp [stakesIn, h]

theorem stakesIn_cons_self {ref : ℕ} {t : TunnelTask} {k : Stake UInt8}
    (h : t.stake = some (ref, k)) (ts : List TunnelTask) :
    stakesIn ref (t :: ts) = k :: stakesIn ref ts := by
  simp [stakesIn, h]

theorem stakesIn_cons_other {ref r : ℕ} {t : TunnelTask} {k : Stake UInt8}
    (h : t.stake = some (r, k)) (hr : ref ≠ r) (ts : List TunnelTask) :
    stakesIn ref (t :: ts) = stakesIn ref ts := by
  simp [stakesIn, h, hr.symm]

/-- The payload that the turn of the task puts into the channel of a session. -/
def TunnelTask.sent (core : AsyncTunnelCore) : TunnelTask → List (ℕ × List UInt8)
  | .data (.send ref payload) =>
    if (core.arena[ref]?.bind (·.trySend payload)).isSome then [(ref, payload)] else []
  | _ => []

def sentTo (ref : ℕ) (sent : List (ℕ × List UInt8)) : List (List UInt8) :=
  (sent.filter (·.1 = ref)).map (·.2)

@[simp] theorem sentTo_append (ref : ℕ) (sent sent' : List (ℕ × List UInt8)) :
    sentTo ref (sent ++ sent') = sentTo ref sent ++ sentTo ref sent' := by
  simp [sentTo]

def TunnelObservation.writtenBytes (ref : ℕ) : TunnelObservation → List UInt8
  | .written r bytes => if r = ref then bytes else []
  | _ => []

/-- What was written to the stream of the session. -/
def writtenBytes (ref : ℕ) (trace : List TunnelObservation) : List UInt8 :=
  trace.flatMap (·.writtenBytes ref)

@[simp] theorem writtenBytes_append (ref : ℕ) (tr tr' : List TunnelObservation) :
    writtenBytes ref (tr ++ tr') = writtenBytes ref tr ++ writtenBytes ref tr' := by
  simp [writtenBytes]

/-! ## Turns are steps of the pipe -/

/-- The turn is a step of the pipe of the session. -/
def PipeMove (core : AsyncTunnelCore) (t : TunnelTask) (d : TunnelTurn) (ref : ℕ) : Prop :=
  Pipe.Step core.limits.maxSessionPendingBytes (core.pipe ref) (stakesIn ref [t])
    (d.shared.pipe ref) (stakesIn ref d.tasks) (sentTo ref (t.sent core)) (writtenBytes ref d.trace)

section Moves

variable {core : AsyncTunnelCore} {t : TunnelTask} {d : TunnelTurn} {ref : ℕ}

/-- A turn that does not concern the session. -/
theorem pipeMove_idle (hpipe : d.shared.pipe ref = core.pipe ref)
    (hstakes : stakesIn ref d.tasks = stakesIn ref [t]) (hsent : sentTo ref (t.sent core) = [])
    (hwritten : writtenBytes ref d.trace = []) : PipeMove core t d ref := by
  unfold PipeMove
  rw [hpipe, hstakes, hsent, hwritten]
  exact .idle

theorem OpenTask.pipeMove (answer : TunnelAnswer) (core : AsyncTunnelCore) (task : OpenTask)
    (ref : ℕ) : PipeMove core (.opening task) (task.turn answer core) ref := by
  cases task with
  | egressCheck sessionId ruleId =>
    unfold OpenTask.turn
    cases core.ensureAgentSessionCapacity <;> exact pipeMove_idle rfl rfl rfl rfl
  | egressDial sessionId ruleId =>
    unfold OpenTask.turn
    cases dialResult answer.dial <;> exact pipeMove_idle rfl rfl rfl rfl
  | ingressCheck sessionId payload =>
    unfold OpenTask.turn
    cases core.ensureAgentSessionCapacity <;> exact pipeMove_idle rfl rfl rfl rfl
  | drawId payload => exact pipeMove_idle rfl rfl rfl rfl
  | insert opening =>
    have hpipe := pipe_insertSession core opening.sessionId opening.ruleId opening.leg ref
    by_cases hr : ref = core.arena.length
    · subst hr
      have hnone : core.pipe core.arena.length = none := by simp [pipe]
      rw [if_pos rfl] at hpipe
      unfold PipeMove
      rw [hnone, OpenTask.turn, hpipe, stakesIn_cons_none rfl, stakesIn_cons_self rfl]
      exact .create
    · rw [if_neg hr] at hpipe
      exact pipeMove_idle hpipe (stakesIn_cons_other rfl hr _) rfl rfl
  | countActive opening r | countTotal opening r => exact pipeMove_idle rfl rfl rfl rfl
  | countRule opening r => cases opening <;> exact pipeMove_idle rfl rfl rfl rfl
  | announce sessionId payload r =>
    have hpipe : (core.announce sessionId payload answer.now).2.pipe ref = core.pipe ref :=
      pipe_announce core sessionId payload answer.now
    simp only [OpenTask.turn]
    split <;> rename_i h <;> rw [h] at hpipe
    · rename_i error announced
      by_cases hr : ref = r
      · subst hr
        unfold PipeMove
        rw [pipe_dropReceiver_self, hpipe, stakesIn_cons_self rfl]
        exact .abandon
      · exact pipeMove_idle ((pipe_modifySession_of_ne announced hr _).trans hpipe)
          (stakesIn_cons_other rfl hr _).symm rfl rfl
    · exact pipeMove_idle hpipe rfl rfl rfl
  | spawnReader opening r =>
    refine pipeMove_idle (pipe_spawnSessionReader core) ?_ rfl rfl
    rfl
  | spawnWriter opening r =>
    by_cases hr : ref = r
    · subst hr
      unfold PipeMove
      rw [OpenTask.turn, stakesIn_cons_self rfl, stakesIn_cons_none rfl, stakesIn_cons_self rfl]
      exact .start
    · refine pipeMove_idle rfl ?_ rfl rfl
      rw [OpenTask.turn, stakesIn_cons_none rfl, stakesIn_cons_other rfl hr,
        stakesIn_cons_other rfl hr]
  | setReader opening r =>
    refine pipeMove_idle (pipe_setReaderTask core) rfl rfl ?_
    cases opening <;> rfl

theorem ReaderTask.pipeMove (answer : TunnelAnswer) (core : AsyncTunnelCore) (r : ℕ)
    (session : AsyncTunnelSession) (task : ReaderTask) (ref : ℕ) :
    PipeMove core (.reader r task) (task.turn answer core r session) ref := by
  have hpush : ∀ frame next, PipeMove core (.reader r task)
      (ReaderTask.push answer core r frame next) ref := by
    intro frame next
    unfold ReaderTask.push
    split <;> rename_i h <;> obtain rfl := congrArg Prod.snd h <;>
      exact pipeMove_idle rfl rfl rfl rfl
  cases task with
  | read =>
    simp only [ReaderTask.turn]
    split_ifs
    · exact pipeMove_idle (pipe_finishReader core) rfl rfl rfl
    · split <;> exact pipeMove_idle rfl rfl rfl rfl
  | pushData chunk => exact hpush _ _
  | pushClose => exact hpush _ _
  | remove =>
    simp only [ReaderTask.turn]
    split
    · exact pipeMove_idle (pipe_finishReader core) rfl rfl rfl
    · exact pipeMove_idle rfl rfl rfl rfl
  | countBytes chunk | uncountActive => exact pipeMove_idle rfl rfl rfl rfl
  | uncountRule =>
    exact pipeMove_idle (pipe_finishReader (core.updateStats (·.uncountRule session.ruleId)))
      rfl rfl rfl

theorem WriterTask.pipeMove {answer : TunnelAnswer} {r : ℕ} {session : AsyncTunnelSession}
    (hs : core.arena[r]? = some session) {task : WriterTask}
    (hturn : task.turn answer core r session = some d) (ref : ℕ) :
    PipeMove core (.writer r task) d ref := by
  by_cases hr : ref = r
  · subst hr
    have hpipe := pipe_of_arena core hs
    cases task with
    | receive =>
      simp only [WriterTask.turn] at hturn
      split at hturn <;> cases hturn
      rename_i payload rest hqueue
      unfold PipeMove
      rw [hpipe, pipe_set core hs, stakesIn_cons_self rfl, stakesIn_cons_self rfl]
      exact .receive hqueue
    | countBytes payload =>
      cases hturn
      exact pipeMove_idle rfl rfl rfl rfl
    | write payload =>
      simp only [WriterTask.turn] at hturn
      split at hturn <;> cases hturn
      · unfold PipeMove
        rw [stakesIn_cons_self rfl, stakesIn_cons_self rfl,
          show writtenBytes ref [.written ref payload] = payload by
            simp [writtenBytes, TunnelObservation.writtenBytes]]
        exact .write
      · rename_i written _
        unfold PipeMove
        rw [stakesIn_cons_self rfl, stakesIn_cons_self rfl,
          show writtenBytes ref [.written ref (payload.take written)] = payload.take written by
            simp [writtenBytes, TunnelObservation.writtenBytes]]
        exact .fail (List.take_prefix _ _)
    | release payload done =>
      cases hturn
      unfold PipeMove
      rw [hpipe, pipe_set core hs, stakesIn_cons_self rfl]
      cases done
      · rw [if_neg Bool.false_ne_true, stakesIn_cons_self rfl]
        exact .release
      · rw [if_pos rfl, stakesIn_cons_self rfl]
        exact .release
    | stop =>
      cases hturn
      unfold PipeMove
      rw [pipe_dropReceiver_self, stakesIn_cons_self rfl]
      exact .stop
  · -- the writer of another session
    have hother : ∀ {k : Stake UInt8}, (TunnelTask.writer r task).stake = some (r, k) →
        stakesIn ref [.writer r task] = [] := fun h => stakesIn_cons_other h hr _
    cases task with
    | receive =>
      simp only [WriterTask.turn] at hturn
      split at hturn <;> cases hturn
      exact pipeMove_idle (pipe_modifySession_of_ne core hr _)
        ((stakesIn_cons_other rfl hr _).trans (hother rfl).symm) rfl rfl
    | countBytes payload =>
      cases hturn
      exact pipeMove_idle rfl rfl rfl rfl
    | write payload =>
      simp only [WriterTask.turn] at hturn
      split at hturn <;> cases hturn <;>
        exact pipeMove_idle rfl ((stakesIn_cons_other rfl hr _).trans (hother rfl).symm) rfl
          (by simp [writtenBytes, TunnelObservation.writtenBytes, Ne.symm hr])
    | release payload done =>
      cases hturn
      refine pipeMove_idle (pipe_modifySession_of_ne core hr _) ?_ rfl rfl
      cases done <;> exact (stakesIn_cons_other rfl hr _).trans (hother rfl).symm
    | stop =>
      cases hturn
      exact pipeMove_idle (pipe_modifySession_of_ne core hr _) (hother rfl).symm rfl rfl

theorem DataTask.pipeMove {task : DataTask} (hturn : task.turn core = some d) (ref : ℕ) :
    PipeMove core (.data task) d ref := by
  cases task with
  | lookup sessionId payload =>
    simp only [DataTask.turn] at hturn
    split at hturn <;> cases hturn <;> exact pipeMove_idle rfl rfl rfl rfl
  | reserve r payload =>
    obtain ⟨session, hs, rfl⟩ := Option.map_eq_some_iff.mp hturn
    split
    · exact pipeMove_idle rfl rfl rfl rfl
    · rename_i reserved hreserve
      simp only [AsyncTunnelSession.reservePendingBytes] at hreserve
      split_ifs at hreserve with _ hlimit
      cases hreserve
      by_cases hr : ref = r
      · subst hr
        unfold PipeMove
        rw [pipe_of_arena core hs, pipe_set core hs, stakesIn_cons_none rfl, stakesIn_cons_self rfl]
        exact .reserve (Nat.not_lt.mp hlimit)
      · exact pipeMove_idle (pipe_modifySession_of_ne core hr _) (stakesIn_cons_other rfl hr _) rfl
          rfl
  | send r payload =>
    obtain ⟨session, hs, rfl⟩ := Option.map_eq_some_iff.mp hturn
    have hsent : (TunnelTask.data (.send r payload)).sent core =
        if (session.trySend payload).isSome then [(r, payload)] else [] := by
      rw [TunnelTask.sent, hs, Option.bind_some]
    split
    · rename_i sent hsend
      rw [hsend] at hsent
      simp only [AsyncTunnelSession.trySend] at hsend
      split_ifs at hsend
      cases hsend
      by_cases hr : ref = r
      · subst hr
        unfold PipeMove
        rw [pipe_of_arena core hs, pipe_set core hs, stakesIn_cons_self rfl, hsent,
          show sentTo ref _ = [payload] by simp [sentTo]]
        exact .send
      · refine pipeMove_idle (pipe_modifySession_of_ne core hr _)
          (stakesIn_cons_other rfl hr _).symm ?_ rfl
        rw [hsent]
        simp [sentTo, Ne.symm hr]
    · rename_i hsend
      rw [hsend] at hsent
      by_cases hr : ref = r
      · subst hr
        unfold PipeMove
        rw [stakesIn_cons_self rfl, stakesIn_cons_self rfl, hsent]
        exact .refuse
      · refine pipeMove_idle rfl
          ((stakesIn_cons_other rfl hr _).trans (stakesIn_cons_other rfl hr _).symm) ?_ rfl
        rw [hsent]
        rfl
  | release r payload =>
    cases hturn
    by_cases hr : ref = r
    · subst hr
      unfold PipeMove
      rw [pipe_modifySession_self core _
        (fun p => { p with metered := p.metered - payload.length }) fun _ => rfl,
        stakesIn_cons_self rfl]
      exact .giveBack
    · exact pipeMove_idle (pipe_modifySession_of_ne core hr _) (stakesIn_cons_other rfl hr _).symm
        rfl rfl

/-- **Every turn is a step of the pipe of every session.** -/
theorem TunnelTask.turn_pipe {answer : TunnelAnswer} (hturn : t.turn answer core = some d)
    (ref : ℕ) : PipeMove core t d ref := by
  cases t with
  | opening task =>
    cases hturn
    exact task.pipeMove answer core ref
  | reader r task =>
    obtain ⟨session, -, rfl⟩ := Option.map_eq_some_iff.mp hturn
    exact task.pipeMove answer core r session ref
  | writer r task =>
    obtain ⟨session, hs, hturn⟩ := Option.bind_eq_some_iff.mp hturn
    exact WriterTask.pipeMove hs hturn ref
  | data task => exact DataTask.pipeMove hturn ref
  | close task =>
    cases task with
    | remove sessionId =>
      simp only [turn, CloseTask.turn] at hturn
      split at hturn <;> cases hturn <;> exact pipeMove_idle rfl rfl rfl rfl
    | abort sessionId r =>
      obtain ⟨session, -, rfl⟩ := Option.map_eq_some_iff.mp hturn
      refine pipeMove_idle (pipe_abortReader core) ?_ rfl rfl
      split_ifs <;> rfl
    | await sessionId r =>
      simp only [turn, CloseTask.turn] at hturn
      split_ifs at hturn
      cases hturn
      exact pipeMove_idle rfl rfl rfl rfl
    | removeFrames sessionId r | uncountActive r =>
      cases hturn
      exact pipeMove_idle rfl rfl rfl rfl
    | uncountRule r =>
      obtain ⟨session, -, rfl⟩ := Option.map_eq_some_iff.mp hturn
      exact pipeMove_idle rfl rfl rfl rfl
  | closeAll task =>
    cases task with
    | drain =>
      cases hturn
      exact pipeMove_idle rfl rfl rfl rfl
    | next removed readers =>
      simp only [turn, CloseAllTask.turn] at hturn
      split at hturn
      · cases hturn
        exact pipeMove_idle rfl rfl rfl rfl
      · obtain ⟨session, -, rfl⟩ := Option.map_eq_some_iff.mp hturn
        exact pipeMove_idle (pipe_abortReader core) rfl rfl rfl
    | uncountActive r removed readers =>
      cases hturn
      exact pipeMove_idle rfl rfl rfl rfl
    | uncountRule r removed readers =>
      obtain ⟨session, -, rfl⟩ := Option.map_eq_some_iff.mp hturn
      exact pipeMove_idle rfl rfl rfl rfl
    | await readers =>
      cases readers with
      | nil =>
        cases hturn
        exact pipeMove_idle rfl rfl rfl rfl
      | cons r readers =>
        simp only [turn, CloseAllTask.turn] at hturn
        split_ifs at hturn
        cases hturn
        exact pipeMove_idle rfl rfl rfl rfl
  | nextFrames maxFrames =>
    cases hturn
    exact pipeMove_idle rfl rfl rfl rfl

end Moves

/-! ## Runs -/

/-- The payloads that were put into channels, with their sessions, in order. -/
def sendHistory :
    History AsyncTunnelCore TunnelTask TunnelAnswer (List (ℕ × List UInt8)) Unit where
  fresh := ()
  shared _ core t sent _ := sent ++ t.sent core
  task _ _ _ := ()

/-- The core before any operation, with its history. -/
def sendingStart (limits : TunnelRuntimeLimits) :
    Config (AsyncTunnelCore × List (ℕ × List UInt8)) (TunnelTask × Unit) TunnelObservation :=
  ⟨(.new limits, []), [], []⟩

/-- All pipes are in order. -/
structure Metered (limits : TunnelRuntimeLimits) (core : AsyncTunnelCore)
    (sent : List (ℕ × List UInt8)) (tasks : List TunnelTask) (trace : List TunnelObservation) :
    Prop where
  limits_eq : core.limits = limits
  pipes : ∀ ref, Pipe.Inv limits.maxSessionPendingBytes (core.pipe ref) (stakesIn ref tasks)
    (sentTo ref sent) (writtenBytes ref trace)

namespace Metered

variable {limits : TunnelRuntimeLimits} {core : AsyncTunnelCore} {sent : List (ℕ × List UInt8)}
  {t : TunnelTask} {tasks rest : List TunnelTask} {trace : List TunnelObservation}

theorem empty (limits : TunnelRuntimeLimits) : Metered limits (.new limits) [] [] [] :=
  ⟨rfl, fun _ => Pipe.Inv.empty⟩

theorem perm {tasks' : List TunnelTask} (hperm : tasks.Perm tasks')
    (h : Metered limits core sent tasks trace) : Metered limits core sent tasks' trace :=
  ⟨h.limits_eq, fun ref => (h.pipes ref).perm (hperm.filterMap _)⟩

theorem start (op : TunnelOp) (h : Metered limits core sent tasks trace) :
    Metered limits core sent (op.task :: tasks) trace := by
  refine ⟨h.limits_eq, fun ref => ?_⟩
  rw [stakesIn_cons_none (by cases op <;> rfl)]
  exact h.pipes ref

theorem turn (h : Metered limits core sent (t :: rest) trace) {answer : TunnelAnswer}
    {d : TunnelTurn} (hturn : t.turn answer core = some d) :
    Metered limits d.shared (sent ++ t.sent core) (d.tasks ++ rest) (trace ++ d.trace) := by
  refine ⟨(TunnelTask.core_turn hturn).1.trans h.limits_eq, fun ref => ?_⟩
  have hinv := h.pipes ref
  have hmove := TunnelTask.turn_pipe hturn ref
  rw [← List.singleton_append, stakesIn_append] at hinv
  rw [PipeMove, h.limits_eq] at hmove
  rw [stakesIn_append, sentTo_append, writtenBytes_append]
  exact hinv.step hmove

end Metered

/-- The bytes of the session that calls of `handle_session_data` have reserved and not yet sent. -/
def reservedBytes (ref : ℕ) (tasks : List TunnelTask) : ℕ :=
  ((stakesIn ref tasks).map Stake.reserved).sum

/-- The bytes of the session that its writer has received and not yet released. -/
def writingBytes (ref : ℕ) (tasks : List TunnelTask) : ℕ :=
  ((stakesIn ref tasks).map Stake.writing).sum

theorem mem_stakesIn {ref : ℕ} {tasks : List TunnelTask} {t : TunnelTask} {k : Stake UInt8}
    (ht : t ∈ tasks) (hk : t.stake = some (ref, k)) : k ∈ stakesIn ref tasks :=
  List.mem_filterMap.mpr ⟨t, ht, by simp [hk]⟩

/-- A call of `handle_session_data` that fails is over. -/
theorem DataTask.tasks_of_error {core : AsyncTunnelCore} {task : DataTask} {d : TunnelTurn}
    (hturn : task.turn core = some d) {error : TunnelRuntimeError}
    (herror : .dataHandled (.error error) ∈ d.trace) : d.tasks = [] := by
  cases task with
  | lookup sessionId payload =>
    simp only [DataTask.turn] at hturn
    split at hturn <;> cases hturn
    · rfl
    · cases herror
  | reserve r payload =>
    obtain ⟨session, -, rfl⟩ := Option.map_eq_some_iff.mp hturn
    cases h : session.reservePendingBytes payload.length core.limits.maxSessionPendingBytes with
    | error _ => rfl
    | ok _ =>
      simp only [h] at herror
      cases herror
  | send r payload =>
    obtain ⟨session, -, rfl⟩ := Option.map_eq_some_iff.mp hturn
    cases h : session.trySend payload with
    | some _ => rfl
    | none =>
      simp only [h] at herror
      cases herror
  | release r payload =>
    cases hturn
    rfl

/-- **Pending bytes and inbound order.** In every run, for every session: as long as its channel has
a receiver, the counter of pending bytes is what calls have reserved and not yet sent, what is
queued and what is being written; a failed call is none of these. The counter never exceeds the
limit, and nothing is released that it does not hold. What was written to the stream is a prefix of
the payloads that entered the channel, in their order. -/
theorem pending_bytes_exact (limits : TunnelRuntimeLimits)
    {actions : List (Action TunnelAnswer TunnelOp)}
    {c : Config AsyncTunnelCore TunnelTask TunnelObservation}
    (hrun : tunnelSystem.run (tunnelStart limits) actions = some c) :
    ∃ d, (tunnelSystem.record sendHistory).run (sendingStart limits) actions = some d ∧
      d.erase = c ∧
      (∀ ref session, c.shared.arena[ref]? = some session →
        (session.receiverOpen = true → session.pendingBytes = reservedBytes ref c.tasks +
          (session.toTcp.map List.length).sum + writingBytes ref c.tasks) ∧
        session.pendingBytes ≤ limits.maxSessionPendingBytes ∧
        (∀ payload, .data (.release ref payload) ∈ c.tasks →
          payload.length ≤ session.pendingBytes) ∧
        (∀ payload done, .writer ref (.release payload done) ∈ c.tasks →
          payload.length ≤ session.pendingBytes) ∧
        writtenBytes ref c.trace <+: (sentTo ref d.shared.2).flatten) ∧
      ∀ task turn error, .data task ∈ c.tasks → task.turn c.shared = some turn →
        .dataHandled (.error error) ∈ turn.trace → turn.tasks = [] := by
  have herase : (sendingStart limits).erase = tunnelStart limits := rfl
  rw [← herase] at hrun
  obtain ⟨d, hd, rfl⟩ := tunnelSystem.exists_record sendHistory hrun
  have hmetered := @System.inv_run _ _ _ _ _ (tunnelSystem.record sendHistory)
    (fun _ _ _ _ => True)
    (fun s (tasks : List (TunnelTask × Unit)) trace =>
      Metered limits s.1 s.2 (tasks.map Prod.fst) trace)
    (fun hperm h => h.perm (hperm.map _)) (fun op h => h.start op)
    (fun h _ hstep => by
      obtain ⟨turn, hturn, rfl⟩ := Option.map_eq_some_iff.mp hstep
      have := h.turn hturn
      simpa [sendHistory, Function.comp_def] using this)
    _ _ _ (Metered.empty limits) (System.along_of_forall (fun _ _ _ _ => trivial) _ _) hd
  refine ⟨d, hd, rfl, fun ref session hs => ?_, fun task turn error _ hturn herror =>
    DataTask.tasks_of_error hturn herror⟩
  have hinv := hmetered.pipes ref
  rw [pipe_of_arena d.shared.1 hs] at hinv
  refine ⟨fun _ => ?_, hinv.bounded _ rfl, fun payload hmem => ?_, fun payload done hmem => ?_,
    hinv.isPrefix⟩
  · have := hinv.metered _ rfl
    rw [inHand_eq] at this
    unfold reservedBytes writingBytes
    change session.pendingBytes = _ + (session.toTcp.map List.length).sum at this
    rw [this]
    exact Nat.add_right_comm _ _ _
  · have := hinv.le_metered (mem_stakesIn hmem rfl)
    simpa [Stake.reserved, Stake.writing, AsyncTunnelSession.pipe] using this
  · have := hinv.le_metered (mem_stakesIn hmem rfl)
    simpa [Stake.reserved, Stake.writing, AsyncTunnelSession.pipe] using this

/-- A payload is sent to a session and written, and a second one is reserved. -/
def twoPayloads : List (Action TunnelAnswer TunnelOp) :=
  openFirst 1 ++ .start (.sessionData 1 [97, 98]) :: List.replicate 6 (.turn 0 endOfStream) ++
    .start (.sessionData 1 [99]) :: List.replicate 2 (.turn 0 endOfStream)

theorem pending_bytes_exact_twoPayloads :
    ∃ c session, tunnelSystem.run (tunnelStart .default) twoPayloads = some c ∧
      c.shared.arena[0]? = some session ∧ session.pendingBytes = 3 ∧
      writtenBytes 0 c.trace = [97, 98] ∧
      session.pendingBytes = reservedBytes 0 c.tasks + (session.toTcp.map List.length).sum +
        writingBytes 0 c.tasks := by
  have hseen : ((tunnelSystem.run (tunnelStart .default) twoPayloads).map fun c =>
      (c.shared.arena[0]?.map fun session => (session.receiverOpen, session.pendingBytes),
        writtenBytes 0 c.trace)) = some (some (true, 3), [97, 98]) := by decide +kernel
  obtain ⟨c, hrun, hc⟩ := Option.map_eq_some_iff.mp hseen
  obtain ⟨hsession, hwritten⟩ := Prod.mk.inj hc
  obtain ⟨session, hs, hfields⟩ := Option.map_eq_some_iff.mp hsession
  obtain ⟨hopen, hpending⟩ := Prod.mk.inj hfields
  obtain ⟨d, -, -, hsessions, -⟩ := pending_bytes_exact .default hrun
  exact ⟨c, session, hrun, hs, hpending, hwritten, (hsessions 0 session hs).1 hopen⟩

end KeliAgent
