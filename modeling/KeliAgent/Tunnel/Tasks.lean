import KeliAgent.Lib.Interleave
import KeliAgent.Tunnel.Sessions

/-!
# The tunnel core as interleaved tasks

The operations of `AsyncTunnelCore` and the reader and writer tasks of its sessions, cut into turns.
A turn is one access to state that other tasks see: a locked map or queue, an atomic counter, a
channel, the join handle of a reader. What a task knows between its turns is in its name: it waits
to make the access it is named after.

An aborted reader is cancelled where it awaits its next read and nowhere else. Once it leaves its
loop it runs to its end.

* `TunnelTask.turn`: all turns; `tunnelSystem`: the interleaved system.
* **`run_openEgress`**, **`run_accept`**, **`run_sessionData`**, **`run_sessionReader`**,
  **`run_closeSession`**: an operation that is not interrupted does what the function of the core
  does.
-/

namespace KeliAgent

open Interleave AsyncTunnelCore

/-- What the environment answers to a turn: the time, the outcome of a dial, a read or a write, and
which session `close_all_sessions` comes to next. -/
structure TunnelAnswer where
  now : ℕ
  dial : TcpDial
  read : TcpRead
  write : TcpWrite
  pick : ℕ

/-- Every dial succeeds, and every read finds the end of the stream. -/
def endOfStream : TunnelAnswer := ⟨0, .connected, .bytes [], .done, 0⟩

/-- Every dial succeeds, and a read finds the byte. -/
def oneByte (byte : UInt8) : TunnelAnswer := ⟨0, .connected, .bytes [byte], .done, 0⟩

/-- The session that an operation is opening. -/
inductive Opening where
  | egress (sessionId ruleId : UInt64)
  | ingress (sessionId : UInt64) (payload : TunnelSessionOpenPayload)
  deriving DecidableEq, Repr

namespace Opening

def sessionId : Opening → UInt64
  | .egress sessionId _ => sessionId
  | .ingress sessionId _ => sessionId

def ruleId : Opening → UInt64
  | .egress _ ruleId => ruleId
  | .ingress _ payload => payload.ruleId

def leg : Opening → FrameLeg
  | .egress _ _ => .egress
  | .ingress _ _ => .ingress

end Opening

/-- `open_egress_session` and the accept loop with `attach_ingress_stream`; from the insertion on
they only differ in that an ingress session is announced. -/
inductive OpenTask where
  | egressCheck (sessionId ruleId : UInt64)
  | egressDial (sessionId ruleId : UInt64)
  | drawId (payload : TunnelSessionOpenPayload)
  | ingressCheck (sessionId : UInt64) (payload : TunnelSessionOpenPayload)
  | insert (opening : Opening)
  | countActive (opening : Opening) (ref : ℕ)
  | countTotal (opening : Opening) (ref : ℕ)
  | countRule (opening : Opening) (ref : ℕ)
  | announce (sessionId : UInt64) (payload : TunnelSessionOpenPayload) (ref : ℕ)
  | spawnReader (opening : Opening) (ref : ℕ)
  | spawnWriter (opening : Opening) (ref : ℕ)
  | setReader (opening : Opening) (ref : ℕ)
  deriving DecidableEq, Repr

/-- The reader task of a session. -/
inductive ReaderTask where
  | read
  | countBytes (chunk : List UInt8)
  | pushData (chunk : List UInt8)
  | pushClose
  | remove
  | uncountActive
  | uncountRule
  deriving DecidableEq, Repr

/-- The writer task of a session. -/
inductive WriterTask where
  | receive
  | countBytes (payload : List UInt8)
  | write (payload : List UInt8)
  | release (payload : List UInt8) (done : Bool)
  | stop
  deriving DecidableEq, Repr

/-- `handle_session_data`. -/
inductive DataTask where
  | lookup (sessionId : UInt64) (payload : List UInt8)
  | reserve (ref : ℕ) (payload : List UInt8)
  | send (ref : ℕ) (payload : List UInt8)
  | release (ref : ℕ) (payload : List UInt8)
  deriving DecidableEq, Repr

/-- `close_session`. -/
inductive CloseTask where
  | remove (sessionId : UInt64)
  | abort (sessionId : UInt64) (ref : ℕ)
  | await (sessionId : UInt64) (ref : ℕ)
  | removeFrames (sessionId : UInt64) (ref : ℕ)
  | uncountActive (ref : ℕ)
  | uncountRule (ref : ℕ)
  deriving DecidableEq, Repr

/-- `close_all_sessions`, with the sessions still to retire and the readers to await. -/
inductive CloseAllTask where
  | drain
  | next (removed readers : List ℕ)
  | uncountActive (ref : ℕ) (removed readers : List ℕ)
  | uncountRule (ref : ℕ) (removed readers : List ℕ)
  | await (readers : List ℕ)
  deriving DecidableEq, Repr

inductive TunnelTask where
  | opening (task : OpenTask)
  | reader (ref : ℕ) (task : ReaderTask)
  | writer (ref : ℕ) (task : WriterTask)
  | data (task : DataTask)
  | close (task : CloseTask)
  | closeAll (task : CloseAllTask)
  | nextFrames (maxFrames : ℕ)
  deriving DecidableEq, Repr

/-- What can be seen of a turn: results of operations, bytes read and written, and the frames that
readers queue, or fail to queue. -/
inductive TunnelObservation where
  | opened (result : Except TunnelRuntimeError (List KtpFrame))
  | attached (result : Except TunnelRuntimeError Unit)
  | dataHandled (result : Except TunnelRuntimeError Unit)
  | closed (result : Except TunnelRuntimeError Unit)
  | closedAll
  | drained (frames : List KtpFrame)
  | read (ref : ℕ) (chunk : List UInt8)
  | queued (ref : ℕ) (frame : KtpFrame)
  | refused (ref : ℕ) (frame : KtpFrame)
  | written (ref : ℕ) (bytes : List UInt8)

/-- The result of an operation that opened its session. -/
def Opening.done : Opening → TunnelObservation
  | .egress sessionId ruleId => .opened (.ok [acceptFrame sessionId ruleId])
  | .ingress _ _ => .attached (.ok ())

/-- Only an ingress session is announced to the server. -/
def Opening.afterCount (opening : Opening) (ref : ℕ) : OpenTask :=
  match opening with
  | .egress _ _ => .spawnReader opening ref
  | .ingress sessionId payload => .announce sessionId payload ref

/-- A turn: the core after it, what becomes of the task, and what was seen. -/
abbrev TunnelTurn := Config AsyncTunnelCore TunnelTask TunnelObservation

/-! ## Turns -/

def OpenTask.turn (answer : TunnelAnswer) (core : AsyncTunnelCore) : OpenTask → TunnelTurn
  | .egressCheck sessionId ruleId =>
    match core.ensureAgentSessionCapacity with
    | .error error => ⟨core, [], [.opened (.error error)]⟩
    | .ok () => ⟨core, [.opening (.egressDial sessionId ruleId)], []⟩
  | .egressDial sessionId ruleId =>
    match dialResult answer.dial with
    | .error error => ⟨core, [], [.opened (.error error)]⟩
    | .ok () => ⟨core, [.opening (.insert (.egress sessionId ruleId))], []⟩
  | .drawId payload =>
    ⟨{ core with nextSessionId := core.nextSessionId + 1 },
      [.opening (.ingressCheck core.nextSessionId payload)], []⟩
  | .ingressCheck sessionId payload =>
    match core.ensureAgentSessionCapacity with
    | .error error => ⟨core, [], [.attached (.error error)]⟩
    | .ok () => ⟨core, [.opening (.insert (.ingress sessionId payload))], []⟩
  | .insert opening =>
    ⟨core.insertSession opening.sessionId opening.ruleId opening.leg,
      [.opening (.countActive opening core.arena.length)], []⟩
  | .countActive opening ref =>
    ⟨core.updateStats (·.countActive), [.opening (.countTotal opening ref)], []⟩
  | .countTotal opening ref =>
    ⟨core.updateStats (·.countTotal), [.opening (.countRule opening ref)], []⟩
  | .countRule opening ref =>
    ⟨core.updateStats (·.countRule opening.ruleId), [.opening (opening.afterCount ref)], []⟩
  | .announce sessionId payload ref =>
    match core.announce sessionId payload answer.now with
    | (.error error, core) => ⟨core.dropReceiver ref, [], [.attached (.error error)]⟩
    | (.ok (), core) => ⟨core, [.opening (.spawnReader (.ingress sessionId payload) ref)], []⟩
  | .spawnReader opening ref =>
    ⟨core.spawnSessionReader ref, [.opening (.spawnWriter opening ref), .reader ref .read], []⟩
  | .spawnWriter opening ref =>
    ⟨core, [.opening (.setReader opening ref), .writer ref .receive], []⟩
  | .setReader opening ref => ⟨core.setReaderTask ref, [], [opening.done]⟩

/-- A reader pushes a frame, ignores whether it was refused, and goes on. -/
def ReaderTask.push (answer : TunnelAnswer) (core : AsyncTunnelCore) (ref : ℕ) (frame : KtpFrame)
    (task : ReaderTask) : TunnelTurn :=
  match core.pushFrame frame answer.now with
  | (.ok (), core) => ⟨core, [.reader ref task], [.queued ref frame]⟩
  | (.error _, core) => ⟨core, [.reader ref task], [.refused ref frame]⟩

def ReaderTask.turn (answer : TunnelAnswer) (core : AsyncTunnelCore) (ref : ℕ)
    (session : AsyncTunnelSession) : ReaderTask → TunnelTurn
  | .read =>
    if session.readerAborted then ⟨core.finishReader ref, [], []⟩
    else
      match answer.read.chunk core.limits.tcpReadChunkSize with
      | none => ⟨core, [.reader ref .remove], []⟩
      | some [] => ⟨core, [.reader ref .pushClose], []⟩
      | some chunk => ⟨core, [.reader ref (.countBytes chunk)], [.read ref chunk]⟩
  | .countBytes chunk =>
    ⟨core.updateStats (·.countBytesOut chunk.length), [.reader ref (.pushData chunk)], []⟩
  | .pushData chunk =>
    ReaderTask.push answer core ref (dataFrame session.leg session.sessionId chunk) .read
  | .pushClose => ReaderTask.push answer core ref (closeFrame session.leg session.sessionId) .remove
  | .remove =>
    match core.sessions.lookup session.sessionId with
    | none => ⟨core.finishReader ref, [], []⟩
    | some _ => ⟨core.eraseSession session.sessionId, [.reader ref .uncountActive], []⟩
  | .uncountActive => ⟨core.updateStats (·.uncountActive), [.reader ref .uncountRule], []⟩
  | .uncountRule => ⟨(core.updateStats (·.uncountRule session.ruleId)).finishReader ref, [], []⟩

/-- A writer whose channel is empty waits. When no sender is left either, it ends, which nobody can
tell from its waiting. -/
def WriterTask.turn (answer : TunnelAnswer) (core : AsyncTunnelCore) (ref : ℕ)
    (session : AsyncTunnelSession) : WriterTask → Option TunnelTurn
  | .receive =>
    match session.toTcp with
    | [] => none
    | payload :: rest =>
      some ⟨core.modifySession ref fun _ => { session with toTcp := rest },
        [.writer ref (.countBytes payload)], []⟩
  | .countBytes payload =>
    some ⟨core.updateStats (·.countBytesIn payload.length), [.writer ref (.write payload)], []⟩
  | .write payload =>
    match answer.write with
    | .done => some ⟨core, [.writer ref (.release payload true)], [.written ref payload]⟩
    | .failed written =>
      some ⟨core, [.writer ref (.release payload false)], [.written ref (payload.take written)]⟩
  | .release payload done =>
    some ⟨core.modifySession ref fun _ => session.releasePendingBytes payload.length,
      [.writer ref (if done then .receive else .stop)], []⟩
  | .stop => some ⟨core.dropReceiver ref, [], []⟩

def DataTask.turn (core : AsyncTunnelCore) : DataTask → Option TunnelTurn
  | .lookup sessionId payload =>
    match core.sessions.lookup sessionId with
    | none => some ⟨core, [], [.dataHandled (.error sessionNotFound)]⟩
    | some ref => some ⟨core, [.data (.reserve ref payload)], []⟩
  | .reserve ref payload =>
    core.arena[ref]?.map fun session =>
      match session.reservePendingBytes payload.length core.limits.maxSessionPendingBytes with
      | .error error => ⟨core, [], [.dataHandled (.error error)]⟩
      | .ok reserved => ⟨core.modifySession ref fun _ => reserved, [.data (.send ref payload)], []⟩
  | .send ref payload =>
    core.arena[ref]?.map fun session =>
      match session.trySend payload with
      | some sent => ⟨core.modifySession ref fun _ => sent, [], [.dataHandled (.ok ())]⟩
      | none => ⟨core, [.data (.release ref payload)], []⟩
  | .release ref payload =>
    some ⟨core.modifySession ref (·.releasePendingBytes payload.length), [],
      [.dataHandled (.error .backpressureLimit)]⟩

def CloseTask.turn (core : AsyncTunnelCore) : CloseTask → Option TunnelTurn
  | .remove sessionId =>
    match core.sessions.lookup sessionId with
    | none => some ⟨core, [], [.closed (.error sessionNotFound)]⟩
    | some ref => some ⟨core.eraseSession sessionId, [.close (.abort sessionId ref)], []⟩
  | .abort sessionId ref =>
    core.arena[ref]?.map fun session =>
      ⟨core.abortReader ref,
        [.close (if session.readerHandle then .await sessionId ref
          else .removeFrames sessionId ref)], []⟩
  | .await sessionId ref =>
    if core.arena[ref]?.map (·.readerStatus) = some .finished then
      some ⟨core, [.close (.removeFrames sessionId ref)], []⟩
    else none
  | .removeFrames sessionId ref =>
    some ⟨core.removeSessionFrames sessionId, [.close (.uncountActive ref)], []⟩
  | .uncountActive ref =>
    some ⟨core.updateStats (·.uncountActive), [.close (.uncountRule ref)], []⟩
  | .uncountRule ref =>
    core.arena[ref]?.map fun session =>
      ⟨core.updateStats (·.uncountRule session.ruleId), [], [.closed (.ok ())]⟩

/-- The order in which a hash map is drained is up to the environment. -/
def CloseAllTask.turn (answer : TunnelAnswer) (core : AsyncTunnelCore) :
    CloseAllTask → Option TunnelTurn
  | .drain =>
    some ⟨{ core with sessions := ∅ },
      [.closeAll (.next (core.sessions.entries.map (·.2)) [])], []⟩
  | .next removed readers =>
    match removed[answer.pick % removed.length]? with
    | none => some ⟨core, [.closeAll (.await readers)], []⟩
    | some ref =>
      core.arena[ref]?.map fun session =>
        ⟨core.abortReader ref,
          [.closeAll (.uncountActive ref (removed.eraseIdx (answer.pick % removed.length))
            (if session.readerHandle then readers ++ [ref] else readers))], []⟩
  | .uncountActive ref removed readers =>
    some ⟨core.updateStats (·.uncountActive), [.closeAll (.uncountRule ref removed readers)], []⟩
  | .uncountRule ref removed readers =>
    core.arena[ref]?.map fun session =>
      ⟨core.updateStats (·.uncountRule session.ruleId), [.closeAll (.next removed readers)], []⟩
  | .await [] => some ⟨core.clearOutbound, [], [.closedAll]⟩
  | .await (ref :: readers) =>
    if core.arena[ref]?.map (·.readerStatus) = some .finished then
      some ⟨core, [.closeAll (.await readers)], []⟩
    else none

def TunnelTask.turn (answer : TunnelAnswer) (core : AsyncTunnelCore) :
    TunnelTask → Option TunnelTurn
  | .opening task => some (task.turn answer core)
  | .reader ref task => core.arena[ref]?.map fun session => task.turn answer core ref session
  | .writer ref task => core.arena[ref]?.bind fun session => task.turn answer core ref session
  | .data task => task.turn core
  | .close task => task.turn core
  | .closeAll task => task.turn answer core
  | .nextFrames maxFrames =>
    some ⟨(core.nextFrames maxFrames answer.now).2, [],
      [.drained (core.nextFrames maxFrames answer.now).1]⟩

/-- Whose task it is. -/
inductive TaskKind where
  | opening
  | reader (ref : ℕ)
  | writer (ref : ℕ)
  | data
  | close
  | closeAll
  | nextFrames
  deriving DecidableEq, Repr

def TunnelTask.kind : TunnelTask → TaskKind
  | .opening _ => .opening
  | .reader ref _ => .reader ref
  | .writer ref _ => .writer ref
  | .data _ => .data
  | .close _ => .close
  | .closeAll _ => .closeAll
  | .nextFrames _ => .nextFrames

/-- The session whose reader made the observation. -/
@[simp] def TunnelObservation.reader : TunnelObservation → Option ℕ
  | .read ref _ | .queued ref _ | .refused ref _ => some ref
  | _ => none

/-- The tasks that are left behind are of this kind, and what is seen of a reader is seen by itself.
-/
def TunnelTurn.Stays (kind : TaskKind) (d : TunnelTurn) : Prop :=
  (∀ u ∈ d.tasks, u.kind = kind) ∧ ∀ o ∈ d.trace, ∀ ref, o.reader = some ref → kind = .reader ref

theorem ReaderTask.stays_turn (answer : TunnelAnswer) (core : AsyncTunnelCore) (ref : ℕ)
    (session : AsyncTunnelSession) (task : ReaderTask) :
    (task.turn answer core ref session).Stays (.reader ref) := by
  have hpush : ∀ frame next, (ReaderTask.push answer core ref frame next).Stays (.reader ref) := by
    intro frame next
    unfold ReaderTask.push
    split <;> simp [TunnelTurn.Stays, TunnelTask.kind]
  cases task with
  | read =>
    simp only [ReaderTask.turn]
    split_ifs
    · simp [TunnelTurn.Stays]
    · split <;> simp [TunnelTurn.Stays, TunnelTask.kind]
  | pushData chunk => exact hpush _ _
  | pushClose => exact hpush _ _
  | remove =>
    simp only [ReaderTask.turn]
    split <;> simp [TunnelTurn.Stays, TunnelTask.kind]
  | countBytes _ | uncountActive | uncountRule =>
    simp [ReaderTask.turn, TunnelTurn.Stays, TunnelTask.kind]

theorem WriterTask.stays_turn {answer : TunnelAnswer} {core : AsyncTunnelCore} {ref : ℕ}
    {session : AsyncTunnelSession} {task : WriterTask} {d : TunnelTurn}
    (hturn : task.turn answer core ref session = some d) : d.Stays (.writer ref) := by
  cases task with
  | receive | write =>
    simp only [WriterTask.turn] at hturn
    split at hturn <;> cases hturn <;> simp [TunnelTurn.Stays, TunnelTask.kind]
  | countBytes _ | release _ _ | stop =>
    cases hturn
    simp [TunnelTurn.Stays, TunnelTask.kind]

theorem DataTask.stays_turn {core : AsyncTunnelCore} {task : DataTask} {d : TunnelTurn}
    (hturn : task.turn core = some d) : d.Stays .data := by
  cases task with
  | lookup sessionId payload =>
    simp only [DataTask.turn] at hturn
    split at hturn <;> cases hturn <;> simp [TunnelTurn.Stays, TunnelTask.kind]
  | reserve ref payload | send ref payload =>
    obtain ⟨session, -, rfl⟩ := Option.map_eq_some_iff.mp hturn
    split <;> simp [TunnelTurn.Stays, TunnelTask.kind]
  | release ref payload =>
    cases hturn
    simp [TunnelTurn.Stays]

theorem CloseTask.stays_turn {core : AsyncTunnelCore} {task : CloseTask} {d : TunnelTurn}
    (hturn : task.turn core = some d) : d.Stays .close := by
  cases task with
  | remove sessionId =>
    simp only [CloseTask.turn] at hturn
    split at hturn <;> cases hturn <;> simp [TunnelTurn.Stays, TunnelTask.kind]
  | await sessionId ref =>
    simp only [CloseTask.turn] at hturn
    split_ifs at hturn
    cases hturn
    simp [TunnelTurn.Stays, TunnelTask.kind]
  | removeFrames sessionId ref | uncountActive ref =>
    cases hturn
    simp [TunnelTurn.Stays, TunnelTask.kind]
  | abort sessionId ref | uncountRule ref =>
    obtain ⟨session, -, rfl⟩ := Option.map_eq_some_iff.mp hturn
    simp [TunnelTurn.Stays, TunnelTask.kind]

theorem CloseAllTask.stays_turn {answer : TunnelAnswer} {core : AsyncTunnelCore}
    {task : CloseAllTask} {d : TunnelTurn} (hturn : task.turn answer core = some d) :
    d.Stays .closeAll := by
  cases task with
  | next removed readers =>
    simp only [CloseAllTask.turn] at hturn
    split at hturn
    · cases hturn
      simp [TunnelTurn.Stays, TunnelTask.kind]
    · obtain ⟨session, -, rfl⟩ := Option.map_eq_some_iff.mp hturn
      simp [TunnelTurn.Stays, TunnelTask.kind]
  | await readers =>
    cases readers with
    | nil =>
      cases hturn
      simp [TunnelTurn.Stays]
    | cons ref readers =>
      simp only [CloseAllTask.turn] at hturn
      split_ifs at hturn
      cases hturn
      simp [TunnelTurn.Stays, TunnelTask.kind]
  | uncountRule ref removed readers =>
    obtain ⟨session, -, rfl⟩ := Option.map_eq_some_iff.mp hturn
    simp [TunnelTurn.Stays, TunnelTask.kind]
  | drain | uncountActive ref removed readers =>
    cases hturn
    simp [TunnelTurn.Stays, TunnelTask.kind]

/-- Only a task that opens a session leaves tasks of another kind behind, and what is seen of a
reader is seen in its own turns. -/
theorem TunnelTask.frame_turn {answer : TunnelAnswer} {core : AsyncTunnelCore} {t : TunnelTask}
    {d : TunnelTurn} (hturn : t.turn answer core = some d) (hkind : t.kind ≠ .opening) :
    (∀ u ∈ d.tasks, u.kind = t.kind) ∧
      ∀ o ∈ d.trace, ∀ ref, o.reader = some ref → t.kind = .reader ref := by
  cases t with
  | opening task => exact absurd rfl hkind
  | reader ref task =>
    obtain ⟨session, -, rfl⟩ := Option.map_eq_some_iff.mp hturn
    exact task.stays_turn answer core ref session
  | writer ref task =>
    obtain ⟨session, -, hturn⟩ := Option.bind_eq_some_iff.mp hturn
    exact WriterTask.stays_turn hturn
  | data task => exact DataTask.stays_turn hturn
  | close task => exact CloseTask.stays_turn hturn
  | closeAll task => exact CloseAllTask.stays_turn hturn
  | nextFrames maxFrames =>
    cases hturn
    simp

/-- The task does not rely on the record of a session: it has not inserted its session yet, or is
done with counting and announcing it. -/
def TunnelTask.unbound : TunnelTask → Bool
  | .opening (.countActive _ _) | .opening (.countTotal _ _) | .opening (.countRule _ _)
  | .opening (.announce _ _ _) => false
  | .opening _ | .reader _ .read | .writer _ .receive => true
  | _ => false

/-- What a task that opens a session leaves behind: the next count of the session that it inserted
or counted, or a task that does not rely on the session. -/
theorem OpenTask.mem_tasks_turn {answer : TunnelAnswer} {core : AsyncTunnelCore} {task : OpenTask}
    {u : TunnelTask} (hu : u ∈ (task.turn answer core).tasks) :
    (∃ o, task = .insert o ∧ u = .opening (.countActive o core.arena.length)) ∨
      (∃ o ref, task = .countActive o ref ∧ u = .opening (.countTotal o ref)) ∨
      (∃ o ref, task = .countTotal o ref ∧ u = .opening (.countRule o ref)) ∨
      (∃ o ref, task = .countRule o ref ∧ u = .opening (o.afterCount ref)) ∨ u.unbound = true := by
  cases task with
  | insert o => exact Or.inl ⟨o, rfl, List.mem_singleton.mp hu⟩
  | countActive o ref => exact Or.inr (Or.inl ⟨o, ref, rfl, List.mem_singleton.mp hu⟩)
  | countTotal o ref => exact Or.inr (Or.inr (Or.inl ⟨o, ref, rfl, List.mem_singleton.mp hu⟩))
  | countRule o ref =>
    exact Or.inr (Or.inr (Or.inr (Or.inl ⟨o, ref, rfl, List.mem_singleton.mp hu⟩)))
  | egressCheck | egressDial | ingressCheck | announce =>
    rw [OpenTask.turn] at hu
    split at hu
    · exact absurd hu List.not_mem_nil
    · cases List.mem_singleton.mp hu
      exact Or.inr (Or.inr (Or.inr (Or.inr rfl)))
  | drawId =>
    cases List.mem_singleton.mp hu
    exact Or.inr (Or.inr (Or.inr (Or.inr rfl)))
  | spawnReader | spawnWriter =>
    rcases List.mem_pair.mp hu with rfl | rfl <;> exact Or.inr (Or.inr (Or.inr (Or.inr rfl)))
  | setReader => exact absurd hu List.not_mem_nil

/-- A task that opens a session makes no observation of a reader, and the reader it leaves behind
waits for its first read. -/
theorem OpenTask.frame_turn (answer : TunnelAnswer) (core : AsyncTunnelCore) (task : OpenTask) :
    (∀ o ∈ (task.turn answer core).trace, o.reader = none) ∧
      ∀ u ∈ (task.turn answer core).tasks, ∀ ref, u.kind = .reader ref → u = .reader ref .read := by
  constructor
  · cases task with
    | setReader opening ref => cases opening <;> simp [OpenTask.turn, Opening.done]
    | _ =>
      simp only [OpenTask.turn]
      (try split) <;> simp
  · intro u hu ref hkind
    rcases mem_tasks_turn hu with ⟨o, -, rfl⟩ | ⟨o, r, -, rfl⟩ | ⟨o, r, -, rfl⟩ | ⟨o, r, -, rfl⟩ |
      hunbound
    · cases hkind
    · cases hkind
    · cases hkind
    · cases hkind
    · cases u with
      | reader r task =>
        cases hkind
        cases task with
        | read => rfl
        | _ => cases hunbound
      | _ => cases hkind

/-! ## The system -/

/-- What the server, the listeners and the data session ask of the core. -/
inductive TunnelOp where
  | openEgress (sessionId ruleId : UInt64)
  | accept (payload : TunnelSessionOpenPayload)
  | sessionData (sessionId : UInt64) (payload : List UInt8)
  | closeSession (sessionId : UInt64)
  | closeAllSessions
  | nextFrames (maxFrames : ℕ)
  deriving DecidableEq, Repr

def TunnelOp.task : TunnelOp → TunnelTask
  | .openEgress sessionId ruleId => .opening (.egressCheck sessionId ruleId)
  | .accept payload => .opening (.drawId payload)
  | .sessionData sessionId payload => .data (.lookup sessionId payload)
  | .closeSession sessionId => .close (.remove sessionId)
  | .closeAllSessions => .closeAll .drain
  | .nextFrames maxFrames => .nextFrames maxFrames

def tunnelSystem : System AsyncTunnelCore TunnelTask TunnelObservation TunnelAnswer TunnelOp where
  start := TunnelOp.task
  step := TunnelTask.turn

/-- The core before any operation. -/
def tunnelStart (limits : TunnelRuntimeLimits) :
    Config AsyncTunnelCore TunnelTask TunnelObservation :=
  ⟨.new limits, [], []⟩

/-! ## Uninterrupted operations -/

section Uninterrupted

variable (core : AsyncTunnelCore) (answer : TunnelAnswer)

/-- The first task takes `n` turns. -/
def runFirst (n : ℕ) (c : Config AsyncTunnelCore TunnelTask TunnelObservation) :
    Option (Config AsyncTunnelCore TunnelTask TunnelObservation) :=
  tunnelSystem.run c (List.replicate n (.turn 0 answer))

theorem runFirst_zero (c : Config AsyncTunnelCore TunnelTask TunnelObservation) :
    runFirst answer 0 c = some c := rfl

theorem runFirst_succ (n : ℕ) (task : TunnelTask) (tasks : List TunnelTask)
    (trace : List TunnelObservation) :
    runFirst answer (n + 1) ⟨core, task :: tasks, trace⟩ =
      (task.turn answer core).bind fun d =>
        runFirst answer n ⟨d.shared, d.tasks ++ tasks, trace ++ d.trace⟩ := by
  change ((task.turn answer core).map _).bind _ = _
  rw [Option.bind_map]
  rfl

theorem ReaderTask.exists_push (ref : ℕ) (frame : KtpFrame) (task : ReaderTask) :
    ∃ seen, ReaderTask.push answer core ref frame task =
      ⟨(core.pushFrame frame answer.now).2, [.reader ref task], seen⟩ := by
  unfold ReaderTask.push
  split <;> rename_i h <;> rw [h] <;> exact ⟨_, rfl⟩

/-- The reader and the writer of a session that was opened. -/
def sessionTasks {α : Type} (ref : ℕ) : Except TunnelRuntimeError α → List TunnelTask
  | .ok _ => [.writer ref .receive, .reader ref .read]
  | .error _ => []

/-- **`open_egress_session` without interruption.** -/
theorem run_openEgress (sessionId ruleId : UInt64) (targetHost : String) (targetPort : UInt16)
    (dial : String → TcpDial) (hdial : answer.dial = dial (targetAddress targetHost targetPort)) :
    ∃ n, runFirst answer n ⟨core, [(TunnelOp.openEgress sessionId ruleId).task], []⟩ =
      some ⟨(core.openEgressSession sessionId ruleId targetHost targetPort dial).2,
        sessionTasks core.arena.length
          (core.openEgressSession sessionId ruleId targetHost targetPort dial).1,
        [.opened (core.openEgressSession sessionId ruleId targetHost targetPort dial).1]⟩ := by
  unfold openEgressSession
  rw [← hdial]
  cases hcapacity : core.ensureAgentSessionCapacity with
  | error error =>
    refine ⟨1, ?_⟩
    rw [TunnelOp.task, runFirst_succ]
    simp only [TunnelTask.turn, OpenTask.turn, hcapacity]
    rfl
  | ok _ =>
    cases hresult : dialResult answer.dial with
    | error error =>
      refine ⟨2, ?_⟩
      rw [TunnelOp.task, runFirst_succ]
      simp only [TunnelTask.turn, OpenTask.turn, hcapacity, Option.bind_some, List.cons_append,
        runFirst_succ, hresult]
      rfl
    | ok _ =>
      refine ⟨9, ?_⟩
      rw [TunnelOp.task, runFirst_succ]
      simp only [TunnelTask.turn, OpenTask.turn, hcapacity, Option.bind_some, List.cons_append,
        runFirst_succ, hresult]
      rfl

/-- **A turn of the accept loop without interruption.** -/
theorem run_accept (payload : TunnelSessionOpenPayload) :
    ∃ n result, runFirst answer n ⟨core, [(TunnelOp.accept payload).task], []⟩ =
        some ⟨core.acceptIngress payload answer.now, sessionTasks core.arena.length result,
          [.attached result]⟩ ∧
      result = (attachIngressStream { core with nextSessionId := core.nextSessionId + 1 }
        core.nextSessionId payload answer.now).1 := by
  unfold acceptIngress
  simp only
  generalize hdrawn : { core with nextSessionId := core.nextSessionId + 1 } = drawn
  have hlen : core.arena.length = drawn.arena.length := by rw [← hdrawn]
  rw [hlen]
  unfold attachIngressStream
  cases hcapacity : drawn.ensureAgentSessionCapacity with
  | error error =>
    refine ⟨2, _, ?_, rfl⟩
    rw [TunnelOp.task, runFirst_succ]
    simp only [TunnelTask.turn, OpenTask.turn, Option.bind_some, List.cons_append, runFirst_succ,
      hdrawn, hcapacity]
    rfl
  | ok _ =>
    simp only
    -- the three counters together are `sessionOpened`
    have hcount : ((((drawn.insertSession core.nextSessionId payload.ruleId .ingress).updateStats
        (·.countActive)).updateStats (·.countTotal)).updateStats (·.countRule payload.ruleId)) =
          (drawn.insertSession core.nextSessionId payload.ruleId .ingress).updateStats
            (·.sessionOpened payload.ruleId) := rfl
    rcases hannounce : ((drawn.insertSession core.nextSessionId payload.ruleId .ingress).updateStats
      (·.sessionOpened payload.ruleId)).announce core.nextSessionId payload answer.now with
      ⟨error | _, announced⟩
    · refine ⟨7, _, ?_, rfl⟩
      rw [TunnelOp.task, runFirst_succ]
      simp only [TunnelTask.turn, OpenTask.turn, Option.bind_some, List.cons_append, runFirst_succ,
        hdrawn, hcapacity, Opening.afterCount, Opening.sessionId, Opening.ruleId, Opening.leg,
        hcount, hannounce]
      rfl
    · refine ⟨10, _, ?_, rfl⟩
      rw [TunnelOp.task, runFirst_succ]
      simp only [TunnelTask.turn, OpenTask.turn, Option.bind_some, List.cons_append, runFirst_succ,
        hdrawn, hcapacity, Opening.afterCount, Opening.sessionId, Opening.ruleId, Opening.leg,
        hcount, hannounce]
      rfl

/-- **`handle_session_data` without interruption.** -/
theorem run_sessionData (hwf : core.directory.Wf) (sessionId : UInt64) (leg : FrameLeg)
    (payload : List UInt8) :
    ∃ n, runFirst answer n ⟨core, [(TunnelOp.sessionData sessionId payload).task], []⟩ =
      some ⟨(core.handleSessionData sessionId leg payload).2, [],
        [.dataHandled (core.handleSessionData sessionId leg payload).1]⟩ := by
  unfold handleSessionData
  cases hlookup : core.sessions.lookup sessionId with
  | none =>
    refine ⟨1, ?_⟩
    rw [TunnelOp.task, runFirst_succ]
    simp only [TunnelTask.turn, DataTask.turn, hlookup]
    rfl
  | some ref =>
    obtain ⟨session, hs, -⟩ := exists_session_of_lookup hwf hlookup
    simp only [hs, sendToSession]
    cases hreserve : session.reservePendingBytes payload.length
      core.limits.maxSessionPendingBytes with
    | error error =>
      refine ⟨2, ?_⟩
      rw [TunnelOp.task, runFirst_succ]
      simp only [TunnelTask.turn, DataTask.turn, hlookup, Option.bind_some, List.cons_append,
        runFirst_succ, hs, Option.map_some, hreserve]
      rfl
    | ok reserved =>
      have hreserved : (core.modifySession ref fun _ => reserved).arena[ref]? = some reserved :=
        getElem?_modifySession_self hs _
      cases hsend : reserved.trySend payload with
      | some sent =>
        refine ⟨3, ?_⟩
        rw [TunnelOp.task, runFirst_succ]
        simp only [TunnelTask.turn, DataTask.turn, hlookup, Option.bind_some, List.cons_append,
          runFirst_succ, hs, Option.map_some, hreserve, hreserved, hsend,
          modifySession_modifySession]
        rfl
      | none =>
        refine ⟨4, ?_⟩
        rw [TunnelOp.task, runFirst_succ]
        simp only [TunnelTask.turn, DataTask.turn, hlookup, Option.bind_some, List.cons_append,
          runFirst_succ, hs, Option.map_some, hreserve, hreserved, hsend,
          modifySession_modifySession]
        rfl

/-- The end of a reader without interruption. -/
theorem run_endReader {ref : ℕ} {session : AsyncTunnelSession}
    (hs : core.arena[ref]? = some session) (trace : List TunnelObservation) :
    ∃ n, runFirst answer n ⟨core, [.reader ref .remove], trace⟩ =
      some ⟨core.endReader ref session, [], trace⟩ := by
  unfold endReader
  cases hlookup : core.sessions.lookup session.sessionId with
  | none =>
    refine ⟨1, ?_⟩
    rw [runFirst_succ]
    simp [TunnelTask.turn, ReaderTask.turn, hs, hlookup, eraseSession_of_none hlookup,
      runFirst_zero]
  | some ref' =>
    refine ⟨3, ?_⟩
    rw [runFirst_succ]
    simp only [TunnelTask.turn, ReaderTask.turn, hs, Option.map_some, hlookup, Option.bind_some,
      runFirst_succ, List.cons_append, arena_eraseSession, arena_updateStats]
    simp only [List.append_nil, runFirst_zero]
    rfl

/-- **A turn of the loop of a reader without interruption.** -/
theorem run_sessionReader {ref : ℕ} {session : AsyncTunnelSession}
    (hs : core.arena[ref]? = some session) (hrunning : session.readerStatus = .running)
    (haborted : session.readerAborted = false) :
    ∃ n trace, runFirst answer n ⟨core, [.reader ref .read], []⟩ =
      some ⟨core.sessionReader ref answer.read answer.now,
        if core.ReaderEnds ref answer.read then [] else [.reader ref .read], trace⟩ := by
  have hends : core.ReaderEnds ref answer.read ↔ answer.read.Ends core.limits.tcpReadChunkSize := by
    simp [ReaderEnds, hs, hrunning]
  simp only [sessionReader, hs, hrunning, if_true, hends, TcpRead.Ends]
  rcases hchunk : answer.read.chunk core.limits.tcpReadChunkSize with _ | _ | ⟨byte, bytes⟩
  · obtain ⟨n, hn⟩ := run_endReader core answer hs []
    refine ⟨n + 1, [], ?_⟩
    have hread : (TunnelTask.reader ref .read).turn answer core =
        some ⟨core, [.reader ref .remove], []⟩ := by
      simp [TunnelTask.turn, ReaderTask.turn, hs, haborted, hchunk]
    rw [runFirst_succ, hread]
    exact hn
  · obtain ⟨seen, hpush⟩ := ReaderTask.exists_push core answer ref
      (closeFrame session.leg session.sessionId) .remove
    obtain ⟨n, hn⟩ := run_endReader
      (core.pushFrame (closeFrame session.leg session.sessionId) answer.now).2 answer hs seen
    refine ⟨n + 2, seen, ?_⟩
    have hread : (TunnelTask.reader ref .read).turn answer core =
        some ⟨core, [.reader ref .pushClose], []⟩ := by
      simp [TunnelTask.turn, ReaderTask.turn, hs, haborted, hchunk]
    have hclose : (TunnelTask.reader ref .pushClose).turn answer core =
        some ⟨(core.pushFrame (closeFrame session.leg session.sessionId) answer.now).2,
          [.reader ref .remove], seen⟩ := by
      simp [TunnelTask.turn, ReaderTask.turn, hs, hpush]
    rw [runFirst_succ, hread, Option.bind_some]
    simp only [List.cons_append, List.nil_append]
    rw [runFirst_succ, hclose]
    exact hn
  · obtain ⟨seen, hpush⟩ := ReaderTask.exists_push
      (core.updateStats (·.countBytesOut (byte :: bytes).length)) answer ref
      (dataFrame session.leg session.sessionId (byte :: bytes)) .read
    refine ⟨3, .read ref (byte :: bytes) :: seen, ?_⟩
    have hread : (TunnelTask.reader ref .read).turn answer core =
        some ⟨core, [.reader ref (.countBytes (byte :: bytes))], [.read ref (byte :: bytes)]⟩ := by
      simp [TunnelTask.turn, ReaderTask.turn, hs, haborted, hchunk]
    rw [runFirst_succ, hread, Option.bind_some]
    simp only [TunnelTask.turn, ReaderTask.turn, hs, Option.map_some, Option.bind_some,
      List.cons_append, List.nil_append, runFirst_succ, arena_updateStats, hpush]
    simp [runFirst_zero]

/-- **`close_session` without interruption**, but for the reader that it aborts and awaits. -/
theorem run_closeSession {sessionId : UInt64} {ref : ℕ} {session : AsyncTunnelSession}
    (hlookup : core.sessions.lookup sessionId = some ref) (hs : core.arena[ref]? = some session)
    (hhandle : session.readerHandle = true) :
    tunnelSystem.run ⟨core, [(TunnelOp.closeSession sessionId).task, .reader ref .read], []⟩
        [.turn 0 answer, .turn 0 answer, .turn 1 answer, .turn 0 answer, .turn 0 answer,
          .turn 0 answer, .turn 0 answer] =
      some ⟨(core.closeSession sessionId).2, [], [.closed (core.closeSession sessionId).1]⟩ := by
  have herased : (core.eraseSession sessionId).arena[ref]? = some session := hs
  have haborted : ((core.eraseSession sessionId).abortReader ref).arena[ref]? =
      some { session with readerHandle := false, readerAborted := true } := by
    rw [abortReader, getElem?_modifySession_self herased]
    simp [hhandle]
  have hfinished : (((core.eraseSession sessionId).abortReader ref).finishReader ref).arena[ref]? =
      some session.stopped := by
    rw [finishReader, getElem?_modifySession_self haborted, AsyncTunnelSession.stopped,
      if_pos hhandle]
  have hstatus : session.stopped.readerStatus = .finished ∧
      session.stopped.ruleId = session.ruleId := by
    simp [AsyncTunnelSession.stopped, hhandle]
  have hremove : CloseTask.turn core (.remove sessionId) =
      some ⟨core.eraseSession sessionId, [.close (.abort sessionId ref)], []⟩ := by
    simp [CloseTask.turn, hlookup]
  have habort : CloseTask.turn (core.eraseSession sessionId) (.abort sessionId ref) =
      some ⟨(core.eraseSession sessionId).abortReader ref, [.close (.await sessionId ref)], []⟩ := by
    simp [CloseTask.turn, hs, hhandle]
  have hread : TunnelTask.turn answer ((core.eraseSession sessionId).abortReader ref)
      (.reader ref .read) =
        some ⟨((core.eraseSession sessionId).abortReader ref).finishReader ref, [], []⟩ := by
    simp [TunnelTask.turn, ReaderTask.turn, haborted]
  have hawait : CloseTask.turn (((core.eraseSession sessionId).abortReader ref).finishReader ref)
      (.await sessionId ref) =
        some ⟨((core.eraseSession sessionId).abortReader ref).finishReader ref,
          [.close (.removeFrames sessionId ref)], []⟩ := by
    simp [CloseTask.turn, hfinished, hstatus]
  have hclose : core.closeSession sessionId =
      (.ok (), (((((core.eraseSession sessionId).abortReader ref).finishReader
        ref).removeSessionFrames sessionId).updateStats (·.sessionClosed session.ruleId))) := by
    simp [closeSession, hlookup, hs, stopReader, hhandle]
  have hrule : CloseTask.turn (((((core.eraseSession sessionId).abortReader ref).finishReader
      ref).removeSessionFrames sessionId).updateStats (·.uncountActive)) (.uncountRule ref) =
        some ⟨(((((core.eraseSession sessionId).abortReader ref).finishReader
          ref).removeSessionFrames sessionId).updateStats (·.uncountActive)).updateStats
            (·.uncountRule session.ruleId), [], [.closed (.ok ())]⟩ := by
    simp [CloseTask.turn, hfinished, hstatus]
  rw [System.run_turn _ rfl hremove, System.run_turn _ rfl habort, System.run_turn _ rfl hread,
    System.run_turn _ rfl hawait, System.run_turn _ rfl rfl, System.run_turn _ rfl rfl,
    System.run_turn _ rfl hrule, hclose]
  rfl

end Uninterrupted
end KeliAgent
