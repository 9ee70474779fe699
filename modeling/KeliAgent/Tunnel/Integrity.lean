import KeliAgent.Tunnel.Accounting

/-!
# The byte stream of a session

The reader of a session reads chunks from its TCP stream and queues them for the data session, in a
bounded queue that it shares with all other sessions. It ignores whether a chunk was refused.

* `readBytes`, `queuedBytes`: what was read from the stream of a session, and what of it entered
  the queue.
* **`queued_isPrefix_read`**: whatever the other tasks do, if each chunk of the session finds room
  in the queue, then what was queued is a prefix of what was read.
* `refused_chunk_leaves_hole`: a chunk that meets a full queue is lost and the next one is queued.
-/

namespace KeliAgent

open Interleave AsyncTunnelCore

/-! ## Observations of a reader -/

def TunnelObservation.readBytes (ref : ℕ) : TunnelObservation → List UInt8
  | .read r chunk => if r = ref then chunk else []
  | _ => []

def TunnelObservation.queuedBytes (ref : ℕ) : TunnelObservation → List UInt8
  | .queued r frame => if r = ref ∧ frame.frameType = .sessionData then frame.payload else []
  | _ => []

/-- What was read from the stream of the session. -/
def readBytes (ref : ℕ) (trace : List TunnelObservation) : List UInt8 :=
  trace.flatMap (·.readBytes ref)

/-- The payloads of the session data that entered the queue. -/
def queuedBytes (ref : ℕ) (trace : List TunnelObservation) : List UInt8 :=
  trace.flatMap (·.queuedBytes ref)

@[simp] theorem readBytes_append (ref : ℕ) (tr tr' : List TunnelObservation) :
    readBytes ref (tr ++ tr') = readBytes ref tr ++ readBytes ref tr' := by
  simp [readBytes]

@[simp] theorem queuedBytes_append (ref : ℕ) (tr tr' : List TunnelObservation) :
    queuedBytes ref (tr ++ tr') = queuedBytes ref tr ++ queuedBytes ref tr' := by
  simp [queuedBytes]

/-- Observations of others add nothing to the stream of a session. -/
theorem TunnelObservation.bytes_of_other {ref : ℕ} {o : TunnelObservation}
    (h : o.reader ≠ some ref) : o.readBytes ref = [] ∧ o.queuedBytes ref = [] := by
  cases o with
  | read r chunk =>
    have hne : r ≠ ref := fun heq => h (congrArg some heq)
    exact ⟨if_neg hne, rfl⟩
  | queued r frame =>
    have hne : r ≠ ref := fun heq => h (congrArg some heq)
    exact ⟨rfl, if_neg fun hand => hne hand.1⟩
  | _ => exact ⟨rfl, rfl⟩

theorem bytes_of_others {ref : ℕ} {trace : List TunnelObservation}
    (h : ∀ o ∈ trace, o.reader ≠ some ref) :
    readBytes ref trace = [] ∧ queuedBytes ref trace = [] :=
  ⟨List.flatMap_eq_nil_iff.mpr fun o ho => (TunnelObservation.bytes_of_other (h o ho)).1,
    List.flatMap_eq_nil_iff.mpr fun o ho => (TunnelObservation.bytes_of_other (h o ho)).2⟩

/-- A push of a reader: the frame enters the queue if there is room, and is lost otherwise. -/
theorem ReaderTask.push_cases (answer : TunnelAnswer) (core : AsyncTunnelCore) (ref : ℕ)
    (frame : KtpFrame) (task : ReaderTask) :
    (core.outbound.capacity ≤ core.outbound.frames.length ∧
      (ReaderTask.push answer core ref frame task).tasks = [.reader ref task] ∧
      (ReaderTask.push answer core ref frame task).trace = [.refused ref frame]) ∨
    (core.outbound.frames.length < core.outbound.capacity ∧
      (ReaderTask.push answer core ref frame task).tasks = [.reader ref task] ∧
      (ReaderTask.push answer core ref frame task).trace = [.queued ref frame]) := by
  rcases core.outbound.tryPush_cases frame answer.now with ⟨hfull, hpush⟩ | ⟨hroom, hpush⟩
  · refine Or.inl ⟨hfull, ?_⟩
    simp [ReaderTask.push, pushFrame, hpush]
  · refine Or.inr ⟨hroom, ?_⟩
    simp [ReaderTask.push, pushFrame, hpush]

/-! ## One reader for a session -/

/-- The chunk of the session that the task has read and not yet queued. -/
def TunnelTask.held (ref : ℕ) : TunnelTask → Option (List UInt8)
  | .reader r (.countBytes chunk) | .reader r (.pushData chunk) => if r = ref then some chunk else none
  | _ => none

/-- The chunk of the session that the task is about to queue. -/
def TunnelTask.pushing (ref : ℕ) : TunnelTask → Option (List UInt8)
  | .reader r (.pushData chunk) => if r = ref then some chunk else none
  | _ => none

theorem TunnelTask.held_of_kind {ref : ℕ} {t : TunnelTask} (h : t.kind ≠ .reader ref) :
    t.held ref = none := by
  cases t with
  | reader r task =>
    have hr : r ≠ ref := fun he => h (congrArg TaskKind.reader he)
    cases task <;> simp [held, hr]
  | _ => rfl

/-! ## The stream -/

/-- A chunk of the session that is about to be queued finds room. -/
def DataPushFits (ref : ℕ) (core : AsyncTunnelCore) (t : TunnelTask) (_ : List TunnelTask)
    (_ : TunnelAnswer) : Prop :=
  ∀ _chunk ∈ t.pushing ref, core.outbound.frames.length < core.outbound.capacity

instance (ref : ℕ) (core : AsyncTunnelCore) (t : TunnelTask) (rest : List TunnelTask)
    (answer : TunnelAnswer) : Decidable (DataPushFits ref core t rest answer) :=
  inferInstanceAs (Decidable
    (∀ _chunk ∈ t.pushing ref, core.outbound.frames.length < core.outbound.capacity))

/-- The chunks of the session that were read and not yet queued. -/
def heldChunks (ref : ℕ) (tasks : List TunnelTask) : List (List UInt8) :=
  tasks.filterMap (·.held ref)

@[simp] theorem heldChunks_append (ref : ℕ) (ts us : List TunnelTask) :
    heldChunks ref (ts ++ us) = heldChunks ref ts ++ heldChunks ref us :=
  List.filterMap_append

theorem heldChunks_of_kind {ref : ℕ} {tasks : List TunnelTask}
    (h : ∀ t ∈ tasks, t.kind ≠ .reader ref) : heldChunks ref tasks = [] :=
  List.filterMap_eq_nil_iff.mpr fun t ht => TunnelTask.held_of_kind (h t ht)

/-- The turn loses nothing of the session: what the task held and what it read is what it queued and
what is held then. -/
structure StreamMove (ref : ℕ) (t : TunnelTask) (d : TunnelTurn) : Prop where
  stream : (heldChunks ref [t]).flatten ++ readBytes ref d.trace =
    queuedBytes ref d.trace ++ (heldChunks ref d.tasks).flatten
  length_le : (heldChunks ref d.tasks).length ≤ 1
  accepted : ∀ frame, .refused ref frame ∈ d.trace → frame.frameType ≠ .sessionData

/-- A turn that neither reads nor queues data of the session. -/
theorem streamMove_quiet {ref : ℕ} {t : TunnelTask} {d : TunnelTurn}
    (hread : readBytes ref d.trace = []) (hqueued : queuedBytes ref d.trace = [])
    (hheld : heldChunks ref d.tasks = heldChunks ref [t])
    (haccepted : ∀ frame, .refused ref frame ∈ d.trace → frame.frameType ≠ .sessionData) :
    StreamMove ref t d where
  stream := by rw [hread, hqueued, hheld, List.append_nil, List.nil_append]
  length_le := by
    rw [hheld]
    exact List.length_filterMap_le _ _
  accepted := haccepted

/-- **A turn of the reader loses nothing.** -/
theorem ReaderTask.streamMove {ref : ℕ} {core : AsyncTunnelCore} {answer : TunnelAnswer}
    {task : ReaderTask} {rest : List TunnelTask}
    (hfits : DataPushFits ref core (.reader ref task) rest answer) (session : AsyncTunnelSession) :
    StreamMove ref (.reader ref task) (task.turn answer core ref session) := by
  have hnone : ∀ frame, TunnelObservation.refused ref frame ∈ [] →
      frame.frameType ≠ .sessionData := fun _ h => absurd h List.not_mem_nil
  cases task with
  | read =>
    simp only [ReaderTask.turn]
    split_ifs
    · exact streamMove_quiet rfl rfl rfl hnone
    · split
      · exact streamMove_quiet rfl rfl rfl hnone
      · exact streamMove_quiet rfl rfl rfl hnone
      · -- the chunk that was read is held
        refine ⟨?_, ?_, by simp⟩ <;>
          simp [heldChunks, TunnelTask.held, readBytes, queuedBytes, TunnelObservation.readBytes,
            TunnelObservation.queuedBytes]
  | pushData chunk =>
    have hroom : core.outbound.frames.length < core.outbound.capacity :=
      hfits chunk (by simp [TunnelTask.pushing])
    rcases ReaderTask.push_cases answer core ref
      (dataFrame session.leg session.sessionId chunk) .read with ⟨hfull, -⟩ | ⟨-, htasks, htrace⟩
    · exact absurd hfull (not_le.mpr hroom)
    · -- the chunk that was held is queued
      refine ⟨?_, ?_, ?_⟩ <;> simp only [ReaderTask.turn, htasks, htrace] <;>
        simp [heldChunks, TunnelTask.held, readBytes, queuedBytes, TunnelObservation.readBytes,
          TunnelObservation.queuedBytes, dataFrame]
  | pushClose =>
    rcases ReaderTask.push_cases answer core ref
      (closeFrame session.leg session.sessionId) .remove with
      ⟨-, htasks, htrace⟩ | ⟨-, htasks, htrace⟩ <;>
    · refine streamMove_quiet ?_ ?_ ?_ ?_ <;> simp only [ReaderTask.turn, htasks, htrace] <;>
        simp [heldChunks, TunnelTask.held, readBytes, queuedBytes, TunnelObservation.readBytes,
          TunnelObservation.queuedBytes, closeFrame]
  | remove =>
    simp only [ReaderTask.turn]
    split
    · exact streamMove_quiet rfl rfl rfl hnone
    · exact streamMove_quiet rfl rfl rfl hnone
  | countBytes chunk => exact streamMove_quiet rfl rfl rfl hnone
  | uncountActive | uncountRule => exact streamMove_quiet rfl rfl rfl hnone

/-- What was read is what was queued and the chunk that the reader holds, and no chunk was
refused. -/
structure Intact (ref : ℕ) (core : AsyncTunnelCore) (tasks : List TunnelTask)
    (trace : List TunnelObservation) : Prop where
  one : OneReader core tasks
  length_le : (heldChunks ref tasks).length ≤ 1
  stream : readBytes ref trace = queuedBytes ref trace ++ (heldChunks ref tasks).flatten
  accepted : ∀ frame, .refused ref frame ∈ trace → frame.frameType ≠ .sessionData

namespace Intact

variable {ref : ℕ} {core : AsyncTunnelCore} {t : TunnelTask} {tasks rest : List TunnelTask}
  {trace : List TunnelObservation}

theorem perm {tasks' : List TunnelTask} (hperm : tasks.Perm tasks')
    (h : Intact ref core tasks trace) : Intact ref core tasks' trace := by
  have hchunks : (heldChunks ref tasks).Perm (heldChunks ref tasks') := hperm.filterMap _
  -- at most one chunk has only one order
  have heq : heldChunks ref tasks = heldChunks ref tasks' := by
    rcases Nat.le_one_iff_eq_zero_or_eq_one.mp h.length_le with hzero | hone
    · rw [List.length_eq_zero_iff] at hzero
      rw [hzero] at hchunks ⊢
      exact hchunks.nil_eq
    · obtain ⟨chunk, hchunk⟩ := List.length_eq_one_iff.mp hone
      rw [hchunk] at hchunks ⊢
      exact (List.singleton_perm.mp hchunks)
  exact ⟨h.one.perm hperm, heq ▸ h.length_le, heq ▸ h.stream, h.accepted⟩

theorem start (op : TunnelOp) (h : Intact ref core tasks trace) :
    Intact ref core (op.task :: tasks) trace := by
  have hop : heldChunks ref (op.task :: tasks) = heldChunks ref tasks := by
    cases op <;> rfl
  exact ⟨h.one.start op, hop ▸ h.length_le, hop ▸ h.stream, h.accepted⟩

/-- A turn of another task than the reader of the session. -/
theorem turn_other (h : Intact ref core (t :: rest) trace) {answer : TunnelAnswer} {d : TunnelTurn}
    (hturn : t.turn answer core = some d) (hkind : t.kind ≠ .reader ref) :
    Intact ref d.shared (d.tasks ++ rest) (trace ++ d.trace) := by
  have hframe : (∀ o ∈ d.trace, o.reader ≠ some ref) ∧ heldChunks ref d.tasks = [] := by
    by_cases hopen : t.kind = .opening
    · cases t with
      | opening task =>
        cases hturn
        obtain ⟨htrace, htasks⟩ := task.frame_turn answer core
        refine ⟨fun o ho he => ?_, List.filterMap_eq_nil_iff.mpr fun u hu => ?_⟩
        · rw [htrace o ho] at he
          cases he
        · by_cases hu' : u.kind = .reader ref
          · rw [htasks u hu ref hu']
            rfl
          · exact TunnelTask.held_of_kind hu'
      | _ => cases hopen
    · obtain ⟨htasks, htrace⟩ := TunnelTask.frame_turn hturn hopen
      refine ⟨fun o ho he => hkind (htrace o ho ref he), heldChunks_of_kind fun u hu => ?_⟩
      rw [htasks u hu]
      exact hkind
  have hsame : heldChunks ref (d.tasks ++ rest) = heldChunks ref (t :: rest) := by
    rw [heldChunks_append, hframe.2]
    simp [heldChunks, TunnelTask.held_of_kind hkind]
  obtain ⟨hread, hqueued⟩ := bytes_of_others hframe.1
  refine ⟨h.one.turn hturn, hsame ▸ h.length_le, ?_, ?_⟩
  · rw [readBytes_append, queuedBytes_append, hread, hqueued, hsame, List.append_nil,
      List.append_nil]
    exact h.stream
  · intro frame hmem
    rcases List.mem_append.mp hmem with hmem | hmem
    · exact h.accepted frame hmem
    · exact absurd rfl (hframe.1 _ hmem)

theorem turn_reader {task : ReaderTask} (h : Intact ref core (.reader ref task :: rest) trace)
    {answer : TunnelAnswer} (hfits : DataPushFits ref core (.reader ref task) rest answer)
    {d : TunnelTurn} (hturn : (TunnelTask.reader ref task).turn answer core = some d) :
    Intact ref d.shared (d.tasks ++ rest) (trace ++ d.trace) := by
  have hone := h.one.turn hturn
  have hrest : heldChunks ref rest = [] := heldChunks_of_kind (h.one.kind_ne rfl)
  obtain ⟨session, -, rfl⟩ := Option.map_eq_some_iff.mp hturn
  obtain ⟨hstream, hlength, haccepted⟩ := ReaderTask.streamMove hfits session
  have hbefore : readBytes ref trace =
      queuedBytes ref trace ++ (heldChunks ref [.reader ref task]).flatten := by
    have := h.stream
    rwa [← List.singleton_append, heldChunks_append, hrest, List.append_nil] at this
  refine ⟨hone, ?_, ?_, ?_⟩
  · rw [heldChunks_append, hrest, List.append_nil]
    exact hlength
  · rw [readBytes_append, queuedBytes_append, heldChunks_append, hrest, List.append_nil, hbefore,
      List.append_assoc, hstream, List.append_assoc]
  · intro frame hmem
    rcases List.mem_append.mp hmem with hmem | hmem
    · exact h.accepted frame hmem
    · exact haccepted frame hmem

theorem turn (h : Intact ref core (t :: rest) trace) {answer : TunnelAnswer}
    (hfits : DataPushFits ref core t rest answer) {d : TunnelTurn}
    (hturn : t.turn answer core = some d) :
    Intact ref d.shared (d.tasks ++ rest) (trace ++ d.trace) := by
  by_cases hkind : t.kind = .reader ref
  · cases t with
    | reader r task =>
      cases hkind
      exact h.turn_reader hfits hturn
    | _ => cases hkind
  · exact h.turn_other hturn hkind

end Intact

/-- **The byte stream of a session is intact.** In every run in which each chunk of the session
finds room in the queue, whatever is done to the other sessions and whenever the queue is drained,
what was queued is a prefix of what was read, and no chunk was refused. -/
theorem queued_isPrefix_read (limits : TunnelRuntimeLimits) (ref : ℕ)
    {actions : List (Action TunnelAnswer TunnelOp)}
    {c : Config AsyncTunnelCore TunnelTask TunnelObservation}
    (halong : tunnelSystem.Along (DataPushFits ref) (tunnelStart limits) actions)
    (hrun : tunnelSystem.run (tunnelStart limits) actions = some c) :
    queuedBytes ref c.trace <+: readBytes ref c.trace ∧
      ∀ frame, .refused ref frame ∈ c.trace → frame.frameType ≠ .sessionData := by
  have hstart : Intact ref (tunnelStart limits).shared (tunnelStart limits).tasks
      (tunnelStart limits).trace :=
    ⟨OneReader.empty limits, Nat.zero_le _, rfl, fun _ h => absurd h List.not_mem_nil⟩
  have h := @System.inv_run _ _ _ _ _ tunnelSystem (DataPushFits ref) (Intact ref)
    (fun hperm h => h.perm hperm) (fun op h => h.start op)
    (fun h hfits hturn => h.turn hfits hturn) _ _ _ hstart halong hrun
  refine ⟨?_, h.accepted⟩
  rw [h.stream]
  exact List.prefix_append _ _

/-! ### A full queue -/

/-- The reader at a position, and then the first task, reads a byte and pushes it. -/
def readOne (position : ℕ) (byte : UInt8) : List (Action TunnelAnswer TunnelOp) :=
  [.turn position (oneByte byte), .turn 0 (oneByte byte), .turn 0 (oneByte byte)]

/-- A queue for one frame. -/
def smallQueue : TunnelRuntimeLimits := { TunnelRuntimeLimits.default with maxOutboundFrames := 1 }

/-- The queue is drained in time. -/
theorem queued_isPrefix_read_drained :
    tunnelSystem.Along (DataPushFits 0) (tunnelStart smallQueue)
      (openFirst 1 ++ readOne 1 97 ++ [.start (.nextFrames 8), .turn 0 (oneByte 0)] ++
        readOne 0 98) ∧
    ∃ c, tunnelSystem.run (tunnelStart smallQueue)
        (openFirst 1 ++ readOne 1 97 ++ [.start (.nextFrames 8), .turn 0 (oneByte 0)] ++
          readOne 0 98) = some c ∧
      queuedBytes 0 c.trace = [97, 98] ∧ queuedBytes 0 c.trace <+: readBytes 0 c.trace := by
  have halong : tunnelSystem.Along (DataPushFits 0) (tunnelStart smallQueue)
      (openFirst 1 ++ readOne 1 97 ++ [.start (.nextFrames 8), .turn 0 (oneByte 0)] ++
        readOne 0 98) := by decide +kernel
  exact ⟨halong, _, rfl, by decide +kernel, (queued_isPrefix_read smallQueue 0 halong rfl).1⟩

/-- The second byte meets a full queue, which is then drained: the third byte follows the first one,
and the session stays open. -/
theorem refused_chunk_leaves_hole :
    ∃ c, tunnelSystem.run (tunnelStart smallQueue)
        (openFirst 1 ++ readOne 1 97 ++ readOne 0 98 ++
          [.start (.nextFrames 8), .turn 0 (oneByte 0)] ++ readOne 0 99) = some c ∧
      readBytes 0 c.trace = [97, 98, 99] ∧ queuedBytes 0 c.trace = [97, 99] ∧
      ¬ queuedBytes 0 c.trace <+: readBytes 0 c.trace ∧ c.shared.sessions.lookup 1 = some 0 := by
  refine ⟨_, rfl, ?_, ?_, ?_, ?_⟩ <;> decide +kernel

end KeliAgent
