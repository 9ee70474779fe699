import KeliAgent.Lib.Condvar
import KeliAgent.Lib.Interleave
import KeliAgent.Tunnel.Queue

/-!
# Waiting for frames

The outbound queue with its condition variable, and `TunnelFrameReadyNotifier`
(`tunnel_async_runtime.rs`). A push gives the lock back before it notifies, so that pushes, drains
that wait and observers of the notifier interleave between these accesses. A wait may end early, at
its timeout or for no reason.

* `FrameQueueTask.turn`: the accesses of all operations; `frameQueueSystem`.
* `QueueMove`: what one access does; `FrameQueueTask.move`.
* **`no_lost_wakeup`**: if nobody can go on without a timeout, then nobody sleeps while a frame is
  in the queue, neither in `drain_after_wait` nor in `wait_for_change`.
-/

namespace KeliAgent

open Interleave

/-- What the operations share. Without a notifier there is no generation to observe. -/
structure SharedFrameQueue where
  queue : AsyncTunnelFrameQueue
  stats : TunnelRuntimeStats
  ready : Condvar
  sharedReady : Bool
  generation : UInt64

def SharedFrameQueue.new (capacity : ℕ) (sharedReady : Bool) : SharedFrameQueue :=
  ⟨.new capacity, .default, .empty, sharedReady, 0⟩

/-- `saturating_add(1)`. -/
def saturatingSucc (generation : UInt64) : UInt64 :=
  if generation.toNat + 1 < 2 ^ 64 then generation + 1 else generation

/-- What the environment decides: the time, whether a sleeping thread wakes early, and whether the
time of a wait is up. -/
structure WaitAnswer where
  now : ℕ
  early : Bool
  elapsed : Bool

/-- What an operation is about to do. An observer takes the generation, looks into the queue and
waits for a change if it is empty. -/
inductive FrameQueueTask where
  | tryPush (frame : KtpFrame)
  | notifyOne
  | notifyShared
  | drainAfterWait (maxFrames timeout : ℕ)
  | asleep (maxFrames : ℕ+)
  | awake (maxFrames : ℕ+)
  | drain (maxFrames : ℕ)
  | pop
  | clear
  | removeSessionFrames (sessionId : UInt64)
  | observe (maxFrames : ℕ+) (timeout : ℕ)
  | look (observed : UInt64) (maxFrames : ℕ+) (timeout : ℕ)
  | waitForChange (observed : UInt64) (timeout : ℕ)
  | watching (observed : UInt64)
  | changed (observed : UInt64)
  deriving DecidableEq

inductive FrameQueueObservation where
  | pushed (result : Except TunnelRuntimeError Unit)
  | drained (frames : List KtpFrame)
  | popped (frame : Option KtpFrame)
  | discarded (count : ℕ)
  | generation (generation : UInt64)

abbrev FrameQueueTurn := Config SharedFrameQueue FrameQueueTask FrameQueueObservation

namespace FrameQueueTask

/-- The drain after the wait, under the lock. -/
def drainNow (s : SharedFrameQueue) (maxFrames now : ℕ) : FrameQueueTurn :=
  let (frames, queue, stats) := s.queue.drain s.stats maxFrames now
  ⟨{ s with queue, stats }, [], [.drained frames]⟩

def turn (answer : WaitAnswer) (s : SharedFrameQueue) : FrameQueueTask → Option FrameQueueTurn
  | .tryPush frame =>
    match s.queue.tryPush frame answer.now with
    | (.error error, queue) => some ⟨{ s with queue }, [], [.pushed (.error error)]⟩
    | (.ok (), queue) => some ⟨{ s with queue }, [.notifyOne], []⟩
  | .notifyOne =>
    if s.sharedReady then some ⟨{ s with ready := s.ready.notifyOne }, [.notifyShared], []⟩
    else some ⟨{ s with ready := s.ready.notifyOne }, [], [.pushed (.ok ())]⟩
  | .notifyShared =>
    some ⟨{ s with generation := saturatingSucc s.generation }, [], [.pushed (.ok ())]⟩
  | .drainAfterWait maxFrames timeout =>
    match s.queue.drainAfterWait s.stats maxFrames timeout answer.now with
    | (some frames, queue, stats) => some ⟨{ s with queue, stats }, [], [.drained frames]⟩
    | (none, _, _) =>
      if hmax : 0 < maxFrames then
        some ⟨{ s with ready := s.ready.sleep }, [.asleep ⟨maxFrames, hmax⟩], []⟩
      else none
  | .asleep maxFrames =>
    (if answer.early then s.ready.wakeEarly else s.ready.wake).map fun ready =>
      ⟨{ s with ready }, [.awake maxFrames], []⟩
  | .awake maxFrames =>
    -- `wait_timeout_while` looks at the queue first and at the time then
    if s.queue.frames = [] ∧ answer.elapsed = false then
      some ⟨{ s with ready := s.ready.sleep }, [.asleep maxFrames], []⟩
    else some (drainNow s maxFrames answer.now)
  | .drain maxFrames => some (drainNow s maxFrames answer.now)
  | .pop =>
    let (frame, queue, stats) := s.queue.pop s.stats answer.now
    some ⟨{ s with queue, stats }, [], [.popped frame]⟩
  | .clear => some ⟨{ s with queue := s.queue.clear.2 }, [], [.discarded s.queue.clear.1]⟩
  | .removeSessionFrames sessionId =>
    some ⟨{ s with queue := (s.queue.removeSessionFrames sessionId).2 }, [],
      [.discarded (s.queue.removeSessionFrames sessionId).1]⟩
  | .observe maxFrames timeout =>
    if s.sharedReady then some ⟨s, [.look s.generation maxFrames timeout], []⟩
    else some ⟨s, [], []⟩
  | .look observed maxFrames timeout =>
    if s.queue.frames = [] then some ⟨s, [.waitForChange observed timeout], [.drained []]⟩
    else some (drainNow s maxFrames answer.now)
  | .waitForChange observed timeout =>
    if s.generation ≠ observed ∨ timeout = 0 then some ⟨s, [], [.generation s.generation]⟩
    else some ⟨s, [.watching observed], []⟩
  | .watching observed =>
    -- `notify_all` reaches whoever sleeps with an older generation
    if s.generation ≠ observed ∨ answer.early = true then some ⟨s, [.changed observed], []⟩
    else none
  | .changed observed =>
    if s.generation = observed ∧ answer.elapsed = false then some ⟨s, [.watching observed], []⟩
    else some ⟨s, [], [.generation s.generation]⟩

end FrameQueueTask

inductive FrameQueueOp where
  | tryPush (frame : KtpFrame)
  | drainAfterWait (maxFrames timeout : ℕ)
  | drain (maxFrames : ℕ)
  | pop
  | clear
  | removeSessionFrames (sessionId : UInt64)
  | observe (maxFrames : ℕ+) (timeout : ℕ)

def FrameQueueOp.task : FrameQueueOp → FrameQueueTask
  | .tryPush frame => .tryPush frame
  | .drainAfterWait maxFrames timeout => .drainAfterWait maxFrames timeout
  | .drain maxFrames => .drain maxFrames
  | .pop => .pop
  | .clear => .clear
  | .removeSessionFrames sessionId => .removeSessionFrames sessionId
  | .observe maxFrames timeout => .observe maxFrames timeout

def frameQueueSystem : System SharedFrameQueue FrameQueueTask FrameQueueObservation WaitAnswer
    FrameQueueOp where
  start := FrameQueueOp.task
  step answer s task := task.turn answer s

def frameQueueStart (capacity : ℕ) (sharedReady : Bool) :
    Config SharedFrameQueue FrameQueueTask FrameQueueObservation :=
  ⟨.new capacity sharedReady, [], []⟩

/-! ## What one access does -/

namespace FrameQueueTask

/-- The task sleeps in `drain_after_wait`. -/
def isAsleep : FrameQueueTask → Bool
  | .asleep _ => true
  | _ => false

/-- The task is about to notify a sleeping drain, or is one that woke up. -/
def isComing : FrameQueueTask → Bool
  | .notifyOne | .awake _ => true
  | _ => false

/-- The task has pushed a frame and is still to announce it to observers. -/
def isAnnouncing : FrameQueueTask → Bool
  | .notifyOne | .notifyShared => true
  | _ => false

/-- The generation that an observer has taken. -/
def observed : FrameQueueTask → Option UInt64
  | .look observed _ _ | .waitForChange observed _ | .watching observed | .changed observed =>
    some observed
  | _ => none

/-- The observer has found the queue empty. -/
def isWaiting : FrameQueueTask → Bool
  | .waitForChange _ _ | .watching _ | .changed _ => true
  | _ => false

end FrameQueueTask

/-- The effect of a turn, in the terms that the invariant needs: the sleeping drains, the drains
that are not left behind, the generation, and the observers. -/
structure QueueMove (s : SharedFrameQueue) (t : FrameQueueTask) (d : FrameQueueTurn) : Prop where
  asleep : d.tasks.countP (·.isAsleep) + s.ready.asleep =
    [t].countP (·.isAsleep) + d.shared.ready.asleep
  noneLost : ∀ others, s.ready.NoneLost s.queue.frames.length ([t].countP (·.isComing) + others) →
    d.shared.ready.NoneLost d.shared.queue.frames.length (d.tasks.countP (·.isComing) + others)
  sharedReady : d.shared.sharedReady = s.sharedReady
  generation : s.generation.toNat ≤ d.shared.generation.toNat
  announced : s.sharedReady = true → d.shared.generation = s.generation →
    d.shared.queue.frames.length + [t].countP (·.isAnnouncing) ≤
      s.queue.frames.length + d.tasks.countP (·.isAnnouncing)
  observers : ∀ u ∈ d.tasks, ∀ g ∈ u.observed,
    t.observed = some g ∧ (u.isWaiting = true → t.isWaiting = true ∨ d.shared.queue.frames = []) ∨
      g = s.generation ∧ s.sharedReady = true ∧ u.isWaiting = false

theorem saturatingSucc_le (generation : UInt64) :
    generation.toNat ≤ (saturatingSucc generation).toNat := by
  unfold saturatingSucc
  split_ifs with h
  · rw [UInt64.toNat_add, UInt64.toNat_one, Nat.mod_eq_of_lt h]
    exact Nat.le_succ _
  · exact le_refl _

theorem saturatingSucc_ne {generation : UInt64} (h : generation.toNat + 1 < 2 ^ 64) :
    saturatingSucc generation ≠ generation := by
  intro heq
  rw [saturatingSucc, if_pos h] at heq
  have := congrArg UInt64.toNat heq
  rw [UInt64.toNat_add, UInt64.toNat_one, Nat.mod_eq_of_lt h] at this
  omega

/-- The generation does not saturate at this turn. -/
def GenerationLeft (s : SharedFrameQueue) (t : FrameQueueTask) (_ : List FrameQueueTask)
    (_ : WaitAnswer) : Prop :=
  t = .notifyShared → s.generation.toNat + 1 < 2 ^ 64

instance (s : SharedFrameQueue) (t : FrameQueueTask) (ts : List FrameQueueTask)
    (answer : WaitAnswer) : Decidable (GenerationLeft s t ts answer) :=
  inferInstanceAs (Decidable (_ → _))

namespace QueueMove

variable {s : SharedFrameQueue} {t : FrameQueueTask} {queue : AsyncTunnelFrameQueue}
  {stats : TunnelRuntimeStats} {trace : List FrameQueueObservation}

/-- An operation ends that has only taken frames out of the queue. A drain that woke up has taken
one if there was one. -/
theorem taken (hasleep : t.isAsleep = false) (hannouncing : t.isAnnouncing = false)
    (hle : queue.frames.length ≤ s.queue.frames.length)
    (hcoming : t.isComing = false ∨
      queue.frames.length + 1 ≤ s.queue.frames.length ∨ queue.frames = []) :
    QueueMove s t ⟨{ s with queue, stats }, [], trace⟩ where
  asleep := by simp [hasleep]
  noneLost others h := by
    obtain hcoming | hlt | hnil := hcoming
    · refine h.mono ?_
      simpa [hcoming] using hle
    · refine h.mono ?_
      have : [t].countP (·.isComing) ≤ 1 := List.countP_le_length
      simp only [List.countP_nil]
      omega
    · rw [hnil]
      exact .of_none _ _
  sharedReady := rfl
  generation := le_refl _
  announced _ _ := by simpa [hannouncing] using hle
  observers u hu := absurd hu List.not_mem_nil

/-- An observer goes on or ends, and nothing else changes. -/
theorem observer {tasks : List FrameQueueTask} (hasleep : ∀ u ∈ t :: tasks, u.isAsleep = false)
    (hcoming : ∀ u ∈ t :: tasks, u.isComing = false)
    (hannouncing : ∀ u ∈ t :: tasks, u.isAnnouncing = false)
    (hobservers : ∀ u ∈ tasks, ∀ g ∈ u.observed,
      t.observed = some g ∧ (u.isWaiting = true → t.isWaiting = true ∨ s.queue.frames = []) ∨
        g = s.generation ∧ s.sharedReady = true ∧ u.isWaiting = false) :
    QueueMove s t ⟨s, tasks, trace⟩ := by
  have count {p : FrameQueueTask → Bool} (hp : ∀ u ∈ t :: tasks, p u = false) :
      tasks.countP p = 0 ∧ [t].countP p = 0 := by
    constructor
    · exact List.countP_eq_zero.mpr fun u hu => by simp [hp u (List.mem_cons_of_mem t hu)]
    · simp [hp t List.mem_cons_self]
  constructor
  · rw [(count hasleep).1, (count hasleep).2]
  · intro others h
    rwa [(count hcoming).2, ← (count hcoming).1] at h
  · rfl
  · exact le_refl _
  · intro _ _
    rw [(count hannouncing).1, (count hannouncing).2]
  · exact hobservers

end QueueMove

namespace FrameQueueTask

variable {answer : WaitAnswer} {s : SharedFrameQueue} {d : FrameQueueTurn}

theorem move_tryPush {frame : KtpFrame} (h : (tryPush frame).turn answer s = some d) :
    QueueMove s (tryPush frame) d := by
  rw [turn, AsyncTunnelFrameQueue.tryPush] at h
  split_ifs at h
  · cases h
    exact .taken rfl rfl (le_refl _) (.inl rfl)
  · cases h
    -- the frame is in the queue, and its notification is still to come
    refine ⟨rfl, fun others h => h.mono ?_, rfl, le_refl _, fun _ _ => ?_, ?_⟩
    · simp [isComing]
      omega
    · simp [isAnnouncing]
    · simp [observed]

theorem move_notifyOne (h : notifyOne.turn answer s = some d) : QueueMove s notifyOne d := by
  have noneLost (others : ℕ)
      (hlost : s.ready.NoneLost s.queue.frames.length ([notifyOne].countP (·.isComing) + others)) :
      s.ready.notifyOne.NoneLost s.queue.frames.length (0 + others) := by
    refine Condvar.NoneLost.notifyOne (hlost.mono ?_)
    simp [isComing]
    omega
  rw [turn] at h
  split_ifs at h with hshared
  · cases h
    refine ⟨?_, noneLost, rfl, le_refl _, fun _ _ => le_refl _, ?_⟩
    · simp [isAsleep]
    · simp [observed]
  · cases h
    refine ⟨?_, noneLost, rfl, le_refl _, fun hready => absurd hready hshared, ?_⟩
    · simp [isAsleep]
    · simp

theorem move_notifyShared (hleft : s.generation.toNat + 1 < 2 ^ 64)
    (h : notifyShared.turn answer s = some d) : QueueMove s notifyShared d := by
  cases h
  exact ⟨rfl, fun _ h => h, rfl, saturatingSucc_le _,
    fun _ hsame => absurd hsame (saturatingSucc_ne hleft), by simp⟩

theorem move_drainNow {t : FrameQueueTask} {maxFrames now : ℕ} (hasleep : t.isAsleep = false)
    (hannouncing : t.isAnnouncing = false) (hcoming : t.isComing = false ∨ 0 < maxFrames) :
    QueueMove s t (drainNow s maxFrames now) := by
  refine .taken hasleep hannouncing ?_ (hcoming.imp_right fun hpos => ?_)
  · simp
  · cases s.queue.frames with
    | nil => exact .inr (by simp)
    | cons queued frames =>
      refine .inl ?_
      simp only [List.length_drop, List.length_cons]
      omega

/-- A drain that found the queue empty sleeps. -/
theorem move_sleep {t : FrameQueueTask} (maxFrames : ℕ+) (hempty : s.queue.frames = [])
    (hasleep : t.isAsleep = false) (hannouncing : t.isAnnouncing = false) :
    QueueMove s t ⟨{ s with ready := s.ready.sleep }, [.asleep maxFrames], []⟩ := by
  refine ⟨?_, fun others _ => ?_, rfl, le_refl _, fun _ _ => ?_, ?_⟩
  · rw [List.countP_singleton, List.countP_singleton, hasleep, Condvar.asleep_sleep]
    simp [isAsleep]
    omega
  · rw [hempty]
    exact .of_none _ _
  · rw [List.countP_singleton, hannouncing]
    simp
  · simp [observed]

theorem move_drainAfterWait {maxFrames timeout : ℕ}
    (h : (drainAfterWait maxFrames timeout).turn answer s = some d) :
    QueueMove s (drainAfterWait maxFrames timeout) d := by
  by_cases hzero : maxFrames = 0
  · rw [turn, AsyncTunnelFrameQueue.drainAfterWait, if_pos hzero] at h
    cases h
    exact .taken rfl rfl (le_refl _) (.inl rfl)
  by_cases hempty : s.queue.frames = [] ∧ timeout ≠ 0
  · rw [turn, AsyncTunnelFrameQueue.drainAfterWait, if_neg hzero, if_pos hempty] at h
    simp only [dif_pos (Nat.pos_of_ne_zero hzero)] at h
    cases h
    exact move_sleep _ hempty.1 rfl rfl
  · rw [turn, AsyncTunnelFrameQueue.drainAfterWait, if_neg hzero, if_neg hempty] at h
    cases h
    exact move_drainNow rfl rfl (.inl rfl)

theorem move_asleep {maxFrames : ℕ+} (h : (asleep maxFrames).turn answer s = some d) :
    QueueMove s (asleep maxFrames) d := by
  obtain ⟨ready, hwake, rfl⟩ := Option.map_eq_some_iff.mp h
  refine ⟨?_, fun others h => ?_, rfl, le_refl _, fun _ _ => le_refl _, ?_⟩
  · have : ready.asleep + 1 = s.ready.asleep := by
      split_ifs at hwake
      · exact Condvar.asleep_wakeEarly hwake
      · exact Condvar.asleep_wake hwake
    simp [isAsleep]
    omega
  · have : ready.NoneLost s.queue.frames.length
        ([asleep maxFrames].countP (·.isComing) + others + 1) := by
      split_ifs at hwake
      · exact h.wakeEarly hwake
      · exact h.wake hwake
    refine this.mono ?_
    simp [isComing]
  · simp [observed]

theorem move_awake {maxFrames : ℕ+} (h : (awake maxFrames).turn answer s = some d) :
    QueueMove s (awake maxFrames) d := by
  rw [turn] at h
  split_ifs at h with hempty
  · cases h
    exact move_sleep maxFrames hempty.1 rfl rfl
  · cases h
    exact move_drainNow rfl rfl (.inr maxFrames.pos)

theorem move_look {g : UInt64} {maxFrames : ℕ+} {timeout : ℕ}
    (h : (look g maxFrames timeout).turn answer s = some d) :
    QueueMove s (look g maxFrames timeout) d := by
  rw [turn] at h
  split_ifs at h with hempty
  · cases h
    refine .observer ?_ ?_ ?_ ?_ <;> simp [isAsleep, isComing, isAnnouncing, observed, hempty]
  · cases h
    exact move_drainNow rfl rfl (.inl rfl)

theorem move_observer {t : FrameQueueTask} (ht : t.isWaiting = true)
    (h : t.turn answer s = some d) : QueueMove s t d := by
  cases t <;> simp only [isWaiting, Bool.false_eq_true] at ht
  all_goals
    rw [turn] at h
    split_ifs at h
    all_goals
      cases h
      refine .observer ?_ ?_ ?_ ?_ <;> simp [isAsleep, isComing, isAnnouncing, observed, isWaiting]

theorem move {t : FrameQueueTask} {ts : List FrameQueueTask} (hleft : GenerationLeft s t ts answer)
    (h : t.turn answer s = some d) : QueueMove s t d := by
  cases t with
  | tryPush frame => exact move_tryPush h
  | notifyOne => exact move_notifyOne h
  | notifyShared => exact move_notifyShared (hleft rfl) h
  | drainAfterWait maxFrames timeout => exact move_drainAfterWait h
  | asleep maxFrames => exact move_asleep h
  | awake maxFrames => exact move_awake h
  | drain maxFrames =>
    cases h
    exact move_drainNow rfl rfl (.inl rfl)
  | pop =>
    cases h
    refine .taken rfl rfl ?_ (.inl rfl)
    cases hframes : s.queue.frames <;> simp [hframes]
  | clear =>
    cases h
    exact .taken rfl rfl (Nat.zero_le _) (.inl rfl)
  | removeSessionFrames sessionId =>
    cases h
    exact .taken rfl rfl (List.length_filter_le _ _) (.inl rfl)
  | observe maxFrames timeout =>
    rw [turn] at h
    split_ifs at h with hshared
    all_goals
      cases h
      refine .observer ?_ ?_ ?_ ?_ <;>
        simp [isAsleep, isComing, isAnnouncing, observed, isWaiting, hshared]
  | look g maxFrames timeout => exact move_look h
  | waitForChange g timeout => exact move_observer rfl h
  | watching g => exact move_observer rfl h
  | changed g => exact move_observer rfl h

end FrameQueueTask

/-! ## Over all schedules -/

/-- An observer has not seen a generation of the future. If it has found the queue empty and the
generation is still the same, then every frame in the queue is one that a push has yet to
announce. -/
structure Watches (s : SharedFrameQueue) (announcing : ℕ) (u : FrameQueueTask) (g : UInt64) :
    Prop where
  sharedReady : s.sharedReady = true
  le : g.toNat ≤ s.generation.toNat
  announced : u.isWaiting = true → s.generation = g → s.queue.frames.length ≤ announcing

structure WakeupInv (s : SharedFrameQueue) (tasks : List FrameQueueTask)
    (_ : List FrameQueueObservation) : Prop where
  asleep : tasks.countP (·.isAsleep) = s.ready.asleep
  noneLost : s.ready.NoneLost s.queue.frames.length (tasks.countP (·.isComing))
  watched : ∀ u ∈ tasks, ∀ g ∈ u.observed, Watches s (tasks.countP (·.isAnnouncing)) u g

namespace WakeupInv

variable {s : SharedFrameQueue} {t : FrameQueueTask} {ts ts' : List FrameQueueTask}
  {trace : List FrameQueueObservation} {d : FrameQueueTurn}

theorem start (capacity : ℕ) (sharedReady : Bool) :
    WakeupInv (.new capacity sharedReady) [] trace :=
  ⟨rfl, .empty, by simp⟩

theorem perm (hperm : ts.Perm ts') (h : WakeupInv s ts trace) : WakeupInv s ts' trace := by
  obtain ⟨hasleep, hlost, hwatched⟩ := h
  rw [hperm.countP_eq] at hasleep hlost
  refine ⟨hasleep, hlost, fun u hu g hg => ?_⟩
  rw [← hperm.countP_eq]
  exact hwatched u (hperm.mem_iff.mpr hu) g hg

theorem started (op : FrameQueueOp) (h : WakeupInv s ts trace) :
    WakeupInv s (op.task :: ts) trace := by
  have hnew : op.task.isAsleep = false ∧ op.task.isComing = false ∧
      op.task.isAnnouncing = false ∧ op.task.observed = none := by
    cases op <;> exact ⟨rfl, rfl, rfl, rfl⟩
  obtain ⟨hasleep, hcoming, hannouncing, hobserved⟩ := hnew
  refine ⟨?_, ?_, fun u hu g hg => ?_⟩
  · simpa [List.countP_cons, hasleep] using h.asleep
  · simpa [List.countP_cons, hcoming] using h.noneLost
  · obtain rfl | hu := List.mem_cons.mp hu
    · rw [hobserved] at hg
      cases hg
    · simpa [List.countP_cons, hannouncing] using h.watched u hu g hg

/-- Frames that were announced, or are yet to be, stay so. -/
theorem announced_move (hmove : QueueMove s t d) {u : FrameQueueTask} {g : UInt64}
    (h : Watches s ((t :: ts).countP (·.isAnnouncing)) u g)
    (hsame : d.shared.generation = g) (hwaiting : u.isWaiting = true) :
    d.shared.queue.frames.length ≤ (d.tasks ++ ts).countP (·.isAnnouncing) := by
  have hgeneration : s.generation = g :=
    UInt64.toNat_inj.mp (le_antisymm (hsame ▸ hmove.generation) h.le)
  have hbefore := h.announced hwaiting hgeneration
  have hnow := hmove.announced h.sharedReady (hsame.trans hgeneration.symm)
  rw [← List.singleton_append, List.countP_append] at hbefore
  rw [List.countP_append]
  omega

theorem moved (h : WakeupInv s (t :: ts) trace) (hmove : QueueMove s t d) :
    WakeupInv d.shared (d.tasks ++ ts) (trace ++ d.trace) := by
  constructor
  · have hbefore := h.asleep
    have hnow := hmove.asleep
    rw [← List.singleton_append, List.countP_append] at hbefore
    rw [List.countP_append]
    omega
  · rw [List.countP_append]
    refine hmove.noneLost _ ?_
    rw [← List.countP_append]
    exact h.noneLost
  · intro u hu g hg
    obtain hu | hu := List.mem_append.mp hu
    · obtain ⟨ht, hwaits⟩ | ⟨rfl, hready, hlooking⟩ := hmove.observers u hu g hg
      · have hw := h.watched t List.mem_cons_self g ht
        refine ⟨hmove.sharedReady.trans hw.sharedReady, hw.le.trans hmove.generation,
          fun hwaiting hsame => ?_⟩
        obtain htw | hnil := hwaits hwaiting
        · exact announced_move hmove hw hsame htw
        · simp [hnil]
      · exact ⟨hmove.sharedReady.trans hready, hmove.generation,
          fun hwaiting => absurd hwaiting (by simp [hlooking])⟩
    · have hw := h.watched u (List.mem_cons_of_mem t hu) g hg
      exact ⟨hmove.sharedReady.trans hw.sharedReady, hw.le.trans hmove.generation,
        fun hwaiting hsame => announced_move hmove hw hsame hwaiting⟩

theorem run {capacity : ℕ} {sharedReady : Bool} {actions : List (Action WaitAnswer FrameQueueOp)}
    {c : Config SharedFrameQueue FrameQueueTask FrameQueueObservation}
    (halong : frameQueueSystem.Along GenerationLeft (frameQueueStart capacity sharedReady) actions)
    (hrun : frameQueueSystem.run (frameQueueStart capacity sharedReady) actions = some c) :
    WakeupInv c.shared c.tasks c.trace :=
  System.inv_run (fun hperm h => h.perm hperm) started
    (fun h hleft hstep => h.moved (FrameQueueTask.move hleft hstep)) (start _ _) halong hrun

end WakeupInv

/-- No operation can go on, unless a sleeping thread wakes early. -/
def AtRest (c : Config SharedFrameQueue FrameQueueTask FrameQueueObservation) : Prop :=
  ∀ t ∈ c.tasks, ∀ answer : WaitAnswer, answer.early = false → t.turn answer c.shared = none

namespace AtRest

variable {c : Config SharedFrameQueue FrameQueueTask FrameQueueObservation}

/-- What is left sleeps, in `drain_after_wait` without a notification or in `wait_for_change` at the
current generation. -/
theorem sleeps (hrest : AtRest c) {t : FrameQueueTask} (ht : t ∈ c.tasks) :
    (t.isAsleep = true ∧ c.shared.ready.notified = 0) ∨ t = .watching c.shared.generation := by
  have hturn := hrest t ht ⟨0, false, false⟩ rfl
  cases t with
  | asleep maxFrames =>
    refine .inl ⟨rfl, ?_⟩
    by_contra hne
    obtain ⟨ready, hwake⟩ := Condvar.wake_isSome (Nat.pos_of_ne_zero hne)
    simp [FrameQueueTask.turn, hwake] at hturn
  | watching g =>
    refine .inr ?_
    by_contra hne
    have hchanged : c.shared.generation ≠ g := fun heq => hne (by rw [heq])
    rw [FrameQueueTask.turn, if_pos (.inl hchanged)] at hturn
    cases hturn
  | drainAfterWait maxFrames timeout =>
    rw [FrameQueueTask.turn, AsyncTunnelFrameQueue.drainAfterWait] at hturn
    split_ifs at hturn
    all_goals simp_all
  | _ =>
    simp only [FrameQueueTask.turn, AsyncTunnelFrameQueue.tryPush] at hturn
    try split_ifs at hturn
    all_goals cases hturn

end AtRest

/-- **No wake-up is lost.** However pushes, drains and observers interleave: as long as there is a
frame in the queue and an operation that has not returned, some operation can go on without a
timeout. -/
theorem no_lost_wakeup {capacity : ℕ} {sharedReady : Bool}
    {actions : List (Action WaitAnswer FrameQueueOp)}
    {c : Config SharedFrameQueue FrameQueueTask FrameQueueObservation}
    (halong : frameQueueSystem.Along GenerationLeft (frameQueueStart capacity sharedReady) actions)
    (hrun : frameQueueSystem.run (frameQueueStart capacity sharedReady) actions = some c)
    (hframe : c.shared.queue.frames ≠ []) (htasks : c.tasks ≠ []) : ¬ AtRest c := by
  intro hrest
  have hinv := WakeupInv.run halong hrun
  have hlength := List.length_pos_of_ne_nil hframe
  -- whoever sleeps is neither about to notify nor about to look
  have hnone {p : FrameQueueTask → Bool} (hasleep : ∀ maxFrames, p (.asleep maxFrames) = false)
      (hwatching : ∀ g, p (.watching g) = false) : c.tasks.countP p = 0 := by
    refine List.countP_eq_zero.mpr fun t ht => ?_
    obtain ⟨hslept, -⟩ | rfl := hrest.sleeps ht
    · cases t with
      | asleep maxFrames => simp [hasleep]
      | _ => cases hslept
    · simp [hwatching]
  obtain ⟨t, ht⟩ := List.exists_mem_of_ne_nil _ htasks
  obtain ⟨hslept, hnotified⟩ | rfl := hrest.sleeps ht
  · have hcount : 0 < c.tasks.countP (·.isAsleep) := List.countP_pos_iff.mpr ⟨t, ht, hslept⟩
    have hasleep := hinv.asleep
    have hitems := hinv.noneLost
    rw [Condvar.asleep, hnotified] at hasleep
    rw [Condvar.NoneLost, hnotified, hnone (fun _ => rfl) fun _ => rfl] at hitems
    have := hitems (by omega)
    omega
  · have hannounced := (hinv.watched _ ht _ rfl).announced rfl rfl
    rw [hnone (fun _ => rfl) fun _ => rfl] at hannounced
    omega

/-- A drain and an observer fall asleep, and a push has not notified them yet. -/
def unnotified : List (Action WaitAnswer FrameQueueOp) :=
  [.start (.drainAfterWait 1 1), .turn 0 ⟨0, false, false⟩, .start (.observe 1 1),
    .turn 0 ⟨0, false, false⟩, .turn 0 ⟨0, false, false⟩, .turn 0 ⟨0, false, false⟩,
    .start (.tryPush ⟨.sessionClose, .ingress, 0, 1, []⟩), .turn 0 ⟨0, false, false⟩]

theorem no_lost_wakeup_unnotified :
    ∃ c, frameQueueSystem.run (frameQueueStart 2 true) unnotified = some c ∧
      c.tasks = [.notifyOne, .watching 0, .asleep 1] ∧ c.shared.queue.len = 1 ∧ ¬ AtRest c := by
  refine ⟨_, rfl, rfl, rfl, @no_lost_wakeup 2 true unnotified _ ?_ rfl ?_ ?_⟩
  · decide
  · exact List.cons_ne_nil _ _
  · exact List.cons_ne_nil _ _

end KeliAgent
