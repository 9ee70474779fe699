import KeliAgent.Tunnel.Tasks

/-!
# What a turn does to the outbound queue

* `QueueEffect`: all that can happen to the outbound queue, with the session whose task does it.
* **`TunnelTask.core_turn`**: a turn has the effect of its task on the queue, and leaves the limits
  alone.
* `QueueEffect.label`: the effect on a queue whose frames are labelled with the sessions they are
  of; `map_label`: it is the effect on the queue.
-/

namespace KeliAgent

open Interleave AsyncTunnelCore

/-- What happens to the outbound queue. A frame is pushed for the session at `ref`. -/
inductive QueueEffect where
  | keep
  | push (ref : ℕ) (frame : KtpFrame)
  | remove (sessionId : UInt64)
  | drain (maxFrames : ℕ)
  | clear
  deriving DecidableEq, Repr

namespace QueueEffect

def outbound (now : ℕ) (queue : AsyncTunnelFrameQueue) : QueueEffect → AsyncTunnelFrameQueue
  | .keep => queue
  | .push _ frame => (queue.tryPush frame now).2
  | .remove sessionId => (queue.removeSessionFrames sessionId).2
  | .drain maxFrames => { queue with frames := queue.frames.drop maxFrames }
  | .clear => queue.clear.2

/-- The effect on labelled frames. -/
def label (capacity : ℕ) (owned : List (ℕ × KtpFrame)) : QueueEffect → List (ℕ × KtpFrame)
  | .keep => owned
  | .push ref frame => if capacity ≤ owned.length then owned else owned ++ [(ref, frame)]
  | .remove sessionId => owned.filter fun entry => entry.2.sessionId ≠ sessionId
  | .drain maxFrames => owned.drop maxFrames
  | .clear => []

theorem map_label {owned : List (ℕ × KtpFrame)} {queue : AsyncTunnelFrameQueue}
    (h : owned.map (·.2) = queue.frames.map (·.frame)) (now : ℕ) (effect : QueueEffect) :
    (effect.label queue.capacity owned).map (·.2) =
      (effect.outbound now queue).frames.map (·.frame) := by
  have hlen : owned.length = queue.frames.length := by
    simpa using congrArg List.length h
  cases effect with
  | keep => exact h
  | push ref frame =>
    rcases queue.tryPush_cases frame now with ⟨hfull, hpush⟩ | ⟨hroom, hpush⟩
    · rw [label, if_pos (hlen ▸ hfull), outbound, hpush]
      exact h
    · rw [label, if_neg (not_le.mpr (hlen ▸ hroom)), outbound, hpush, List.map_append,
        List.map_append, h]
      rfl
  | remove sessionId =>
    -- both filters look at the session id of the frame only
    have hframes :=
      congrArg (List.filter fun frame : KtpFrame => decide (frame.sessionId ≠ sessionId)) h
    rw [List.filter_map, List.filter_map] at hframes
    exact hframes
  | drain maxFrames =>
    rw [label, outbound, List.map_drop, List.map_drop, h]
  | clear => rfl

end QueueEffect

/-! ## Turns -/

/-- What the next turn of the task does to the queue. -/
def TunnelTask.effect (core : AsyncTunnelCore) : TunnelTask → QueueEffect
  | .opening (.announce sessionId payload ref) =>
    match encodeSessionOpenPayload payload with
    | .ok payload => .push ref (openFrame sessionId payload)
    | .error _ => .keep
  | .reader ref (.pushData chunk) =>
    (core.arena[ref]?).elim .keep fun session =>
      .push ref (dataFrame session.leg session.sessionId chunk)
  | .reader ref .pushClose =>
    (core.arena[ref]?).elim .keep fun session =>
      .push ref (closeFrame session.leg session.sessionId)
  | .close (.removeFrames sessionId _) => .remove sessionId
  | .closeAll (.await []) => .clear
  | .nextFrames maxFrames => .drain maxFrames
  | _ => .keep

section Turns

variable {answer : TunnelAnswer} {core : AsyncTunnelCore} {d : TunnelTurn}

theorem OpenTask.core_turn (answer : TunnelAnswer) (core : AsyncTunnelCore) (task : OpenTask) :
    (task.turn answer core).shared.limits = core.limits ∧
      (task.turn answer core).shared.outbound =
        ((TunnelTask.opening task).effect core).outbound answer.now core.outbound := by
  cases task with
  | announce sessionId payload ref =>
    simp only [OpenTask.turn, AsyncTunnelCore.announce, TunnelTask.effect]
    cases encodeSessionOpenPayload payload with
    | error error => exact ⟨rfl, rfl⟩
    | ok payload =>
      rcases core.outbound.tryPush_cases (openFrame sessionId payload) answer.now with
        ⟨-, hpush⟩ | ⟨-, hpush⟩ <;>
      · simp only [pushFrame, hpush, QueueEffect.outbound]
        constructor <;> trivial
  | egressCheck | egressDial | ingressCheck =>
    simp only [OpenTask.turn]
    split <;> exact ⟨rfl, rfl⟩
  | _ => exact ⟨rfl, rfl⟩

theorem ReaderTask.shared_push (answer : TunnelAnswer) (core : AsyncTunnelCore) (ref : ℕ)
    (frame : KtpFrame) (task : ReaderTask) :
    (ReaderTask.push answer core ref frame task).shared =
      { core with outbound := (core.outbound.tryPush frame answer.now).2 } := by
  unfold ReaderTask.push
  split <;> rename_i h <;> exact (congrArg Prod.snd h).symm

theorem ReaderTask.core_turn {ref : ℕ} {session : AsyncTunnelSession}
    (hs : core.arena[ref]? = some session) (answer : TunnelAnswer) (task : ReaderTask) :
    (task.turn answer core ref session).shared.limits = core.limits ∧
      (task.turn answer core ref session).shared.outbound =
        ((TunnelTask.reader ref task).effect core).outbound answer.now core.outbound := by
  cases task with
  | pushData chunk | pushClose =>
    rw [ReaderTask.turn, ReaderTask.shared_push, TunnelTask.effect, hs]
    exact ⟨rfl, rfl⟩
  | read | remove =>
    simp only [ReaderTask.turn]
    (repeat' split) <;> exact ⟨rfl, rfl⟩
  | _ => exact ⟨rfl, rfl⟩

/-- **What a turn does to the queue and the limits.** -/
theorem TunnelTask.core_turn {t : TunnelTask} (hturn : t.turn answer core = some d) :
    d.shared.limits = core.limits ∧
      d.shared.outbound = (t.effect core).outbound answer.now core.outbound := by
  cases t with
  | opening task =>
    cases hturn
    exact task.core_turn answer core
  | reader ref task =>
    obtain ⟨session, hs, rfl⟩ := Option.map_eq_some_iff.mp hturn
    exact task.core_turn hs answer
  | writer ref task =>
    obtain ⟨session, -, hturn⟩ := Option.bind_eq_some_iff.mp hturn
    cases task <;> simp only [WriterTask.turn] at hturn <;> (try split at hturn) <;> cases hturn <;>
      exact ⟨rfl, rfl⟩
  | data task =>
    cases task <;> simp only [TunnelTask.turn, DataTask.turn] at hturn
    case lookup => split at hturn <;> cases hturn <;> exact ⟨rfl, rfl⟩
    case release => cases hturn; exact ⟨rfl, rfl⟩
    all_goals
      obtain ⟨session, -, rfl⟩ := Option.map_eq_some_iff.mp hturn
      split <;> exact ⟨rfl, rfl⟩
  | close task =>
    cases task <;> simp only [TunnelTask.turn, CloseTask.turn] at hturn
    case remove => split at hturn <;> cases hturn <;> exact ⟨rfl, rfl⟩
    case await => split_ifs at hturn; cases hturn; exact ⟨rfl, rfl⟩
    case removeFrames | uncountActive => cases hturn; exact ⟨rfl, rfl⟩
    all_goals
      obtain ⟨session, -, rfl⟩ := Option.map_eq_some_iff.mp hturn
      exact ⟨rfl, rfl⟩
  | closeAll task =>
    cases task <;> simp only [TunnelTask.turn] at hturn
    case next =>
      simp only [CloseAllTask.turn] at hturn
      split at hturn
      · cases hturn
        exact ⟨rfl, rfl⟩
      · obtain ⟨session, -, rfl⟩ := Option.map_eq_some_iff.mp hturn
        exact ⟨rfl, rfl⟩
    case await readers =>
      cases readers <;> simp only [CloseAllTask.turn] at hturn <;> (try split_ifs at hturn) <;>
        cases hturn <;> exact ⟨rfl, rfl⟩
    case uncountRule =>
      obtain ⟨session, -, rfl⟩ := Option.map_eq_some_iff.mp hturn
      exact ⟨rfl, rfl⟩
    all_goals
      cases hturn
      exact ⟨rfl, rfl⟩
  | nextFrames maxFrames =>
    cases hturn
    exact ⟨rfl, rfl⟩

end Turns

end KeliAgent
