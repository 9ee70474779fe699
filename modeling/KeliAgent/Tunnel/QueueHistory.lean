import KeliAgent.Lib.Fifo
import KeliAgent.Tunnel.Queue

/-!
# The outbound queue over its whole history

Any sequence of calls on the outbound queue, with what each returned. The frames that were ever
pushed make up a log (`Fifo`); a call of `pop` or of a drain hands out the first waiting frames,
`clear` and `remove_session_frames` discard waiting frames.

* `QueueRun.Inv`: the log explains the queue, and the counters know what was handed out.
* `QueueRun.Moves`: what a call can do.
* `QueueRun.inv_step`, `QueueRun.inv_run`: one call, and any sequence of calls.
* **`QueueRun.bounded_fifo`**.
-/

namespace KeliAgent

open Fifo

/-- A call on the queue. `drain_after_wait` is two of them, as it gives back the lock to wait. -/
inductive QueueOp where
  | tryPush (frame : KtpFrame)
  | pop
  | drain (maxFrames : ℕ)
  | drainAfterWait (maxFrames timeout : ℕ)
  | drainWaited (maxFrames : ℕ)
  | clear
  | removeSessionFrames (sessionId : UInt64)
  deriving DecidableEq, Repr

/-- The number of frames that `pop` or a drain asks for. -/
def QueueOp.maxFrames : QueueOp → Option ℕ
  | .pop => some 1
  | .drain maxFrames | .drainAfterWait maxFrames _ | .drainWaited maxFrames => some maxFrames
  | _ => none

inductive QueueResult where
  | pushed (result : Except TunnelRuntimeError Unit)
  | frames (frames : List KtpFrame)
  | waiting
  | discarded (count : ℕ)

/-- The queue and its counters, with the calls made so far and their results. -/
structure QueueRun where
  queue : AsyncTunnelFrameQueue
  stats : TunnelRuntimeStats
  history : List (QueueOp × QueueResult)

namespace QueueRun

def start (capacity : ℕ) : QueueRun := ⟨.new capacity, .default, []⟩

/-- The result of a call at time `now`, and the queue and its counters after it. -/
def call (s : QueueRun) (now : ℕ) : QueueOp →
    QueueResult × AsyncTunnelFrameQueue × TunnelRuntimeStats
  | .tryPush frame =>
    let (result, queue) := s.queue.tryPush frame now
    (.pushed result, queue, s.stats)
  | .pop =>
    let (frame, queue, stats) := s.queue.pop s.stats now
    (.frames frame.toList, queue, stats)
  | .drain maxFrames =>
    let (frames, queue, stats) := s.queue.drain s.stats maxFrames now
    (.frames frames, queue, stats)
  | .drainAfterWait maxFrames timeout =>
    match s.queue.drainAfterWait s.stats maxFrames timeout now with
    | (none, queue, stats) => (.waiting, queue, stats)
    | (some frames, queue, stats) => (.frames frames, queue, stats)
  | .drainWaited maxFrames =>
    let (frames, queue, stats) := s.queue.drainWaited s.stats maxFrames now
    (.frames frames, queue, stats)
  | .clear =>
    let (count, queue) := s.queue.clear
    (.discarded count, queue, s.stats)
  | .removeSessionFrames sessionId =>
    let (count, queue) := s.queue.removeSessionFrames sessionId
    (.discarded count, queue, s.stats)

def step (s : QueueRun) (timed : QueueOp × ℕ) : QueueRun :=
  let (result, queue, stats) := s.call timed.2 timed.1
  ⟨queue, stats, s.history ++ [(timed.1, result)]⟩

def run (s : QueueRun) (ops : List (QueueOp × ℕ)) : QueueRun := ops.foldl step s

/-- The frames whose push succeeded, in order. -/
def pushed (history : List (QueueOp × QueueResult)) : List KtpFrame :=
  history.filterMap fun
    | (.tryPush frame, .pushed (.ok ())) => some frame
    | _ => none

/-- The frames that `pop` and the drains returned, in order. -/
def handedOut (history : List (QueueOp × QueueResult)) : List KtpFrame :=
  history.flatMap fun
    | (_, .frames frames) => frames
    | _ => []

/-- What a call does to the log: a push that succeeded adds an entry, a drain hands out as many
entries as it returned frames, `clear` discards all that wait and `remove_session_frames` those of
its session. -/
def note (log : List (Entry KtpFrame)) : QueueOp × QueueResult → List (Entry KtpFrame)
  | (.tryPush frame, .pushed (.ok ())) => log ++ [⟨frame, .queued⟩]
  | (.clear, _) => discard (fun _ => true) log
  | (.removeSessionFrames sessionId, _) => discard (fun frame => frame.sessionId = sessionId) log
  | (_, .frames frames) => handOut frames.length log
  | _ => log

def log (history : List (QueueOp × QueueResult)) : List (Entry KtpFrame) := history.foldl note []

end QueueRun

/-! ## The dwell counters -/

theorem outboundQueueDwellBucketIndex_lt (elapsedMicros : UInt64) :
    outboundQueueDwellBucketIndex elapsedMicros < outboundQueueDwellMicrosBuckets.length := by
  unfold outboundQueueDwellBucketIndex
  cases h : outboundQueueDwellMicrosBuckets.findIdx? fun bucket => elapsedMicros ≤ bucket with
  | none => decide
  | some i => exact (List.findIdx?_eq_some_iff_getElem.mp h).1

/-- The counters have counted `n` frames: the histogram holds counts that add up to `n`, each in
64 bits. -/
structure TunnelQueueDwellStats.Counted (dwell : TunnelQueueDwellStats) (n : ℕ) : Prop where
  frames : dwell.frames = UInt64.ofNat n
  buckets : ∃ counts : List ℕ, counts.length = outboundQueueDwellMicrosBuckets.length ∧
    dwell.microsBuckets = counts.map UInt64.ofNat ∧ counts.sum = n

theorem sum_modify_succ {counts : List ℕ} {i : ℕ} (h : i < counts.length) :
    (counts.modify i (· + 1)).sum = counts.sum + 1 := by
  induction counts generalizing i with
  | nil => simp at h
  | cons count counts ih =>
    cases i with
    | zero => simp; omega
    | succ i =>
      have := ih (Nat.lt_of_succ_lt_succ h)
      simp [this]
      omega

theorem map_modify_succ (counts : List ℕ) (i : ℕ) :
    (counts.modify i (· + 1)).map UInt64.ofNat = (counts.map UInt64.ofNat).modify i (· + 1) := by
  induction counts generalizing i with
  | nil => simp
  | cons count counts ih => cases i <;> simp [ih, UInt64.ofNat_add]

namespace TunnelQueueDwellStats.Counted

theorem record {stats : TunnelRuntimeStats} {n : ℕ} (h : stats.outboundQueueDwell.Counted n)
    (elapsed : ℕ) :
    (stats.recordOutboundQueueDwell elapsed).outboundQueueDwell.Counted (n + 1) := by
  obtain ⟨counts, hlen, hbuckets, hsum⟩ := h.buckets
  set i := outboundQueueDwellBucketIndex (UInt64.ofNat (min elapsed (2 ^ 64 - 1))) with hi
  have hlt : i < counts.length := hlen ▸ outboundQueueDwellBucketIndex_lt _
  refine ⟨?_, counts.modify i (· + 1), ?_, ?_, ?_⟩
  · rw [UInt64.ofNat_add, ← h.frames]
    rfl
  · rw [List.length_modify, hlen]
  · rw [map_modify_succ, ← hbuckets]
    rfl
  · rw [sum_modify_succ hlt, hsum]

theorem recordDwell {stats : TunnelRuntimeStats} {n : ℕ} (h : stats.outboundQueueDwell.Counted n)
    (now : ℕ) (queued : List QueuedKtpFrame) :
    (AsyncTunnelFrameQueue.recordDwell stats now queued).outboundQueueDwell.Counted
      (n + queued.length) := by
  induction queued generalizing stats n with
  | nil => exact h
  | cons first queued ih =>
    have := ih (h.record (now - first.enqueuedAt))
    rwa [List.length_cons, Nat.add_comm queued.length, ← Nat.add_assoc]

variable {dwell : TunnelQueueDwellStats} {n : ℕ}

/-- The buckets add up to the number of frames, in 64 bits. -/
theorem sum_buckets (h : dwell.Counted n) : dwell.microsBuckets.sum = dwell.frames := by
  obtain ⟨counts, -, hbuckets, rfl⟩ := h.buckets
  rw [hbuckets, h.frames]
  clear hbuckets h
  induction counts with
  | nil => rfl
  | cons count counts ih => rw [List.map_cons, List.sum_cons, List.sum_cons, ih, UInt64.ofNat_add]

/-- As long as the number of frames fits the counter, the sums are exact. -/
theorem toNat_eq (h : dwell.Counted n) (hn : n < 2 ^ 64) :
    dwell.frames.toNat = n ∧ (dwell.microsBuckets.map (·.toNat)).sum = n := by
  obtain ⟨counts, -, hbuckets, rfl⟩ := h.buckets
  have hcount : ∀ count ∈ counts, (UInt64.ofNat count).toNat = count := fun count hc =>
    UInt64.toNat_ofNat_of_lt' (lt_of_le_of_lt (List.single_le_sum (by simp) count hc) hn)
  refine ⟨by rw [h.frames]; exact UInt64.toNat_ofNat_of_lt' hn, ?_⟩
  have hmap : counts.map ((·.toNat) ∘ UInt64.ofNat) = counts :=
    (List.map_congr_left hcount).trans (List.map_id _)
  rw [hbuckets, List.map_map, hmap]

end TunnelQueueDwellStats.Counted

/-! ## Runs -/

namespace QueueRun

/-- What holds after any sequence of calls. -/
structure Inv (capacity : ℕ) (s : QueueRun) : Prop where
  capacity_eq : s.queue.capacity = capacity
  bounded : s.queue.frames.length ≤ capacity
  explains : Explains (log s.history) (handedOut s.history) (s.queue.frames.map (·.frame))
  items : (log s.history).map (·.item) = pushed s.history
  counted : s.stats.outboundQueueDwell.Counted (handedOut s.history).length

theorem inv_start (capacity : ℕ) : Inv capacity (start capacity) :=
  ⟨rfl, Nat.zero_le _, rfl, rfl, rfl,
    List.replicate outboundQueueDwellMicrosBuckets.length 0, rfl, rfl, rfl⟩

theorem log_snoc (history : List (QueueOp × QueueResult)) (call : QueueOp × QueueResult) :
    log (history ++ [call]) = note (log history) call := by
  rw [log, List.foldl_append]
  rfl

theorem pushed_snoc (history : List (QueueOp × QueueResult)) (call : QueueOp × QueueResult) :
    pushed (history ++ [call]) = pushed history ++ pushed [call] := List.filterMap_append

theorem handedOut_snoc (history : List (QueueOp × QueueResult)) (call : QueueOp × QueueResult) :
    handedOut (history ++ [call]) = handedOut history ++ handedOut [call] := List.flatMap_append

variable {capacity : ℕ} {s : QueueRun}

/-- What a call at time `now` can do: nothing (a push into a full queue, the start of a wait), push
a frame, hand out the first `k` frames, or discard the frames with `p`. -/
inductive Moves (s : QueueRun) (now : ℕ) : QueueRun → Prop
  | idle {call : QueueOp × QueueResult} (hlog : ∀ log, note log call = log)
    (hpushed : pushed [call] = []) (hout : handedOut [call] = []) :
    Moves s now ⟨s.queue, s.stats, s.history ++ [call]⟩
  | push (frame : KtpFrame) (hlt : s.queue.frames.length < s.queue.capacity) :
    Moves s now ⟨{ s.queue with frames := s.queue.frames ++ [⟨frame, now⟩] }, s.stats,
      s.history ++ [(.tryPush frame, .pushed (.ok ()))]⟩
  | drained (op : QueueOp)
    (hnote : ∀ log frames, note log (op, .frames frames) = handOut frames.length log)
    (hpushed : ∀ frames, pushed [(op, .frames frames)] = []) (k : ℕ) :
    Moves s now ⟨{ s.queue with frames := s.queue.frames.drop k },
      AsyncTunnelFrameQueue.recordDwell s.stats now (s.queue.frames.take k),
      s.history ++ [(op, .frames ((s.queue.frames.take k).map (·.frame)))]⟩
  | discarded (call : QueueOp × QueueResult) (p : KtpFrame → Bool)
    (hnote : ∀ log, note log call = discard p log) (hpushed : pushed [call] = [])
    (hout : handedOut [call] = []) :
    Moves s now ⟨{ s.queue with frames := s.queue.frames.filter fun queued => ¬p queued.frame },
      s.stats, s.history ++ [call]⟩

theorem moves_step (s : QueueRun) (timed : QueueOp × ℕ) : Moves s timed.2 (s.step timed) := by
  obtain ⟨op, now⟩ := timed
  cases op with
  | tryPush frame =>
    rcases s.queue.tryPush_cases frame now with ⟨_, he⟩ | ⟨hlt, he⟩
    · simp only [step, call, he]
      exact .idle (fun _ => rfl) rfl rfl
    · simp only [step, call, he]
      exact .push frame hlt
  | pop =>
    have hd : Moves s now _ := .drained .pop (fun _ _ => rfl) (fun _ => rfl) 1
    cases hf : s.queue.frames with
    | nil =>
      rw [hf] at hd
      simp only [step, call, AsyncTunnelFrameQueue.pop, hf]
      rw [show s.queue = { s.queue with frames := [] } by rw [← hf]]
      exact hd
    | cons first frames =>
      rw [hf] at hd
      simp only [step, call, AsyncTunnelFrameQueue.pop, hf]
      exact hd
  | drain maxFrames => exact .drained _ (fun _ _ => rfl) (fun _ => rfl) maxFrames
  | drainAfterWait maxFrames timeout =>
    simp only [step, call, AsyncTunnelFrameQueue.drainAfterWait]
    split_ifs with hzero hwait
    · subst hzero
      exact .drained (.drainAfterWait 0 timeout) (fun _ _ => rfl) (fun _ => rfl) 0
    · exact .idle (fun _ => rfl) rfl rfl
    · exact .drained _ (fun _ _ => rfl) (fun _ => rfl) maxFrames
  | drainWaited maxFrames => exact .drained _ (fun _ _ => rfl) (fun _ => rfl) maxFrames
  | clear =>
    have hc : Moves s now _ := .discarded (.clear, .discarded s.queue.frames.length)
      (fun _ => true) (fun _ => rfl) rfl rfl
    simpa [step, call, AsyncTunnelFrameQueue.clear] using hc
  | removeSessionFrames sessionId =>
    have hr : Moves s now _ := .discarded (.removeSessionFrames sessionId, .discarded
      (s.queue.removeSessionFrames sessionId).1)
      (fun frame => frame.sessionId = sessionId) (fun _ => rfl) rfl rfl
    simpa [step, call, AsyncTunnelFrameQueue.removeSessionFrames] using hr

/-- **One call.** -/
theorem Inv.moves (h : Inv capacity s) {s' : QueueRun} {now : ℕ} (hmoves : Moves s now s') :
    Inv capacity s' := by
  cases hmoves with
  | idle hlog hpushed hout =>
    refine ⟨h.capacity_eq, h.bounded, ?_, ?_, ?_⟩
    · rw [log_snoc, handedOut_snoc, hlog, hout, List.append_nil]
      exact h.explains
    · rw [log_snoc, pushed_snoc, hlog, hpushed, List.append_nil]
      exact h.items
    · rw [handedOut_snoc, hout, List.append_nil]
      exact h.counted
  | push frame hlt =>
    refine ⟨h.capacity_eq, ?_, ?_, ?_, ?_⟩
    · rw [h.capacity_eq] at hlt
      simpa using hlt
    · rw [log_snoc, handedOut_snoc, List.map_append]
      simpa [note, handedOut] using h.explains.append frame
    · rw [log_snoc, pushed_snoc, ← h.items]
      simp [note, pushed]
    · rw [handedOut_snoc]
      simpa [handedOut] using h.counted
  | drained op hnote hpushed k =>
    refine ⟨h.capacity_eq, ?_, ?_, ?_, ?_⟩
    · have hbounded := h.bounded
      simp only [List.length_drop]
      omega
    · have := h.explains.handOut ((s.queue.frames.take k).map (·.frame)).length
      rw [log_snoc, handedOut_snoc, hnote]
      -- A drain may ask for more frames than there are.
      rcases Nat.le_total k s.queue.frames.length with hk | hk
      · simpa [handedOut, hk, List.map_take, List.map_drop] using this
      · simpa [handedOut, hk, List.take_of_length_le, List.drop_eq_nil_of_le] using this
    · rw [log_snoc, pushed_snoc, hnote, map_item_handOut, hpushed, List.append_nil]
      exact h.items
    · rw [handedOut_snoc, List.length_append]
      simpa [handedOut] using h.counted.recordDwell now (s.queue.frames.take k)
  | discarded call p hnote hpushed hout =>
    refine ⟨h.capacity_eq, (List.length_filter_le _ _).trans h.bounded, ?_, ?_, ?_⟩
    · have := h.explains.discard p
      rw [log_snoc, handedOut_snoc, hnote, hout, List.append_nil]
      rwa [List.filter_map] at this
    · rw [log_snoc, pushed_snoc, hnote, map_item_discard, hpushed, List.append_nil]
      exact h.items
    · rw [handedOut_snoc, hout, List.append_nil]
      exact h.counted

theorem inv_step (h : Inv capacity s) (timed : QueueOp × ℕ) : Inv capacity (s.step timed) :=
  h.moves (s.moves_step timed)

/-- **Any sequence of calls.** -/
theorem inv_run (h : Inv capacity s) (ops : List (QueueOp × ℕ)) : Inv capacity (s.run ops) := by
  induction ops generalizing s with
  | nil => exact h
  | cons timed ops ih => exact ih (inv_step h timed)

/-- **What `pop` and the drains hand out**: as many of the first waiting frames as they ask for.
Only an empty queue is waited for. -/
theorem call_of_maxFrames (s : QueueRun) (now : ℕ) {op : QueueOp} {maxFrames : ℕ}
    (h : maxFrames ∈ op.maxFrames) :
    (s.call now op).1 = .frames ((s.queue.frames.map (·.frame)).take maxFrames) ∨
      (s.call now op).1 = .waiting ∧ s.queue.len = 0 ∧
        ∃ timeout, timeout ≠ 0 ∧ op = .drainAfterWait maxFrames timeout := by
  cases op with
  | tryPush _ | clear | removeSessionFrames _ => cases h
  | pop =>
    cases h
    refine .inl ?_
    rw [call, AsyncTunnelFrameQueue.pop]
    cases s.queue.frames <;> rfl
  | drain _ | drainWaited _ =>
    cases h
    exact .inl (congrArg QueueResult.frames (List.map_take ..))
  | drainAfterWait _ timeout =>
    cases h
    simp only [call, AsyncTunnelFrameQueue.drainAfterWait]
    split_ifs with hzero hwait
    · subst hzero
      exact .inl rfl
    · exact .inr ⟨rfl, List.length_eq_zero_iff.mpr hwait.1, timeout, hwait.2, rfl⟩
    · exact .inl (congrArg QueueResult.frames (List.map_take ..))

theorem length_sub_length_filter {α : Type} (p : α → Bool) (xs : List α) :
    xs.length - (xs.filter fun x => ¬p x).length = xs.countP p := by
  have := List.length_eq_countP_add_countP p (l := xs)
  rw [← List.countP_eq_length_filter]
  simp only [Bool.not_eq_true, Bool.decide_eq_false] at this ⊢
  omega

/-- **The outbound queue is a bounded FIFO with exact removal**, after any calls on a new queue.
It never holds more than its capacity. A push fails exactly at the capacity, and then changes
nothing. The frames pushed, minus the discarded ones, are the frames handed out and then those
waiting, in order. `pop` and the drains hand out the first waiting frames, as many as they ask for
and there are; only an empty queue makes `drain_after_wait` wait. `clear` returns the number of
waiting frames, `remove_session_frames` the number of those of its session; these are the ones it
discards. The dwell counters have counted the frames handed out, and the histogram adds up to them:
in 64 bits in any case, exactly as long as their number fits. -/
theorem bounded_fifo (capacity : ℕ) (ops : List (QueueOp × ℕ)) :
    let s := (start capacity).run ops
    s.queue.len ≤ capacity ∧
    (∀ frame now, if s.queue.len = capacity
      then s.queue.tryPush frame now = (.error .backpressureLimit, s.queue)
      else (s.queue.tryPush frame now).1 = .ok ()) ∧
    (log s.history).map (·.item) = pushed s.history ∧
    Explains (log s.history) (handedOut s.history) (s.queue.frames.map (·.frame)) ∧
    (∀ op now, ∀ maxFrames ∈ op.maxFrames,
      (∃ frames, (s.call now op).1 = .frames frames ∧
          frames <+: s.queue.frames.map (·.frame) ∧
          frames.length = min maxFrames s.queue.len) ∨
        (s.call now op).1 = .waiting ∧ s.queue.len = 0 ∧
          ∃ timeout, timeout ≠ 0 ∧ op = .drainAfterWait maxFrames timeout) ∧
    s.queue.clear.1 = (log s.history).countP (·.fate = .queued) ∧
    (∀ sessionId, (s.queue.removeSessionFrames sessionId).1 =
      (log s.history).countP fun entry => entry.fate = .queued ∧
        entry.item.sessionId = sessionId) ∧
    s.stats.outboundQueueDwell.frames = UInt64.ofNat (handedOut s.history).length ∧
    s.stats.outboundQueueDwell.microsBuckets.sum = s.stats.outboundQueueDwell.frames ∧
    ((handedOut s.history).length < 2 ^ 64 →
      s.stats.outboundQueueDwell.frames.toNat = (handedOut s.history).length ∧
      (s.stats.outboundQueueDwell.microsBuckets.map (·.toNat)).sum =
        (handedOut s.history).length) := by
  intro s
  have h : Inv capacity s := inv_run (inv_start capacity) ops
  refine ⟨h.bounded, fun frame now => ?_, h.items, h.explains, ?_, ?_, fun sessionId => ?_,
    h.counted.frames, h.counted.sum_buckets, h.counted.toNat_eq⟩
  · have hb := h.bounded
    have hc := h.capacity_eq
    rcases s.queue.tryPush_cases frame now with ⟨hge, he⟩ | ⟨hlt, he⟩
    · rw [if_pos (show s.queue.len = capacity by unfold AsyncTunnelFrameQueue.len; omega), he]
    · rw [if_neg (show s.queue.len ≠ capacity by unfold AsyncTunnelFrameQueue.len; omega), he]
  · intro op now maxFrames hop
    refine (s.call_of_maxFrames now hop).imp_left fun hcall => ⟨_, hcall, List.take_prefix _ _, ?_⟩
    rw [List.length_take, List.length_map, AsyncTunnelFrameQueue.len]
  · have := h.explains.countP_queued fun _ => true
    simpa [AsyncTunnelFrameQueue.clear] using this.symm
  · have := h.explains.countP_queued fun frame => frame.sessionId = sessionId
    rw [List.countP_map] at this
    simp only [decide_eq_true_eq] at this
    rw [this]
    simpa [AsyncTunnelFrameQueue.removeSessionFrames, Function.comp_def] using
      length_sub_length_filter (fun queued : QueuedKtpFrame => queued.frame.sessionId = sessionId)
        s.queue.frames

/-! ### A queue of two frames -/

def sessionByte (sessionId : UInt64) (byte : UInt8) : KtpFrame :=
  ⟨.sessionData, .ingress, 0, sessionId, [byte]⟩

/-- The third push is refused. A drain makes room, and the frame of session 2 is discarded. -/
def refilledQueue : QueueRun :=
  (start 2).run [(.tryPush (sessionByte 1 10), 0), (.tryPush (sessionByte 2 20), 1),
    (.tryPush (sessionByte 1 11), 2), (.drain 1, 3), (.tryPush (sessionByte 1 12), 4),
    (.removeSessionFrames 2, 5), (.tryPush (sessionByte 1 13), 6)]

/-- The queue is full again: a push is refused, a drain that asks for five frames gets two, and the
dwell counters have counted the frame of the first drain. -/
theorem bounded_fifo_refilled :
    log refilledQueue.history = [⟨sessionByte 1 10, .handedOut⟩, ⟨sessionByte 2 20, .discarded⟩,
        ⟨sessionByte 1 12, .queued⟩, ⟨sessionByte 1 13, .queued⟩] ∧
      refilledQueue.queue.tryPush (sessionByte 1 14) 7 =
        (.error .backpressureLimit, refilledQueue.queue) ∧
      (∃ frames, (refilledQueue.call 7 (.drain 5)).1 = .frames frames ∧
        frames <+: [sessionByte 1 12, sessionByte 1 13] ∧ frames.length = 2) ∧
      (refilledQueue.queue.removeSessionFrames 1).1 = 2 ∧
      refilledQueue.stats.outboundQueueDwell.frames = 1 := by
  obtain ⟨-, hpush, -, -, hdrain, -, hremove, hframes, -⟩ := bounded_fifo 2
    [(.tryPush (sessionByte 1 10), 0), (.tryPush (sessionByte 2 20), 1),
      (.tryPush (sessionByte 1 11), 2), (.drain 1, 3), (.tryPush (sessionByte 1 12), 4),
      (.removeSessionFrames 2, 5), (.tryPush (sessionByte 1 13), 6)]
  refine ⟨by decide +kernel, hpush (sessionByte 1 14) 7, ?_, hremove 1, hframes⟩
  refine (hdrain (.drain 5) 7 5 rfl).resolve_right ?_
  rintro ⟨-, -, timeout, -, hop⟩
  cases hop

end QueueRun

end KeliAgent
