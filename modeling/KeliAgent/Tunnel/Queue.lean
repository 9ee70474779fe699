import KeliAgent.Lib.Text
import KeliAgent.Ktp.Frame

/-!
# The outbound frame queue and the runtime counters

`AsyncTunnelFrameQueue` and `TunnelRuntimeStats` of `tunnel_async_runtime.rs`. All sessions of a
runtime push into one bounded queue; a push into a full queue is refused. The queue and the runtime
share the counters, which the model passes to the operations that write them. Times are in
microseconds.
-/

namespace KeliAgent

structure TunnelRuntimeError where
  code : String
  message : String
  deriving DecidableEq, Repr

namespace TunnelRuntimeError

def backpressureLimit : TunnelRuntimeError :=
  ⟨"backpressure_limit", "tunnel outbound frame queue is full"⟩

def runtimeUnavailable (message : String) : TunnelRuntimeError := ⟨"runtime_unavailable", message⟩

def targetConnectFailed (message : String) : TunnelRuntimeError :=
  ⟨"target_connect_failed", message⟩

def sessionLimit (message : String) : TunnelRuntimeError := ⟨"session_limit", message⟩

def sessionPendingBytesLimit (message : String) : TunnelRuntimeError :=
  ⟨"session_pending_bytes_limit", message⟩

def display (error : TunnelRuntimeError) : String :=
  if Text.trim error.message = "" then error.code else error.code ++ ": " ++ error.message

end TunnelRuntimeError

/-! ## Counters -/

/-- `OUTBOUND_QUEUE_DWELL_MICROS_BUCKETS`. -/
def outboundQueueDwellMicrosBuckets : List UInt64 :=
  [10, 25, 50, 100, 250, 500, 1000, 2500, 5000, 10000, 25000, 50000, 100000, 250000, 500000,
    1000000, UInt64.ofNat (2 ^ 64 - 1)]

/-- `OUTBOUND_QUEUE_DWELL_RECENT_SAMPLES`. -/
def outboundQueueDwellRecentSamples : ℕ := 16

def outboundQueueDwellBucketIndex (elapsedMicros : UInt64) : ℕ :=
  (outboundQueueDwellMicrosBuckets.findIdx? fun bucket => elapsedMicros ≤ bucket).getD
    (outboundQueueDwellMicrosBuckets.length - 1)

/-- How long frames waited in the queue, over the life of the runtime. -/
structure TunnelQueueDwellStats where
  frames : UInt64
  microsTotal : UInt64
  microsMax : UInt64
  microsBuckets : List UInt64
  deriving DecidableEq, Repr

/-- A rule that was never counted is the same as a count of zero. -/
structure TunnelRuntimeStats where
  activeSessions : ℕ
  totalSessions : UInt64
  bytesIn : UInt64
  bytesOut : UInt64
  ruleSessionCounts : UInt64 → ℕ
  outboundQueueDwell : TunnelQueueDwellStats
  recentOutboundQueueDwell : List UInt64

namespace TunnelRuntimeStats

def default : TunnelRuntimeStats where
  activeSessions := 0
  totalSessions := 0
  bytesIn := 0
  bytesOut := 0
  ruleSessionCounts := fun _ => 0
  outboundQueueDwell :=
    { frames := 0, microsTotal := 0, microsMax := 0
      microsBuckets := List.replicate outboundQueueDwellMicrosBuckets.length 0 }
  recentOutboundQueueDwell := []

/-! `session_opened` and `session_closed` touch one atomic counter after the other; each of these
is one step. -/

def countActive (stats : TunnelRuntimeStats) : TunnelRuntimeStats :=
  { stats with activeSessions := stats.activeSessions + 1 }

def countTotal (stats : TunnelRuntimeStats) : TunnelRuntimeStats :=
  { stats with totalSessions := stats.totalSessions + 1 }

def countRule (stats : TunnelRuntimeStats) (ruleId : UInt64) : TunnelRuntimeStats :=
  { stats with ruleSessionCounts :=
      Function.update stats.ruleSessionCounts ruleId (stats.ruleSessionCounts ruleId + 1) }

def uncountActive (stats : TunnelRuntimeStats) : TunnelRuntimeStats :=
  { stats with activeSessions := stats.activeSessions - 1 }

def uncountRule (stats : TunnelRuntimeStats) (ruleId : UInt64) : TunnelRuntimeStats :=
  { stats with ruleSessionCounts :=
      Function.update stats.ruleSessionCounts ruleId (stats.ruleSessionCounts ruleId - 1) }

def sessionOpened (stats : TunnelRuntimeStats) (ruleId : UInt64) : TunnelRuntimeStats :=
  stats.countActive.countTotal.countRule ruleId

def sessionClosed (stats : TunnelRuntimeStats) (ruleId : UInt64) : TunnelRuntimeStats :=
  stats.uncountActive.uncountRule ruleId

def countBytesIn (stats : TunnelRuntimeStats) (bytes : ℕ) : TunnelRuntimeStats :=
  { stats with bytesIn := stats.bytesIn + UInt64.ofNat bytes }

def countBytesOut (stats : TunnelRuntimeStats) (bytes : ℕ) : TunnelRuntimeStats :=
  { stats with bytesOut := stats.bytesOut + UInt64.ofNat bytes }

def recordOutboundQueueDwell (stats : TunnelRuntimeStats) (elapsed : ℕ) : TunnelRuntimeStats :=
  let elapsedMicros := UInt64.ofNat (min elapsed (2 ^ 64 - 1))
  let dwell := stats.outboundQueueDwell
  let recent := stats.recentOutboundQueueDwell
  { stats with
    outboundQueueDwell :=
      { frames := dwell.frames + 1
        microsTotal := dwell.microsTotal + elapsedMicros
        microsMax := max dwell.microsMax elapsedMicros
        microsBuckets :=
          dwell.microsBuckets.modify (outboundQueueDwellBucketIndex elapsedMicros) (· + 1) }
    recentOutboundQueueDwell :=
      (if outboundQueueDwellRecentSamples ≤ recent.length then recent.drop 1 else recent) ++
        [elapsedMicros] }

end TunnelRuntimeStats

/-! ## The queue -/

structure QueuedKtpFrame where
  frame : KtpFrame
  enqueuedAt : ℕ
  deriving DecidableEq, Repr

structure AsyncTunnelFrameQueue where
  frames : List QueuedKtpFrame
  capacity : ℕ
  deriving DecidableEq, Repr

namespace AsyncTunnelFrameQueue

def new (capacity : ℕ) : AsyncTunnelFrameQueue := ⟨[], capacity⟩

def len (queue : AsyncTunnelFrameQueue) : ℕ := queue.frames.length

def tryPush (queue : AsyncTunnelFrameQueue) (frame : KtpFrame) (now : ℕ) :
    Except TunnelRuntimeError Unit × AsyncTunnelFrameQueue :=
  if queue.capacity ≤ queue.frames.length then (.error .backpressureLimit, queue)
  else (.ok (), { queue with frames := queue.frames ++ [⟨frame, now⟩] })

/-- `into_frame_with_dwell`, for the frames that leave the queue at `now`. -/
def recordDwell (stats : TunnelRuntimeStats) (now : ℕ) (queued : List QueuedKtpFrame) :
    TunnelRuntimeStats :=
  queued.foldl (fun stats queued => stats.recordOutboundQueueDwell (now - queued.enqueuedAt)) stats

/-- The first `maxFrames` frames leave the queue. -/
def drain (queue : AsyncTunnelFrameQueue) (stats : TunnelRuntimeStats) (maxFrames now : ℕ) :
    List KtpFrame × AsyncTunnelFrameQueue × TunnelRuntimeStats :=
  let queued := queue.frames.take maxFrames
  (queued.map (·.frame), { queue with frames := queue.frames.drop maxFrames },
    recordDwell stats now queued)

/-- `drain_after_wait` up to its wait. An empty queue is waited for, unless the timeout is zero:
the lock is then given back, which is the result `none`. -/
def drainAfterWait (queue : AsyncTunnelFrameQueue) (stats : TunnelRuntimeStats)
    (maxFrames timeout now : ℕ) :
    Option (List KtpFrame) × AsyncTunnelFrameQueue × TunnelRuntimeStats :=
  if maxFrames = 0 then (some [], queue, stats)
  else if queue.frames = [] ∧ timeout ≠ 0 then (none, queue, stats)
  else
    let (frames, queue', stats') := queue.drain stats maxFrames now
    (some frames, queue', stats')

/-- `drain_after_wait` after its wait, which ends with a frame in the queue or at the timeout. -/
def drainWaited (queue : AsyncTunnelFrameQueue) (stats : TunnelRuntimeStats) (maxFrames now : ℕ) :
    List KtpFrame × AsyncTunnelFrameQueue × TunnelRuntimeStats :=
  queue.drain stats maxFrames now

def pop (queue : AsyncTunnelFrameQueue) (stats : TunnelRuntimeStats) (now : ℕ) :
    Option KtpFrame × AsyncTunnelFrameQueue × TunnelRuntimeStats :=
  match queue.frames with
  | [] => (none, queue, stats)
  | queued :: frames => (some queued.frame, { queue with frames }, recordDwell stats now [queued])

/-- The number of frames discarded, and the empty queue. -/
def clear (queue : AsyncTunnelFrameQueue) : ℕ × AsyncTunnelFrameQueue :=
  (queue.frames.length, { queue with frames := [] })

/-- The number of frames discarded, and the queue without the frames of the session. -/
def removeSessionFrames (queue : AsyncTunnelFrameQueue) (sessionId : UInt64) :
    ℕ × AsyncTunnelFrameQueue :=
  let frames := queue.frames.filter fun queued => queued.frame.sessionId ≠ sessionId
  (queue.frames.length - frames.length, { queue with frames })

/-- **A push is refused exactly by a full queue**, and then changes nothing. -/
theorem tryPush_cases (queue : AsyncTunnelFrameQueue) (frame : KtpFrame) (now : ℕ) :
    (queue.capacity ≤ queue.frames.length ∧
        queue.tryPush frame now = (.error .backpressureLimit, queue)) ∨
      (queue.frames.length < queue.capacity ∧
        queue.tryPush frame now =
          (.ok (), { queue with frames := queue.frames ++ [⟨frame, now⟩] })) := by
  by_cases h : queue.capacity ≤ queue.frames.length
  · exact Or.inl ⟨h, if_pos h⟩
  · exact Or.inr ⟨not_le.mp h, if_neg h⟩

end AsyncTunnelFrameQueue

end KeliAgent
