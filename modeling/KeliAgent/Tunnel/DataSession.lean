import KeliAgent.Lib.Program
import KeliAgent.Tunnel.Ready

/-!
# The data session

`run_tunnel_data_session_with_ready_source_runtime_diagnostics_and_reporter` of `tunnel_data.rs`:
the agent says hello, waits for the acknowledgement, announces its READY state, and then answers
frames of the server and passes on what its session runtime returns. The socket, the source of READY
states and the session runtime are an arbitrary world.

* `runTunnelDataSession`: the session as a program that leaves its calls of the world and their
  answers in a trace.
* `sentFrames`, `returnedFrames`, `readFrames`, `handled`: what a trace says.
-/

namespace KeliAgent

open Wire Effect

/-! ## Payloads of the connection -/

namespace TunnelData

def tunnelDataFrameBatchLimit : ℕ := 64

def writeCount (output : List UInt8) (len : ℕ) (field : String) :
    Except TransportError (List UInt8) :=
  if len < 2 ^ 16 then .ok (output ++ toBe 2 len)
  else .error (.requestFailed (field ++ " too long: exceeds u16"))

def writeString (output : List UInt8) (value : String) : Except TransportError (List UInt8) := do
  let output ← writeCount output value.utf8ByteSize "string length"
  return output ++ value.toUTF8.toList

def writeStringList (output : List UInt8) (values : List String) :
    Except TransportError (List UInt8) := do
  let output ← writeCount output values.length "string list count"
  values.foldlM writeString output

def writeU64List (output : List UInt8) (values : List UInt64) :
    Except TransportError (List UInt8) := do
  let output ← writeCount output values.length "u64 list count"
  return output ++ values.flatMap fun value => toBe 8 value.toNat

def encodeHelloPayload (agentIdHint agentVersion revision : String) :
    Except TransportError (List UInt8) := do
  let payload ← writeString [] agentIdHint
  let payload ← writeString payload agentVersion
  let payload ← writeString payload revision
  writeStringList payload ["tcp", "multiplex", "flow_control", "stats"]

def writeFailedRule (payload : List UInt8) (failure : TunnelDataRuleFailure) :
    Except TransportError (List UInt8) := do
  let payload ← writeString (payload ++ toBe 8 failure.ruleId.toNat) failure.status
  writeString payload failure.error

def encodeReadyPayload (ready : TunnelDataReadyState) : Except TransportError (List UInt8) := do
  let payload ← writeString [] ready.revision
  let payload ← writeU64List payload ready.ingressRuleIds
  let payload ← writeU64List payload ready.egressRuleIds
  let payload ← writeCount payload ready.failedRules.length "failed rule count"
  ready.failedRules.foldlM writeFailedRule payload

def isNonfatalConnectError : TransportError → Bool
  | .requestFailed message =>
    let message := Text.lowercase message
    Text.contains message "404" || Text.contains message "403" ||
      Text.contains message "feature_disabled"
  | .socketClosed => true
  | .invalidClientToken .. | .emptyEndpoint | .emptyToken | .unsupportedScheme _ => false

/-- The names that `{:?}` prints. -/
def frameTypeName : FrameType → String
  | .hello => "Hello"
  | .helloAck => "HelloAck"
  | .ready => "Ready"
  | .sessionOpen => "SessionOpen"
  | .sessionAccept => "SessionAccept"
  | .sessionData => "SessionData"
  | .sessionWindow => "SessionWindow"
  | .sessionClose => "SessionClose"
  | .sessionError => "SessionError"
  | .ping => "Ping"
  | .pong => "Pong"
  | .stats => "Stats"

end TunnelData

/-! ## The world of a session -/

/-- The transport and its socket, the source of READY states, and the session runtime. They share a
world, since the runtime also changes what the source says. -/
structure DataSessionWorld (W : Type) where
  connectTunnelData : W → Except TransportError Unit × W
  sendKtpFrame : KtpFrame → W → Except TransportError Unit × W
  sendKtpFrameBatch : List KtpFrame → W → Except TransportError Unit × W
  readFrame : W → Except TransportError (List UInt8) × W
  readOptionalKtpFrameBatch : ℕ → W → Except TransportError (Option (List KtpFrame)) × W
  readOptionalKtpFrameBatchWithTimeout :
    ℕ → ℕ → W → Except TransportError (Option (List KtpFrame)) × W
  currentReady : W → TunnelDataReadyState × W
  tick : W → Except TransportError Unit × W
  closeAllSessions : String → W → Except TransportError Unit × W
  handleServerFrame : KtpFrame → W → Except TransportError (List KtpFrame) × W
  nextClientFrames : ℕ → W → Except TransportError (List KtpFrame) × W
  nextClientFramesAfterWait : ℕ → ℕ → W → Except TransportError (List KtpFrame) × W
  clientFrameBatchLimit : ℕ → W → ℕ × W
  tunnelDataClientFrameWaitTimeout : W → Option ℕ × W
  tunnelDataSocketIdleTimeout : W → Option ℕ × W

/-- The calls by which the session asks its runtime for frames. -/
inductive RuntimeCall where
  | handleServerFrame (frame : KtpFrame)
  | nextClientFrames (maxFrames : ℕ)
  | nextClientFramesAfterWait (maxFrames timeout : ℕ)
  deriving DecidableEq

def RuntimeCall.answer {W : Type} (world : DataSessionWorld W) :
    RuntimeCall → W → Except TransportError (List KtpFrame) × W
  | .handleServerFrame frame => world.handleServerFrame frame
  | .nextClientFrames maxFrames => world.nextClientFrames maxFrames
  | .nextClientFramesAfterWait maxFrames timeout => world.nextClientFramesAfterWait maxFrames timeout

/-- Why a frame is sent. -/
inductive FrameOrigin where
  | hello
  | ready (state : TunnelDataReadyState)
  | pong
  | runtime
  deriving DecidableEq

inductive DataSessionEvent where
  | connect (result : Except TransportError Unit)
  | send (origin : FrameOrigin) (frames : List KtpFrame) (result : Except TransportError Unit)
  | readFrame (result : Except TransportError (List UInt8))
  | readBatch (result : Except TransportError (Option (List KtpFrame)))
  | handle (frame : KtpFrame)
  | returned (call : RuntimeCall) (result : Except TransportError (List KtpFrame))
  | closeAllSessions (reason : String)

/-- How the loop of a session ends; `unfinished` if it is observed before its end. -/
inductive SessionEnd where
  | closed
  | failed (error : TransportError)
  | unfinished

abbrev DataSession (W : Type) := Program W DataSessionEvent SessionEnd

inductive SendFrameOutcome where
  | sent | closed
  deriving DecidableEq

namespace DataSession

open Program TunnelData

variable {W : Type}

/-- The operator `?`. -/
def orFail {α : Type} : Except TransportError α → DataSession W α
  | .ok a => pure a
  | .error error => stop (.failed error)

def sendOutcome : Except TransportError Unit → DataSession W SendFrameOutcome
  | .ok () => pure .sent
  | .error .socketClosed => pure .closed
  | .error error => stop (.failed error)

/-- `if … == SendFrameOutcome::Closed` with `return Ok(())`. -/
def unlessClosed : SendFrameOutcome → DataSession W Unit
  | .sent => pure ()
  | .closed => stop .closed

variable (world : DataSessionWorld W)

def sendTunnelDataKtpFrame (origin : FrameOrigin) (frame : KtpFrame) :
    DataSession W SendFrameOutcome := do
  let result ← perform (.send origin [frame]) (world.sendKtpFrame frame)
  sendOutcome result

def sendTunnelDataKtpFrameBatch (frames : List KtpFrame) : DataSession W SendFrameOutcome := do
  let result ← perform (.send .runtime frames) (world.sendKtpFrameBatch frames)
  sendOutcome result

def sendReadyFrame (ready : TunnelDataReadyState) : DataSession W SendFrameOutcome := do
  let payload ← orFail (encodeReadyPayload ready)
  sendTunnelDataKtpFrame world (.ready ready) (.connection .ready payload)

def checkHelloAck : Except TransportError (List UInt8) → DataSession W Unit
  | .error .socketClosed => stop .closed
  | .error error => stop (.failed error)
  | .ok bytes =>
    match decodeFrame bytes ktpMaxPayloadLen with
    | .error error => stop (.failed (.requestFailed error.display))
    | .ok frame =>
      if frame.frameType ≠ .helloAck then
        stop (.failed (.requestFailed
          ("expected tunnel data hello_ack, got " ++ frameTypeName frame.frameType)))
      else pure ()

def readTunnelDataHelloAck : DataSession W Unit := do
  let result ← perform .readFrame world.readFrame
  checkHelloAck result

/-- The frames that the runtime returns to a call. -/
def takeReturned (call : RuntimeCall) : DataSession W (List KtpFrame) := do
  let result ← perform (.returned call) (call.answer world)
  orFail result

def tunnelSessionRuntimeFrameBatchLimit : DataSession W ℕ := do
  let limit ← ask (world.clientFrameBatchLimit tunnelDataFrameBatchLimit)
  return max 1 (min limit tunnelDataFrameBatchLimit)

def sendTunnelSessionRuntimeFrameBatch (frames : List KtpFrame) : DataSession W ℕ := do
  let _ ← sendTunnelDataKtpFrameBatch world frames
  return frames.length

/-- One round of the loop of `drain_tunnel_session_runtime_frames`. -/
def drainRound (maxFrames count : ℕ) : DataSession W (ℕ ⊕ ℕ) := do
  let frames ← takeReturned world (.nextClientFrames maxFrames)
  if frames = [] then return .inr count
  else
    let sent ← sendTunnelSessionRuntimeFrameBatch world frames
    return .inl (count + sent)

def drainTunnelSessionRuntimeFrames (fuel : ℕ) : DataSession W ℕ := do
  let maxFrames ← tunnelSessionRuntimeFrameBatchLimit world
  iterate .unfinished (drainRound world maxFrames) fuel 0

def drainTunnelSessionRuntimeFramesAfterWait (fuel timeout : ℕ) : DataSession W ℕ := do
  let maxFrames ← tunnelSessionRuntimeFrameBatchLimit world
  let frames ← takeReturned world (.nextClientFramesAfterWait maxFrames timeout)
  if frames = [] then return 0
  else
    let sent ← sendTunnelSessionRuntimeFrameBatch world frames
    let rest ← drainTunnelSessionRuntimeFrames world fuel
    return sent + rest

def sendResponse (_ : Unit) (response : KtpFrame) : DataSession W Unit := do
  let _ ← sendTunnelDataKtpFrame world .runtime response

/-- What is done with a frame, by its type. -/
def answerFrame (frame : KtpFrame) : DataSession W Unit :=
  match frame.frameType with
  | .ping => do
    let _ ← sendTunnelDataKtpFrame world .pong (.connection .pong frame.payload)
  | .sessionOpen | .sessionAccept | .sessionData | .sessionWindow | .sessionClose
  | .sessionError => do
    let responses ← takeReturned world (.handleServerFrame frame)
    fold (sendResponse world) () responses
  | _ => pure ()

def handleTunnelDataSessionFrame (_ : Unit) (frame : KtpFrame) : DataSession W Unit := do
  emit (.handle frame)
  answerFrame world frame

def handleTunnelDataSessionFrames (frames : List KtpFrame) : DataSession W Unit :=
  fold (handleTunnelDataSessionFrame world) () frames

/-- The READY state is sent again when it has changed. -/
def refreshReady (lastReady currentReady : TunnelDataReadyState) :
    DataSession W TunnelDataReadyState :=
  if currentReady ≠ lastReady then do
    let outcome ← sendReadyFrame world currentReady
    unlessClosed outcome
    return currentReady
  else pure lastReady

/-- A runtime that asks for it is waited for when it had nothing to send. -/
def waitForFrames (fuel sent : ℕ) : DataSession W Unit :=
  if sent = 0 then do
    let timeout ← ask world.tunnelDataClientFrameWaitTimeout
    match timeout with
    | some timeout => do let _ ← drainTunnelSessionRuntimeFramesAfterWait world fuel timeout
    | none => pure ()
  else pure ()

def readBatch : DataSession W (Except TransportError (Option (List KtpFrame))) := do
  let timeout ← ask world.tunnelDataSocketIdleTimeout
  match timeout with
  | some timeout =>
    perform .readBatch
      (world.readOptionalKtpFrameBatchWithTimeout timeout tunnelDataFrameBatchLimit)
  | none => perform .readBatch (world.readOptionalKtpFrameBatch tunnelDataFrameBatchLimit)

def handleRead : Except TransportError (Option (List KtpFrame)) → DataSession W Unit
  | .ok (some frames) => handleTunnelDataSessionFrames world frames
  | .ok none => pure ()
  | .error .socketClosed => stop .closed
  | .error error => stop (.failed error)

/-- One round of the main loop. -/
def sessionRound (fuel : ℕ) (lastReady : TunnelDataReadyState) :
    DataSession W (TunnelDataReadyState ⊕ Empty) := do
  let ticked ← ask world.tick
  orFail ticked
  let currentReady ← ask world.currentReady
  let lastReady ← refreshReady world lastReady currentReady
  let sent ← drainTunnelSessionRuntimeFrames world fuel
  waitForFrames world fuel sent
  let result ← readBatch world
  handleRead world result
  return .inl lastReady

def sendHello (agentIdHint agentVersion : String) : DataSession W Unit := do
  let helloReady ← ask world.currentReady
  let payload ← orFail (encodeHelloPayload agentIdHint agentVersion helloReady.revision)
  let outcome ← sendTunnelDataKtpFrame world .hello (.connection .hello payload)
  unlessClosed outcome

def sendFirstReady : DataSession W TunnelDataReadyState := do
  let ticked ← ask world.tick
  orFail ticked
  let ready ← ask world.currentReady
  let outcome ← sendReadyFrame world ready
  unlessClosed outcome
  return ready

/-- `run_connected_…`, which only ends early. -/
def runConnectedTunnelDataSession (agentIdHint agentVersion : String) (fuel : ℕ) :
    DataSession W Empty := do
  sendHello world agentIdHint agentVersion
  readTunnelDataHelloAck world
  let lastReady ← sendFirstReady world
  iterate .unfinished (sessionRound world fuel) fuel lastReady

def cleanup : DataSession W (Except TransportError Unit) :=
  perform (fun _ => .closeAllSessions "carrier_disconnect")
    (world.closeAllSessions "carrier_disconnect")

/-- The end of the loop and that of the cleanup; the error of the loop comes first. -/
def finish : Except SessionEnd Empty → DataSession W (Except TransportError Unit)
  | .error .closed => cleanup world
  | .error (.failed error) => do
    let _ ← cleanup world
    return .error error
  | .error .unfinished => stop .unfinished

def runTunnelDataSession (agentIdHint agentVersion : String) (fuel : ℕ) :
    DataSession W (Except TransportError Unit) := do
  let connected ← perform .connect world.connectTunnelData
  match connected with
  | .error error => return if isNonfatalConnectError error then .ok () else .error error
  | .ok () => do
    let ended ← attempt (runConnectedTunnelDataSession world agentIdHint agentVersion fuel)
    finish world ended

end DataSession

/-! ## What a trace says -/

namespace DataSessionEvent

def sent : DataSessionEvent → List (FrameOrigin × KtpFrame)
  | .send origin frames _ => frames.map (origin, ·)
  | _ => []

def ping : DataSessionEvent → List (List UInt8)
  | .handle frame => if frame.frameType = .ping then [frame.payload] else []
  | _ => []

def returnedFrames : DataSessionEvent → List KtpFrame
  | .returned _ (.ok frames) => frames
  | _ => []

def readFrames : DataSessionEvent → List KtpFrame
  | .readBatch (.ok frames) => frames.getD []
  | _ => []

def handled : DataSessionEvent → List KtpFrame
  | .handle frame => [frame]
  | _ => []

/-- The event is not a call of the runtime that failed. -/
def returns : DataSessionEvent → Bool
  | .returned _ (.error _) => false
  | _ => true

def isClose : DataSessionEvent → Bool
  | .closeAllSessions _ => true
  | _ => false

def isRead : DataSessionEvent → Bool
  | .readFrame _ | .readBatch _ => true
  | _ => false

end DataSessionEvent

/-- The READY state that the frame announces. -/
def FrameOrigin.ready? : FrameOrigin → Option TunnelDataReadyState
  | .ready state => some state
  | _ => none

/-- The frame is one of its origin. -/
def FrameOrigin.Fits : FrameOrigin → KtpFrame → Prop
  | .hello, frame => ∃ payload, frame = .connection .hello payload
  | .ready state, frame =>
    ∃ payload, TunnelData.encodeReadyPayload state = .ok payload ∧ frame = .connection .ready payload
  | .pong, frame => ∃ payload, frame = .connection .pong payload
  | .runtime, _ => True

namespace DataSession

abbrev Trace := List DataSessionEvent

section Projections

variable (t : Trace)

def sentFrames : List (FrameOrigin × KtpFrame) := t.flatMap (·.sent)

def readies : List TunnelDataReadyState := (sentFrames t).filterMap (·.1.ready?)

def pongs : List (List UInt8) :=
  (sentFrames t).filterMap fun frame => if frame.1 = .pong then some frame.2.payload else none

def runtimeFrames : List KtpFrame :=
  (sentFrames t).filterMap fun frame => if frame.1 = .runtime then some frame.2 else none

def pings : List (List UInt8) := t.flatMap (·.ping)

def returnedFrames : List KtpFrame := t.flatMap (·.returnedFrames)

/-- The frames of the batches that were read, and those that were handled. -/
def readFrames : List KtpFrame := t.flatMap (·.readFrames)

def handled : List KtpFrame := t.flatMap (·.handled)

def NotClosed : Prop := ∀ event ∈ t, event.isClose = false

end Projections

theorem sentFrames_append (t t' : Trace) : sentFrames (t ++ t') = sentFrames t ++ sentFrames t' :=
  List.flatMap_append

theorem readies_append (t t' : Trace) : readies (t ++ t') = readies t ++ readies t' := by
  rw [readies, sentFrames_append, List.filterMap_append, readies, readies]

theorem pongs_append (t t' : Trace) : pongs (t ++ t') = pongs t ++ pongs t' := by
  rw [pongs, sentFrames_append, List.filterMap_append, pongs, pongs]

theorem runtimeFrames_append (t t' : Trace) :
    runtimeFrames (t ++ t') = runtimeFrames t ++ runtimeFrames t' := by
  rw [runtimeFrames, sentFrames_append, List.filterMap_append, runtimeFrames, runtimeFrames]

theorem pings_append (t t' : Trace) : pings (t ++ t') = pings t ++ pings t' := List.flatMap_append

theorem returnedFrames_append (t t' : Trace) :
    returnedFrames (t ++ t') = returnedFrames t ++ returnedFrames t' :=
  List.flatMap_append

theorem readFrames_append (t t' : Trace) : readFrames (t ++ t') = readFrames t ++ readFrames t' :=
  List.flatMap_append

theorem handled_append (t t' : Trace) : handled (t ++ t') = handled t ++ handled t' :=
  List.flatMap_append

end DataSession

end KeliAgent
