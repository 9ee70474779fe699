import KeliAgent.Lib.Program
import KeliAgent.Transport

/-!
# The report loop

`run_report_cycles_with_ping_delay_and_token_recovery` of `runtime.rs`. In each cycle the agent
uploads its basic information when that is due, connects if it has no socket, answers the messages
of the server, sends a report and sometimes a ping, and sleeps while it goes on answering. The HTTP
and websocket transports, the token recovery and all that messages are handed to are an arbitrary
world.

Intervals are cycle counts here: `heartbeatEvery`, `basicInfoEvery` and the number of polls in a
sleep are computed from `f64` seconds in the source.
-/

namespace KeliAgent

open Effect

inductive RuntimeError where
  | protocol (error : ProtocolError)
  | transport (error : TransportError)
  deriving DecidableEq, Repr

structure PingTask where
  taskId : UInt32
  pingType : String
  target : String
  deriving DecidableEq, Repr

inductive BackendMessage where
  | cnConnectivityProbeConfig (enabled : Bool) (target : Option String)
      (intervalSeconds retryAttempts retryDelaySeconds timeoutSeconds : Int)
  | terminal (requestId : String)
  | exec (taskId command : String)
  | ping (task : PingTask)
  | unknown (message : Option String)
  deriving DecidableEq, Repr

/-- Of the basic information only the kernel version matters to the upload. -/
structure BasicInfo (ι : Type) where
  kernelVersion : String
  rest : ι

def BasicInfo.withoutKernelVersion {ι : Type} (info : BasicInfo ι) : BasicInfo ι :=
  { info with kernelVersion := "" }

/-- The part of `AgentConfig` that the loop reads and never writes. The token is in the state of the
loop. -/
structure ReportConfig where
  endpoint : String
  maxRetries : UInt32
  heartbeatEvery : ℕ
  basicInfoEvery : ℕ
  pollsPerSleep : ℕ

/-- A socket carries its number and, as a history that no function reads, the token that the URL was
built from and the URL itself. -/
structure ReportSocket where
  id : ℕ
  token : String
  url : String
  deriving DecidableEq, Repr

/-- `ι`, `ρ` and `π` are basic information, reports and ping results. `recover` gets the token of
the configuration and answers with the token that it leaves there. -/
structure ReportWorld (W ι ρ π : Type) where
  basicInfo : W → BasicInfo ι × W
  uploadBasicInfo : String → BasicInfo ι → W → Except TransportError Unit × W
  recoverFromTransportError : String → TransportError → W → (Bool × String) × W
  connectReport : String → W → Except TransportError Unit × W
  generate : W → ρ × W
  sendReport : ReportSocket → ρ → W → Except TransportError Unit × W
  readMessage : ReportSocket → W → Except TransportError (Option (List UInt8)) × W
  sendPing : ReportSocket → W → Except TransportError Unit × W
  sendPingResult : ReportSocket → π → W → Except TransportError Unit × W
  parseSocketMessage : List UInt8 → BackendMessage
  runPing : PingTask → W → π × W
  handle : BackendMessage → W → Unit × W
  sleepReportInterval : W → Unit × W
  sleepReconnectInterval : W → Unit × W

inductive SocketOperation where
  | read | sendReport | sendPing | sendPingResult
  deriving DecidableEq, Repr

/-- A call of the world with its answer: an upload, a recovery, a connect or an operation on a
socket. A recovery has whether a socket was held, and the token before and after it; an operation
has the token that the configuration has at that moment. `unbuilt` stands for a connect that was
not made, because there is no URL for the token. -/
inductive ReportEvent where
  | upload (cycle : ℕ) (url : String) (ok : Bool)
  | recover (cycle : ℕ) (held : Bool) (before : String) (recovered : Bool) (after : String)
  | connect (cycle : ℕ) (socket : ReportSocket) (ok : Bool)
  | unbuilt (cycle : ℕ) (token : String)
  | operate (cycle : ℕ) (socket : ReportSocket) (operation : SocketOperation) (token : String)
      (ok : Bool)
  deriving DecidableEq, Repr

/-- How the loop ends early; `unfinished` if it is observed while the server goes on sending. -/
inductive ReportEnd where
  | failed (error : RuntimeError)
  | unfinished

abbrev ReportProgram (W : Type) := Program W ReportEvent ReportEnd

/-- The variables of the loop. `opened` counts sockets, for their numbers. -/
structure ReportState where
  token : String
  socket : Option ReportSocket
  connectFailures : UInt32
  opened : ℕ

namespace ReportLoop

open Program

variable {W ι ρ π α : Type} (world : ReportWorld W ι ρ π) (host : UrlHost) (config : ReportConfig)

/-! ## Uploads and connects -/

def isInvalidClientToken : TransportError → Bool
  | .invalidClientToken .. => true
  | _ => false

def uploadBasicInfo (cycle : ℕ) (url : String) (info : BasicInfo ι) :
    ReportProgram W (Except TransportError Unit) :=
  perform (fun result => .upload cycle url result.toBool) (world.uploadBasicInfo url info)

def uploadBasicInfoWithLegacyRetry (cycle : ℕ) (url : String) (info : BasicInfo ι) :
    ReportProgram W (Except TransportError Unit) := do
  let result ← uploadBasicInfo world cycle url info
  match result with
  | .ok () => return .ok ()
  | .error error =>
    if isInvalidClientToken error ∨ info.kernelVersion = "" then return .error error
    else uploadBasicInfo world cycle url info.withoutKernelVersion

/-- What `upload_basic_info_with_token_recovery` and `connect_report_with_token_recovery` have in
common: an attempt that fails is made once more, if the recovery says so. The outer error of an
attempt is that of its URL, which is not recovered from. The answer has whether there was a
recovery, and the token. -/
def withTokenRecovery (cycle : ℕ) (held : Bool)
    (attempt : String → ReportProgram W (Except RuntimeError (Except TransportError α)))
    (token : String) : ReportProgram W (Except RuntimeError (α × Bool) × String) := do
  let first ← attempt token
  match first with
  | .error error => return (.error error, token)
  | .ok (.ok a) => return (.ok (a, false), token)
  | .ok (.error error) => do
    let (recovered, token) ← perform (fun answer => .recover cycle held token answer.1 answer.2)
      (world.recoverFromTransportError token error)
    if recovered then
      let second ← attempt token
      match second with
      | .error error => return (.error error, token)
      | .ok (.ok a) => return (.ok (a, true), token)
      | .ok (.error error) => return (.error (.transport error), token)
    else return (.error (.transport error), token)

def attemptUpload (cycle : ℕ) (info : BasicInfo ι) (token : String) :
    ReportProgram W (Except RuntimeError (Except TransportError Unit)) :=
  match buildBasicInfoUrl config.endpoint token with
  | .error error => return .error (.transport error)
  | .ok url => do
    let result ← uploadBasicInfoWithLegacyRetry world cycle url info
    return .ok result

def uploadBasicInfoWithTokenRecovery (cycle : ℕ) (held : Bool) (info : BasicInfo ι)
    (token : String) : ReportProgram W (Except RuntimeError (Unit × Bool) × String) :=
  withTokenRecovery world cycle held (attemptUpload world config cycle info) token

def attemptConnect (cycle id : ℕ) (token : String) :
    ReportProgram W (Except RuntimeError (Except TransportError ReportSocket)) :=
  match host.buildReportWsUrl config.endpoint token with
  | .error error => do
    emit (.unbuilt cycle token)
    return .error (.protocol error)
  | .ok url => do
    let result ← perform (fun result => .connect cycle ⟨id, token, url⟩ result.toBool)
      (world.connectReport url)
    return .ok (result.map fun _ => ⟨id, token, url⟩)

/-- A connect is only made without a socket. -/
def connectReportWithTokenRecovery (cycle id : ℕ) (token : String) :
    ReportProgram W (Except RuntimeError (ReportSocket × Bool) × String) :=
  withTokenRecovery world cycle false (attemptConnect world host config cycle id) token

/-! ## Messages of the server -/

section Messages

variable (cycle : ℕ) (token : String) (socket : ReportSocket)

def operate (operation : SocketOperation) (f : W → Except TransportError α × W) :
    ReportProgram W (Except TransportError α) :=
  perform (fun result => .operate cycle socket operation token result.toBool) f

def processBackendMessage (bytes : List UInt8) : ReportProgram W (Except RuntimeError Unit) :=
  match world.parseSocketMessage bytes with
  | .ping task => do
    let result ← ask (world.runPing task)
    let sent ← operate cycle token socket .sendPingResult (world.sendPingResult socket result)
    return sent.mapError .transport
  | other => do
    ask (world.handle other)
    return .ok ()

/-- The end of a message in the loop of `drain_backend_messages_for_cycle`. -/
def afterMessage : Except RuntimeError Unit → ReportProgram W (Unit ⊕ Bool)
  | .ok () => return .inl ()
  | .error (.transport _) => return .inr true
  | .error other => stop (.failed other)

def drainRound (_ : Unit) : ReportProgram W (Unit ⊕ Bool) := do
  let result ← operate cycle token socket .read (world.readMessage socket)
  match result with
  | .ok (some bytes) => do
    let processed ← processBackendMessage world cycle token socket bytes
    afterMessage processed
  | .ok none => return .inr false
  | .error _ => return .inr true

/-- `true` if the socket is to be given up. -/
def drainBackendMessagesForCycle (fuel : ℕ) : ReportProgram W Bool :=
  iterate .unfinished (drainRound world cycle token socket) fuel ()

/-- After the report was sent, or failed to be. -/
def afterReport (fuel : ℕ) : Except TransportError Unit → ReportProgram W Bool
  | .error _ => return true
  | .ok () => drainBackendMessagesForCycle world cycle token socket fuel

def heartbeat (disconnect : Bool) : ReportProgram W Bool :=
  if disconnect = false ∧ (cycle + 1) % config.heartbeatEvery = 0 then do
    let result ← operate cycle token socket .sendPing (world.sendPing socket)
    return !result.toBool
  else return disconnect

/-- What is done with a socket in a cycle; `true` if it is to be given up. -/
def exchange (fuel : ℕ) : ReportProgram W Bool := do
  let gone ← drainBackendMessagesForCycle world cycle token socket fuel
  if gone then return true
  else
    let report ← ask world.generate
    let sent ← operate cycle token socket .sendReport (world.sendReport socket report)
    let disconnect ← afterReport world cycle token socket fuel sent
    heartbeat world config cycle token socket disconnect

end Messages

/-- `sleep_report_interval_with_control_messages`, with the number of polls that are left. -/
def sleepReportIntervalWithControlMessages (cycle : ℕ) (token : String) (fuel : ℕ) :
    ℕ → Option ReportSocket → ReportProgram W (Option ReportSocket)
  | 0, socket => return socket
  | polls + 1, none => do
    ask world.sleepReportInterval
    sleepReportIntervalWithControlMessages cycle token fuel polls none
  | polls + 1, some socket => do
    ask world.sleepReportInterval
    let gone ← drainBackendMessagesForCycle world cycle token socket fuel
    if gone then return none
    else sleepReportIntervalWithControlMessages cycle token fuel polls (some socket)

/-! ## Cycles -/

/-- The outcome of a periodic upload. Only the first may end the loop. -/
def afterUpload (cycle : ℕ) (state : ReportState) :
    Except RuntimeError (Unit × Bool) → ReportProgram W ReportState
  | .ok (_, true) => return { state with socket := none }
  | .ok (_, false) => return state
  | .error error => if cycle = 0 then stop (.failed error) else return state

def periodicUpload (cycle : ℕ) (state : ReportState) : ReportProgram W ReportState :=
  if cycle % config.basicInfoEvery = 0 then do
    let info ← ask world.basicInfo
    let (result, token) ←
      uploadBasicInfoWithTokenRecovery world config cycle state.socket.isSome info state.token
    afterUpload cycle { state with token } result
  else return state

/-- The state after the connect, and whether the cycle goes on (`true`). -/
def afterConnect (state : ReportState) :
    Except RuntimeError (ReportSocket × Bool) → ReportProgram W (ReportState × Bool)
  | .ok (socket, _) =>
    return ({ state with socket := some socket, connectFailures := 0, opened := state.opened + 1 },
      true)
  | .error error =>
    let connectFailures := state.connectFailures + 1
    if connectFailures > config.maxRetries then stop (.failed error)
    else do
      ask world.sleepReconnectInterval
      return ({ state with connectFailures }, false)

def ensureConnected (cycle : ℕ) (state : ReportState) : ReportProgram W (ReportState × Bool) :=
  match state.socket with
  | some _ => return (state, true)
  | none => do
    let (result, token) ←
      connectReportWithTokenRecovery world host config cycle state.opened state.token
    afterConnect world config { state with token } result

/-- The socket that is left after the exchange of a cycle. -/
def exchangeSocket (fuel cycle : ℕ) (token : String) :
    Option ReportSocket → ReportProgram W (Option ReportSocket)
  | none => return none
  | some socket => do
    let disconnect ← exchange world config cycle token socket fuel
    return if disconnect then none else some socket

def exchangeAndSleep (cycles fuel cycle : ℕ) (state : ReportState) :
    ReportProgram W ReportState := do
  let socket ← exchangeSocket world config fuel cycle state.token state.socket
  if cycle + 1 < cycles then
    let socket ← sleepReportIntervalWithControlMessages world cycle state.token fuel
      config.pollsPerSleep socket
    return { state with socket }
  else return { state with socket }

def reportCycle (cycles fuel : ℕ) (state : ReportState) (cycle : ℕ) :
    ReportProgram W ReportState := do
  let state ← periodicUpload world config cycle state
  let (state, connected) ← ensureConnected world host config cycle state
  if connected then exchangeAndSleep world config cycles fuel cycle state
  else return state

def initialState (token : String) : ReportState := ⟨token, none, 0, 0⟩

/-- `run_report_cycles_with_ping_delay_and_token_recovery`, with the token of the configuration. -/
def runReportCycles (token : String) (cycles fuel : ℕ) : ReportProgram W ReportState :=
  fold (reportCycle world host config cycles fuel) (initialState token) (List.range cycles)

end ReportLoop

end KeliAgent
