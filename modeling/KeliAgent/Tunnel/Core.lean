import KeliAgent.Tunnel.Payload
import KeliAgent.Tunnel.Queue

/-!
# The tunnel core

`AsyncTunnelCore` of `tunnel_async_runtime.rs`: sessions of both legs in one map keyed by the
session id, one bounded outbound queue, and for each session a reader task, a writer task and a
channel to the writer.

A session outlives its entry in the map, since its tasks hold on to it. So sessions live in an
`arena` and the map holds references into it. The outcomes of dialling, reading and writing TCP
streams are arguments.

The operations here run without interruption; each is written as the sequence of accesses to shared
state it makes, so that the same accesses serve as the steps of concurrent tasks.
-/

namespace KeliAgent

/-- The limits that the core reads. -/
structure TunnelRuntimeLimits where
  maxSessionsPerAgent : ℕ
  maxOutboundFrames : ℕ
  maxSessionPendingBytes : ℕ
  tcpReadChunkSize : ℕ
  deriving DecidableEq, Repr

def TunnelRuntimeLimits.default : TunnelRuntimeLimits where
  maxSessionsPerAgent := 1024
  maxOutboundFrames := 4096
  maxSessionPendingBytes := 4 * 1024 * 1024
  tcpReadChunkSize := 16 * 1024

/-- The life of the reader task of a session. -/
inductive ReaderStatus where
  | notSpawned | running | finished
  deriving DecidableEq, Repr

/-- A session with what its tasks were given (`sessionId`, `leg`), the channel to its writer
(`toTcp`, and whether the receiving end still exists) and the state of its reader:
`readerHandle` says that `tasks.reader` holds the join handle, `readerAborted` that it was taken and
aborted. -/
structure AsyncTunnelSession where
  sessionId : UInt64
  ruleId : UInt64
  leg : FrameLeg
  toTcp : List (List UInt8)
  receiverOpen : Bool
  pendingBytes : ℕ
  readerHandle : Bool
  readerAborted : Bool
  readerStatus : ReaderStatus
  deriving DecidableEq, Repr

namespace AsyncTunnelSession

def new (sessionId ruleId : UInt64) (leg : FrameLeg) : AsyncTunnelSession where
  sessionId := sessionId
  ruleId := ruleId
  leg := leg
  toTcp := []
  receiverOpen := true
  pendingBytes := 0
  readerHandle := false
  readerAborted := false
  readerStatus := .notSpawned

/-- The capacity of the channel to the writer. -/
def toTcpCapacity : ℕ := 64

/-- `reserve_pending_bytes`; the counter is a `usize`. -/
def reservePendingBytes (session : AsyncTunnelSession) (bytes limit : ℕ) :
    Except TunnelRuntimeError AsyncTunnelSession :=
  let next := session.pendingBytes + bytes
  if 2 ^ 64 ≤ next then
    .error (.sessionPendingBytesLimit "session pending byte counter overflowed")
  else if limit < next then
    .error (.sessionPendingBytesLimit
      ("session pending bytes would exceed limit " ++ toString limit))
  else .ok { session with pendingBytes := next }

def releasePendingBytes (session : AsyncTunnelSession) (bytes : ℕ) : AsyncTunnelSession :=
  { session with pendingBytes := session.pendingBytes - bytes }

/-- `to_tcp.try_send`: `none` if the channel is full or the receiver is gone. -/
def trySend (session : AsyncTunnelSession) (payload : List UInt8) : Option AsyncTunnelSession :=
  if session.receiverOpen ∧ session.toTcp.length < toTcpCapacity then
    some { session with toTcp := session.toTcp ++ [payload] }
  else none

end AsyncTunnelSession

structure AsyncTunnelCore where
  limits : TunnelRuntimeLimits
  outbound : AsyncTunnelFrameQueue
  sessions : AList fun _ : UInt64 => ℕ
  arena : List AsyncTunnelSession
  nextSessionId : UInt64
  stats : TunnelRuntimeStats

/-- How dialling a target ends. -/
inductive TcpDial where
  | connected
  | timedOut
  | failed (error : String)
  deriving DecidableEq, Repr

/-- How a read of a TCP stream ends. The bytes are what the stream has to offer; none of them is
the end of the stream. -/
inductive TcpRead where
  | bytes (available : List UInt8)
  | failed
  deriving DecidableEq, Repr

/-- How `write_all` ends: it may fail after some bytes. -/
inductive TcpWrite where
  | done
  | failed (written : ℕ)
  deriving DecidableEq, Repr

/-- The bytes a read returns, at most `chunkSize`: none at the end of the stream, and `none` after a
failure. -/
def TcpRead.chunk (chunkSize : ℕ) : TcpRead → Option (List UInt8)
  | .bytes available => some (available.take chunkSize)
  | .failed => none

namespace AsyncTunnelCore

def new (limits : TunnelRuntimeLimits) : AsyncTunnelCore where
  limits := limits
  outbound := .new limits.maxOutboundFrames
  sessions := ∅
  arena := []
  nextSessionId := 1
  stats := .default

/-! ## Accesses to shared state -/

section Accesses

variable (core : AsyncTunnelCore)

def ensureAgentSessionCapacity : Except TunnelRuntimeError Unit :=
  if core.limits.maxSessionsPerAgent ≤ core.stats.activeSessions then
    .error (.sessionLimit "agent tunnel session limit reached")
  else .ok ()

def modifySession (ref : ℕ) (f : AsyncTunnelSession → AsyncTunnelSession) : AsyncTunnelCore :=
  { core with arena := core.arena.modify ref f }

def updateStats (f : TunnelRuntimeStats → TunnelRuntimeStats) : AsyncTunnelCore :=
  { core with stats := f core.stats }

/-- A new session enters the arena, at the position `core.arena.length`, and the map. -/
def insertSession (sessionId ruleId : UInt64) (leg : FrameLeg) : AsyncTunnelCore :=
  { core with
    arena := core.arena ++ [.new sessionId ruleId leg]
    sessions := core.sessions.insert sessionId core.arena.length }

def eraseSession (sessionId : UInt64) : AsyncTunnelCore :=
  { core with sessions := core.sessions.erase sessionId }

def pushFrame (frame : KtpFrame) (now : ℕ) : Except TunnelRuntimeError Unit × AsyncTunnelCore :=
  ((core.outbound.tryPush frame now).1,
    { core with outbound := (core.outbound.tryPush frame now).2 })

def removeSessionFrames (sessionId : UInt64) : AsyncTunnelCore :=
  { core with outbound := (core.outbound.removeSessionFrames sessionId).2 }

def clearOutbound : AsyncTunnelCore := { core with outbound := core.outbound.clear.2 }

def spawnSessionReader (ref : ℕ) : AsyncTunnelCore :=
  core.modifySession ref fun session => { session with readerStatus := .running }

def setReaderTask (ref : ℕ) : AsyncTunnelCore :=
  core.modifySession ref fun session => { session with readerHandle := true }

/-- `abort_reader`: the handle is taken, so that a second abort does nothing. -/
def abortReader (ref : ℕ) : AsyncTunnelCore :=
  core.modifySession ref fun session =>
    if session.readerHandle then { session with readerHandle := false, readerAborted := true }
    else session

def finishReader (ref : ℕ) : AsyncTunnelCore :=
  core.modifySession ref fun session => { session with readerStatus := .finished }

/-- The receiving end of the channel is dropped. -/
def dropReceiver (ref : ℕ) : AsyncTunnelCore :=
  core.modifySession ref fun session => { session with receiverOpen := false }

end Accesses

/-! ## Frames -/

def acceptFrame (sessionId ruleId : UInt64) : KtpFrame where
  frameType := .sessionAccept
  leg := .egress
  flags := 0
  sessionId := sessionId
  payload := encodeSessionAcceptPayload ruleId

def openFrame (sessionId : UInt64) (payload : List UInt8) : KtpFrame where
  frameType := .sessionOpen
  leg := .ingress
  flags := 0
  sessionId := sessionId
  payload := payload

def dataFrame (leg : FrameLeg) (sessionId : UInt64) (payload : List UInt8) : KtpFrame where
  frameType := .sessionData
  leg := leg
  flags := 0
  sessionId := sessionId
  payload := payload

def closeFrame (leg : FrameLeg) (sessionId : UInt64) : KtpFrame where
  frameType := .sessionClose
  leg := leg
  flags := 0
  sessionId := sessionId
  payload := []

/-! ## Operations -/

/-- The address that `open_egress_session` dials. -/
def targetAddress (targetHost : String) (targetPort : UInt16) : String :=
  Text.trim targetHost ++ ":" ++ toString targetPort.toNat

/-- The error of a dial, if it fails. -/
def dialResult : TcpDial → Except TunnelRuntimeError Unit
  | .connected => .ok ()
  | .timedOut => .error (.targetConnectFailed "target dial timed out")
  | .failed error => .error (.targetConnectFailed error)

def openEgressSession (core : AsyncTunnelCore) (sessionId ruleId : UInt64) (targetHost : String)
    (targetPort : UInt16) (dial : String → TcpDial) :
    Except TunnelRuntimeError (List KtpFrame) × AsyncTunnelCore :=
  match core.ensureAgentSessionCapacity with
  | .error error => (.error error, core)
  | .ok () =>
    match dialResult (dial (targetAddress targetHost targetPort)) with
    | .error error => (.error error, core)
    | .ok () =>
      let ref := core.arena.length
      let core := core.insertSession sessionId ruleId .egress
      let core := core.updateStats (·.sessionOpened ruleId)
      let core := core.spawnSessionReader ref
      let core := core.setReaderTask ref
      (.ok [acceptFrame sessionId ruleId], core)

/-- The frame that announces an ingress session is encoded and pushed. -/
def announce (core : AsyncTunnelCore) (sessionId : UInt64) (payload : TunnelSessionOpenPayload)
    (now : ℕ) : Except TunnelRuntimeError Unit × AsyncTunnelCore :=
  match encodeSessionOpenPayload payload with
  | .error error => (.error (.runtimeUnavailable error.display), core)
  | .ok payload => core.pushFrame (openFrame sessionId payload) now

/-- `attach_ingress_stream`. An error after the insertion leaves the session in the map, without
tasks; what is left of the stream and the receiver is dropped. -/
def attachIngressStream (core : AsyncTunnelCore) (sessionId : UInt64)
    (payload : TunnelSessionOpenPayload) (now : ℕ) :
    Except TunnelRuntimeError Unit × AsyncTunnelCore :=
  match core.ensureAgentSessionCapacity with
  | .error error => (.error error, core)
  | .ok () =>
    let ref := core.arena.length
    let core := core.insertSession sessionId payload.ruleId .ingress
    let core := core.updateStats (·.sessionOpened payload.ruleId)
    match core.announce sessionId payload now with
    | (.error error, core) => (.error error, core.dropReceiver ref)
    | (.ok (), core) => (.ok (), (core.spawnSessionReader ref).setReaderTask ref)

/-- A turn of the accept loop of `start_ingress_listener` with an allowed peer: the id is drawn
before the capacity is checked, and the result is ignored. -/
def acceptIngress (core : AsyncTunnelCore) (payload : TunnelSessionOpenPayload) (now : ℕ) :
    AsyncTunnelCore :=
  let sessionId := core.nextSessionId
  let core := { core with nextSessionId := sessionId + 1 }
  (core.attachIngressStream sessionId payload now).2

def sessionNotFound : TunnelRuntimeError := .runtimeUnavailable "session not found"

/-- `reserve_pending_bytes` and `try_send` on a session that was found. -/
def sendToSession (core : AsyncTunnelCore) (ref : ℕ) (session : AsyncTunnelSession)
    (payload : List UInt8) : Except TunnelRuntimeError Unit × AsyncTunnelCore :=
  match session.reservePendingBytes payload.length core.limits.maxSessionPendingBytes with
  | .error error => (.error error, core)
  | .ok reserved =>
    match reserved.trySend payload with
    | some sent => (.ok (), core.modifySession ref fun _ => sent)
    | none =>
      (.error .backpressureLimit,
        core.modifySession ref fun _ => reserved.releasePendingBytes payload.length)

/-- `handle_session_data`. The leg of the frame is ignored. -/
def handleSessionData (core : AsyncTunnelCore) (sessionId : UInt64) (_leg : FrameLeg)
    (payload : List UInt8) : Except TunnelRuntimeError Unit × AsyncTunnelCore :=
  match core.sessions.lookup sessionId with
  | none => (.error sessionNotFound, core)
  | some ref =>
    match core.arena[ref]? with
    | none => (.error sessionNotFound, core)
    | some session => core.sendToSession ref session payload

/-- `abort_reader` and, if its handle was registered, waiting for the reader to end. -/
def stopReader (core : AsyncTunnelCore) (ref : ℕ) (session : AsyncTunnelSession) :
    AsyncTunnelCore :=
  if session.readerHandle then (core.abortReader ref).finishReader ref else core.abortReader ref

def closeSession (core : AsyncTunnelCore) (sessionId : UInt64) :
    Except TunnelRuntimeError Unit × AsyncTunnelCore :=
  match core.sessions.lookup sessionId with
  | none => (.error sessionNotFound, core)
  | some ref =>
    let core := core.eraseSession sessionId
    match core.arena[ref]? with
    | none => (.ok (), core)
    | some session =>
      let core := core.stopReader ref session
      let core := core.removeSessionFrames sessionId
      (.ok (), core.updateStats (·.sessionClosed session.ruleId))

/-- A turn of the loop of `close_all_sessions`. -/
def retireSession (core : AsyncTunnelCore) (ref : ℕ) : AsyncTunnelCore :=
  match core.arena[ref]? with
  | none => core
  | some session => (core.stopReader ref session).updateStats (·.sessionClosed session.ruleId)

def closeAllSessions (core : AsyncTunnelCore) : AsyncTunnelCore :=
  let removed := core.sessions.entries.map (·.2)
  (removed.foldl retireSession { core with sessions := ∅ }).clearOutbound

/-- The end of a reader task: it removes what the map holds under its id. -/
def endReader (core : AsyncTunnelCore) (ref : ℕ) (session : AsyncTunnelSession) :
    AsyncTunnelCore :=
  let core' := (core.eraseSession session.sessionId).finishReader ref
  if (core.sessions.lookup session.sessionId).isSome then
    core'.updateStats (·.sessionClosed session.ruleId)
  else core'

/-- A turn of the loop of the reader task of a session. Whether a push is refused is ignored. -/
def sessionReader (core : AsyncTunnelCore) (ref : ℕ) (read : TcpRead) (now : ℕ) :
    AsyncTunnelCore :=
  match core.arena[ref]? with
  | none => core
  | some session =>
    if session.readerStatus = .running then
      match read.chunk core.limits.tcpReadChunkSize with
      | none => core.endReader ref session
      | some [] =>
        ((core.pushFrame (closeFrame session.leg session.sessionId) now).2).endReader ref session
      | some chunk =>
        let core := core.updateStats (·.countBytesOut chunk.length)
        (core.pushFrame (dataFrame session.leg session.sessionId chunk) now).2
    else core

/-- A turn of the loop of the writer task of a session. -/
def sessionWriter (core : AsyncTunnelCore) (ref : ℕ) (write : TcpWrite) : AsyncTunnelCore :=
  match core.arena[ref]? with
  | none => core
  | some session =>
    match session.receiverOpen, session.toTcp with
    | true, payload :: rest =>
      let core := core.updateStats (·.countBytesIn payload.length)
      let core := core.modifySession ref fun session =>
        { session with toTcp := rest }.releasePendingBytes payload.length
      match write with
      | .done => core
      | .failed _ => core.dropReceiver ref
    | _, _ => core

def nextFrames (core : AsyncTunnelCore) (maxFrames now : ℕ) : List KtpFrame × AsyncTunnelCore :=
  let (frames, outbound, stats) := core.outbound.drain core.stats maxFrames now
  (frames, { core with outbound, stats })

end AsyncTunnelCore

end KeliAgent
