import KeliAgent.Transport
import KeliAgent.Tunnel.Rules
import KeliAgent.Tunnel.Sessions

/-!
# The tunnel runtime and the frames of the server

`TunnelTcpRuntime` of `tunnel_runtime.rs`, driven by the data session of `tunnel_data.rs`: frames of
the server, accepted connections, turns of the reader and writer tasks, drains of the outbound queue
and disconnects, each without interruption.

* **`wf_run`**: in every reachable state, an id stands for a session created under it.
* **`sessionData_isolated_iff`**: a data frame of the server leaves the carrier and all other
  sessions alone exactly if its own session can take the payload.
-/

namespace KeliAgent

open Wire

/-! ## The runtime -/

structure TunnelTcpRuntime where
  core : AsyncTunnelCore
  rules : List SelectedTunnelRule
  dataTransport : String

def runtimeErrorToTransport (error : TunnelRuntimeError) : TransportError :=
  .requestFailed error.display

def splitRuntimeErrorMessage (message : String) : String × String :=
  (Text.splitOnce message ": ").getD (message, message)

def sessionErrorFrame (sessionId : UInt64) (leg : FrameLeg) (ruleId : UInt64)
    (code message : String) : Except TransportError KtpFrame :=
  match encodeSessionErrorPayload { ruleId, code, message } with
  | .error error => .error (.requestFailed error.display)
  | .ok payload => .ok { frameType := .sessionError, leg, flags := 0, sessionId, payload }

namespace TunnelTcpRuntime

def new (limits : TunnelRuntimeLimits) (dataTransport : String) : TunnelTcpRuntime where
  core := .new limits
  rules := []
  dataTransport := normalizeDataTransportFilter dataTransport

def findEgressRule (runtime : TunnelTcpRuntime) (ruleId : UInt64) : Option SelectedTunnelRule :=
  runtime.rules.find? fun rule =>
    rule.id == ruleId && rule.enabled && Text.eqIgnoreAsciiCase (Text.trim rule.protocol) "tcp" &&
      ruleUsesDataTransport rule runtime.dataTransport &&
      (Text.trim rule.role == "egress" || Text.trim rule.role == "both")

/-- The answer to a frame whose session could not be opened. -/
def refuse (sessionId ruleId : UInt64) (code message : String) :
    Except TransportError (List KtpFrame) :=
  (sessionErrorFrame sessionId .egress ruleId code message).map fun frame => [frame]

def handleEgressOpen (runtime : TunnelTcpRuntime) (frame : KtpFrame) (dial : String → TcpDial) :
    Except TransportError (List KtpFrame) × TunnelTcpRuntime :=
  match decodeSessionOpenPayload frame.payload with
  | .error error => (refuse frame.sessionId 0 "protocol_error" error.display, runtime)
  | .ok payload =>
    match runtime.findEgressRule payload.ruleId with
    | none =>
      (refuse frame.sessionId payload.ruleId "runtime_unavailable" "egress rule is not ready",
        runtime)
    | some rule =>
      match runtime.core.openEgressSession frame.sessionId rule.id rule.targetHost rule.targetPort
          dial with
      | (.ok responses, core) => (.ok responses, { runtime with core })
      | (.error error, core) =>
        let (code, detail) := splitRuntimeErrorMessage error.display
        (refuse frame.sessionId rule.id code detail, { runtime with core })

/-- `handle_server_frame`. Of the errors of a data frame only `runtime_unavailable` is dropped. -/
def handleServerFrame (runtime : TunnelTcpRuntime) (frame : KtpFrame) (dial : String → TcpDial) :
    Except TransportError (List KtpFrame) × TunnelTcpRuntime :=
  match frame.frameType with
  | .sessionOpen =>
    if frame.leg = .egress then runtime.handleEgressOpen frame dial else (.ok [], runtime)
  | .sessionData =>
    match runtime.core.handleSessionData frame.sessionId frame.leg frame.payload with
    | (.ok (), core) => (.ok [], { runtime with core })
    | (.error error, core) =>
      if error.code ≠ "runtime_unavailable" then
        (.error (runtimeErrorToTransport error), { runtime with core })
      else (.ok [], { runtime with core })
  | .sessionClose | .sessionError =>
    (.ok [], { runtime with core := (runtime.core.closeSession frame.sessionId).2 })
  | _ => (.ok [], runtime)

def closeAllSessions (runtime : TunnelTcpRuntime) : TunnelTcpRuntime :=
  { runtime with core := runtime.core.closeAllSessions }

/-- A session frame in the loop of the data session: an error of the runtime leaves the loop
(`?`), and `close_all_sessions("carrier_disconnect")` follows. -/
def handleTunnelDataSessionFrame (runtime : TunnelTcpRuntime) (frame : KtpFrame)
    (dial : String → TcpDial) : Except TransportError (List KtpFrame) × TunnelTcpRuntime :=
  match runtime.handleServerFrame frame dial with
  | (.ok responses, runtime) => (.ok responses, runtime)
  | (.error error, runtime) => (.error error, runtime.closeAllSessions)

end TunnelTcpRuntime

/-- What happens to a runtime. Readers and writers are named by their session. -/
inductive TunnelEvent where
  | updateRules (rules : List SelectedTunnelRule)
  | serverFrame (frame : KtpFrame) (dial : String → TcpDial)
  | accept (payload : TunnelSessionOpenPayload) (now : ℕ)
  | read (ref : ℕ) (outcome : TcpRead) (now : ℕ)
  | write (ref : ℕ) (outcome : TcpWrite)
  | drain (maxFrames now : ℕ)
  | disconnect

namespace TunnelTcpRuntime

def step (runtime : TunnelTcpRuntime) : TunnelEvent → TunnelTcpRuntime
  | .updateRules rules => { runtime with rules }
  | .serverFrame frame dial => (runtime.handleTunnelDataSessionFrame frame dial).2
  | .accept payload now => { runtime with core := runtime.core.acceptIngress payload now }
  | .read ref outcome now => { runtime with core := runtime.core.sessionReader ref outcome now }
  | .write ref outcome => { runtime with core := runtime.core.sessionWriter ref outcome }
  | .drain maxFrames now => { runtime with core := (runtime.core.nextFrames maxFrames now).2 }
  | .disconnect => runtime.closeAllSessions

def run (runtime : TunnelTcpRuntime) (events : List TunnelEvent) : TunnelTcpRuntime :=
  events.foldl step runtime

/-! ## The directory along runs -/

/-- An open frame of the server opens a session under its id, or changes nothing. -/
theorem handleEgressOpen_cases (runtime : TunnelTcpRuntime) (frame : KtpFrame)
    (dial : String → TcpDial) :
    (runtime.handleEgressOpen frame dial).2 = runtime ∨
      (runtime.handleEgressOpen frame dial).2.core.directory =
        runtime.core.directory.insert frame.sessionId .egress := by
  unfold handleEgressOpen
  cases hdecode : decodeSessionOpenPayload frame.payload with
  | error error => exact Or.inl rfl
  | ok payload =>
    cases hrule : runtime.findEgressRule payload.ruleId with
    | none => exact Or.inl (by simp only [hrule])
    | some rule =>
      rcases AsyncTunnelCore.openEgressSession_cases runtime.core frame.sessionId rule.id
        rule.targetHost rule.targetPort dial with ⟨error, h⟩ | ⟨core, h, hdirectory⟩
      · exact Or.inl (by simp only [hrule, h])
      · exact Or.inr (by simp only [hrule, h, hdirectory])

/-- What a frame of the server does to the directory. -/
theorem handleServerFrame_cases (runtime : TunnelTcpRuntime) (frame : KtpFrame)
    (dial : String → TcpDial) :
    (frame.frameType ≠ .sessionClose ∧ frame.frameType ≠ .sessionError ∧
        (runtime.handleServerFrame frame dial).2.core.directory = runtime.core.directory) ∨
      (frame.frameType = .sessionOpen ∧ frame.leg = .egress ∧
        (runtime.handleServerFrame frame dial).2.core.directory =
          runtime.core.directory.insert frame.sessionId .egress) ∨
      ((frame.frameType = .sessionClose ∨ frame.frameType = .sessionError) ∧
        (runtime.handleServerFrame frame dial).2.core.directory =
          runtime.core.directory.erase frame.sessionId) := by
  unfold handleServerFrame
  cases htype : frame.frameType with
  | sessionOpen =>
    by_cases hleg : frame.leg = .egress
    · simp only [if_pos hleg]
      rcases handleEgressOpen_cases runtime frame dial with h | h
      · exact Or.inl ⟨nofun, nofun, by rw [h]⟩
      · exact Or.inr (Or.inl ⟨trivial, hleg, h⟩)
    · simp only [if_neg hleg]
      exact Or.inl ⟨nofun, nofun, trivial⟩
  | sessionData =>
    have h := AsyncTunnelCore.directory_handleSessionData runtime.core frame.sessionId frame.leg
      frame.payload
    refine Or.inl ⟨nofun, nofun, ?_⟩
    simp only
    split <;> rename_i hdata <;> rw [hdata] at h
    · exact h
    · split_ifs <;> exact h
  | sessionClose =>
    exact Or.inr (Or.inr ⟨Or.inl rfl, AsyncTunnelCore.directory_closeSession _ _⟩)
  | sessionError =>
    exact Or.inr (Or.inr ⟨Or.inr rfl, AsyncTunnelCore.directory_closeSession _ _⟩)
  | _ => exact Or.inl ⟨nofun, nofun, rfl⟩

theorem wf_step {runtime : TunnelTcpRuntime} (h : runtime.core.directory.Wf) (event : TunnelEvent) :
    (runtime.step event).core.directory.Wf := by
  cases event with
  | updateRules rules => exact h
  | serverFrame frame dial =>
    have hframe : (runtime.handleServerFrame frame dial).2.core.directory.Wf := by
      rcases handleServerFrame_cases runtime frame dial with ⟨-, -, hd⟩ | ⟨-, -, hd⟩ | ⟨-, hd⟩
      · exact hd ▸ h
      · exact hd ▸ h.insert _ _
      · exact hd ▸ h.erase _
    simp only [step, handleTunnelDataSessionFrame]
    split <;> rename_i hresult <;> rw [hresult] at hframe
    · exact hframe
    · rw [closeAllSessions, AsyncTunnelCore.directory_closeAllSessions]
      exact Directory.wf_clear _
  | accept payload now =>
    rcases AsyncTunnelCore.acceptIngress_cases runtime.core payload now with hd | hd
    · exact hd ▸ h
    · exact hd ▸ h.insert _ _
  | read ref outcome now =>
    rcases AsyncTunnelCore.sessionReader_cases runtime.core ref outcome now with
      ⟨-, hd⟩ | ⟨session, -, -, hd⟩
    · exact hd ▸ h
    · exact hd ▸ h.erase _
  | write ref outcome =>
    exact (AsyncTunnelCore.directory_sessionWriter runtime.core ref outcome).symm ▸ h
  | drain maxFrames now => exact h
  | disconnect =>
    rw [step, closeAllSessions, AsyncTunnelCore.directory_closeAllSessions]
    exact Directory.wf_clear _

/-- **In every reachable state, an id stands for a session created under it.** -/
theorem wf_run (limits : TunnelRuntimeLimits) (dataTransport : String)
    (events : List TunnelEvent) :
    ((new limits dataTransport).run events).core.directory.Wf := by
  have hrun : ∀ (events : List TunnelEvent) (runtime : TunnelTcpRuntime),
      runtime.core.directory.Wf → (runtime.run events).core.directory.Wf := by
    intro events
    induction events with
    | nil => exact fun _ h => h
    | cons event events ih => exact fun runtime h => ih _ (wf_step h event)
  exact hrun events _ Directory.wf_empty

/-! ## Failures of one session -/

/-- All sessions in the map but the one of the id stay in it, unchanged. -/
def LeavesOthers (runtime runtime' : TunnelTcpRuntime) (sessionId : UInt64) : Prop :=
  ∀ sessionId' ref, sessionId' ≠ sessionId → runtime.core.sessions.lookup sessionId' = some ref →
    runtime'.core.sessions.lookup sessionId' = some ref ∧
      runtime'.core.arena[ref]? = runtime.core.arena[ref]?

/-- **A data frame of the server leaves the carrier and all other sessions alone exactly if its own
session can take the payload.** -/
theorem sessionData_isolated_iff (limits : TunnelRuntimeLimits) (dataTransport : String)
    (events : List TunnelEvent) (frame : KtpFrame) (dial : String → TcpDial)
    (hdata : frame.frameType = .sessionData) :
    ((∃ responses, (((new limits dataTransport).run events).handleTunnelDataSessionFrame
            frame dial).1 = .ok responses) ∧
        ((new limits dataTransport).run events).LeavesOthers
          (((new limits dataTransport).run events).handleTunnelDataSessionFrame frame dial).2
          frame.sessionId) ↔
      ((new limits dataTransport).run events).core.Admits frame.sessionId
        frame.payload.length := by
  have hwf := wf_run limits dataTransport events
  generalize (new limits dataTransport).run events = runtime at hwf ⊢
  unfold handleTunnelDataSessionFrame handleServerFrame
  simp only [hdata]
  rcases runtime.core.handleSessionData_cases frame.sessionId frame.leg frame.payload with
    ⟨ref, session, href, hs, hadmits, h⟩ | ⟨ref, session, href, hs, hrefused, error, hcode, h⟩ |
      ⟨habsent, h⟩
  · -- the payload enters the channel of its session
    simp only [h]
    refine iff_of_true ⟨⟨[], rfl⟩, ?_⟩ ?_
    · intro sessionId' ref' hne href'
      refine ⟨href', AsyncTunnelCore.getElem?_modifySession_of_ne _ ?_ _⟩
      rintro rfl
      exact hne (hwf.injective href' href)
    · intro ref' href' session' hs'
      cases Option.some.inj (href.symm.trans href')
      cases Option.some.inj (hs.symm.trans hs')
      exact hadmits
  · -- the error of the session ends the carrier
    simp only [h, if_pos hcode]
    refine iff_of_false ?_ fun hadmits => hrefused (hadmits ref href session hs)
    rintro ⟨⟨responses, hok⟩, -⟩
    cases hok
  · -- a frame without a session is dropped
    simp only [h]
    refine iff_of_true ⟨⟨[], rfl⟩, fun _ _ _ href => ⟨href, rfl⟩⟩ ?_
    intro ref href session hs
    rw [habsent ref href] at hs
    cases hs

/-- A rule whose target is dialled from this machine. -/
def localRule : SelectedTunnelRule where
  id := 7
  name := "local"
  enabled := true
  protocol := "tcp"
  role := "both"
  listenAddress := "127.0.0.1"
  listenPort := 8080
  targetHost := "127.0.0.1"
  targetPort := 80
  sourceAllowlist := ""
  maxConcurrentSessions := 32
  dataTransport := "websocket"

/-- The frame with which the server opens an egress session for the local rule. -/
def localOpen (sessionId : UInt64) : KtpFrame where
  frameType := .sessionOpen
  leg := .egress
  flags := 0
  sessionId := sessionId
  payload := (encodeSessionOpenPayload
    { ruleId := 7, listenHost := "0.0.0.0", listenPort := 10088, sourceAddr := "" }).toOption.getD []

/-- Two egress sessions are open. -/
def twoSessions : List TunnelEvent :=
  [.updateRules [localRule], .serverFrame (localOpen 1) fun _ => .connected,
    .serverFrame (localOpen 2) fun _ => .connected]

/-- A byte for the first of the two sessions. -/
theorem sessionData_isolated_iff_open :
    ((new .default "websocket").run twoSessions).core.Admits 1 1 ∧
      ((∃ responses, (((new .default "websocket").run twoSessions).handleTunnelDataSessionFrame
            (AsyncTunnelCore.dataFrame .egress 1 [0x61]) fun _ => .connected).1 = .ok responses) ∧
        ((new .default "websocket").run twoSessions).LeavesOthers
          (((new .default "websocket").run twoSessions).handleTunnelDataSessionFrame
            (AsyncTunnelCore.dataFrame .egress 1 [0x61]) fun _ => .connected).2 1) := by
  have hadmits : ((new .default "websocket").run twoSessions).core.Admits 1 1 := by
    decide +kernel
  exact ⟨hadmits, (sessionData_isolated_iff .default "websocket" twoSessions
    (AsyncTunnelCore.dataFrame .egress 1 [0x61]) (fun _ => .connected) rfl).mpr hadmits⟩

/-- The writer of the first session stopped when the target reset the connection. -/
def stoppedWriter : List TunnelEvent :=
  twoSessions ++
    [.serverFrame (AsyncTunnelCore.dataFrame .egress 1 [0x61]) fun _ => .connected,
      .write 0 (.failed 0)]

/-- The next data frame of that session ends the carrier and closes the second session. -/
theorem stopped_writer_ends_carrier :
    (((new .default "websocket").run stoppedWriter).handleTunnelDataSessionFrame
        (AsyncTunnelCore.dataFrame .egress 1 [0x62]) fun _ => .connected).1 =
      .error (.requestFailed "backpressure_limit: tunnel outbound frame queue is full") ∧
    ((new .default "websocket").run stoppedWriter).core.sessions.lookup 2 = some 1 ∧
    (((new .default "websocket").run stoppedWriter).handleTunnelDataSessionFrame
        (AsyncTunnelCore.dataFrame .egress 1 [0x62]) fun _ => .connected).2.core.sessions.lookup 2 =
      none := by
  decide +kernel

end TunnelTcpRuntime

end KeliAgent
