import KeliAgent.Tunnel.Runtime

/-!
# Demultiplexing by session id and leg

A frame names a session by its id and its leg, while the core finds sessions by the id alone. The
table that the frames are about is followed beside the runtime: `nextTable` enters a new session
under its id and leg, and removes the session that a frame closes, or whose reader ends.

* `LegApart`: an event meets no session of the other leg under its id, and a reader that ends
  finds its own session or none.
* **`agrees_runTable`**: along a run of such events, the core finds what the table finds.
* **`legs_demultiplexed`**: then a data or close frame affects only the session created under its id
  and leg.
-/

namespace KeliAgent

open Wire

namespace TunnelTcpRuntime

/-! ## The table of the frames -/

/-- A session was created by the event. -/
def Creates (runtime : TunnelTcpRuntime) (event : TunnelEvent) : Prop :=
  runtime.core.arena.length < (runtime.step event).core.arena.length

instance (runtime : TunnelTcpRuntime) (event : TunnelEvent) : Decidable (runtime.Creates event) :=
  inferInstanceAs (Decidable (_ < _))

/-- The table after a frame of the server that did not end the carrier. -/
def tableAfterFrame (runtime : TunnelTcpRuntime) (frame : KtpFrame) (dial : String → TcpDial)
    (table : Table UInt64 FrameLeg) : Table UInt64 FrameLeg :=
  match frame.frameType with
  | .sessionOpen =>
    if runtime.Creates (.serverFrame frame dial) then
      table.set frame.sessionId .egress (some runtime.core.arena.length)
    else table
  | .sessionClose | .sessionError => table.set frame.sessionId frame.leg none
  | _ => table

def nextTable (runtime : TunnelTcpRuntime) (event : TunnelEvent) (table : Table UInt64 FrameLeg) :
    Table UInt64 FrameLeg :=
  match event with
  | .serverFrame frame dial =>
    match (runtime.handleServerFrame frame dial).1 with
    | .ok _ => runtime.tableAfterFrame frame dial table
    | .error _ => .empty
  | .accept payload now =>
    if runtime.Creates (.accept payload now) then
      table.set runtime.core.nextSessionId .ingress (some runtime.core.arena.length)
    else table
  | .read ref outcome _ => if runtime.core.ReaderEnds ref outcome then table.drop ref else table
  | .disconnect => .empty
  | .updateRules _ | .write _ _ | .drain _ _ => table

/-- A run of the runtime beside the table. -/
def runTable (runtime : TunnelTcpRuntime) (table : Table UInt64 FrameLeg)
    (events : List TunnelEvent) : TunnelTcpRuntime × Table UInt64 FrameLeg :=
  events.foldl (fun state event => (state.1.step event, state.1.nextTable event state.2))
    (runtime, table)

/-! ## Events that keep the legs apart -/

/-- A frame meets no session of the other leg under its id. -/
def FrameApart (runtime : TunnelTcpRuntime) (frame : KtpFrame) : Prop :=
  match frame.frameType with
  | .sessionOpen => frame.leg = .egress → runtime.core.directory.Alone frame.sessionId .egress
  | .sessionData | .sessionClose | .sessionError =>
    runtime.core.directory.Alone frame.sessionId frame.leg
  | _ => True

instance (runtime : TunnelTcpRuntime) (frame : KtpFrame) : Decidable (runtime.FrameApart frame) := by
  unfold FrameApart
  split <;> infer_instance

/-- The event meets no session of the other leg under its id, and a reader that ends finds its own
session or none. -/
def LegApart (runtime : TunnelTcpRuntime) (event : TunnelEvent) : Prop :=
  match event with
  | .serverFrame frame _ => runtime.FrameApart frame
  | .accept _ _ => runtime.core.directory.Alone runtime.core.nextSessionId .ingress
  | .read ref outcome _ =>
    runtime.core.ReaderEnds ref outcome → ∀ session ∈ runtime.core.arena[ref]?,
      ∀ ref' ∈ runtime.core.sessions.lookup session.sessionId, ref' = ref
  | _ => True

instance (runtime : TunnelTcpRuntime) (event : TunnelEvent) : Decidable (runtime.LegApart event) := by
  unfold LegApart
  split <;> infer_instance

/-- All events of a run keep the legs apart. -/
def LegsApart : TunnelTcpRuntime → List TunnelEvent → Prop
  | _, [] => True
  | runtime, event :: events => runtime.LegApart event ∧ (runtime.step event).LegsApart events

instance decidableLegsApart : (runtime : TunnelTcpRuntime) → (events : List TunnelEvent) →
    Decidable (runtime.LegsApart events)
  | _, [] => inferInstanceAs (Decidable True)
  | runtime, event :: events =>
    have := decidableLegsApart (runtime.step event) events
    inferInstanceAs (Decidable (_ ∧ _))

/-! ## The table is what the core finds -/

theorem length_keys (core : AsyncTunnelCore) : core.directory.keys.length = core.arena.length := by
  simp [AsyncTunnelCore.directory]

theorem creates_iff {runtime : TunnelTcpRuntime} {event : TunnelEvent} :
    runtime.Creates event ↔ runtime.core.directory.keys.length <
      (runtime.step event).core.directory.keys.length := by
  rw [length_keys, length_keys, Creates]

/-- A new session is entered under its id and leg. -/
theorem agrees_created {runtime : TunnelTcpRuntime} {event : TunnelEvent}
    {table : Table UInt64 FrameLeg} (hwf : runtime.core.directory.Wf)
    (h : runtime.core.directory.Agrees table) {sessionId : UInt64} {leg : FrameLeg}
    (halone : runtime.core.directory.Alone sessionId leg)
    (hcases : (runtime.step event).core.directory = runtime.core.directory ∨
      (runtime.step event).core.directory = runtime.core.directory.insert sessionId leg) :
    (runtime.step event).core.directory.Agrees
      (if runtime.Creates event then table.set sessionId leg (some runtime.core.arena.length)
        else table) := by
  rcases hcases with hd | hd
  · have hnot : ¬ runtime.Creates event := by
      rw [creates_iff, hd]
      exact lt_irrefl _
    rw [if_neg hnot, hd]
    exact h
  · have hcreates : runtime.Creates event := by
      rw [creates_iff, hd]
      simp [Directory.insert]
    rw [if_pos hcreates, hd, ← length_keys]
    exact Directory.agrees_insert hwf h halone

theorem step_serverFrame_of_ok {runtime : TunnelTcpRuntime} {frame : KtpFrame}
    {dial : String → TcpDial} {responses : List KtpFrame}
    (h : (runtime.handleServerFrame frame dial).1 = .ok responses) :
    runtime.step (.serverFrame frame dial) = (runtime.handleServerFrame frame dial).2 := by
  rw [step, handleTunnelDataSessionFrame]
  split <;> rename_i hresult <;> rw [hresult] at h ⊢
  cases h

theorem agrees_serverFrame {runtime : TunnelTcpRuntime} {table : Table UInt64 FrameLeg}
    (hwf : runtime.core.directory.Wf) (h : runtime.core.directory.Agrees table) (frame : KtpFrame)
    (dial : String → TcpDial) (hapart : runtime.FrameApart frame) {responses : List KtpFrame}
    (hok : (runtime.handleServerFrame frame dial).1 = .ok responses) :
    (runtime.step (.serverFrame frame dial)).core.directory.Agrees
      (runtime.tableAfterFrame frame dial table) := by
  have hstep := step_serverFrame_of_ok hok
  have hcases := handleServerFrame_cases runtime frame dial
  rw [← hstep] at hcases
  unfold tableAfterFrame
  unfold FrameApart at hapart
  cases htype : frame.frameType with
  | sessionOpen =>
    simp only [htype] at hapart hcases ⊢
    by_cases hleg : frame.leg = .egress
    · refine agrees_created hwf h (hapart hleg) ?_
      rcases hcases with ⟨-, -, hd⟩ | ⟨-, -, hd⟩ | ⟨hclose, -⟩
      · exact Or.inl hd
      · exact Or.inr hd
      · rcases hclose with hclose | hclose <;> cases hclose
    · -- an open frame of the ingress leg is ignored
      have hsame : runtime.step (.serverFrame frame dial) = runtime := by
        rw [hstep, handleServerFrame, htype]
        simp only [if_neg hleg]
      have hnot : ¬ runtime.Creates (.serverFrame frame dial) := by
        rw [Creates, hsame]
        exact lt_irrefl _
      rw [if_neg hnot, hsame]
      exact h
  | sessionClose | sessionError =>
    simp only [htype] at hapart hcases ⊢
    rcases hcases with ⟨hne, hne', -⟩ | ⟨hopen, -⟩ | ⟨-, hd⟩
    · first | exact absurd rfl hne | exact absurd rfl hne'
    · cases hopen
    · exact hd ▸ Directory.agrees_erase h hapart
  | _ =>
    simp only [htype] at hcases ⊢
    rcases hcases with ⟨-, -, hd⟩ | ⟨hopen, -⟩ | ⟨hclose, -⟩
    · exact hd ▸ h
    · cases hopen
    · rcases hclose with hclose | hclose <;> cases hclose

theorem agrees_step {runtime : TunnelTcpRuntime} {table : Table UInt64 FrameLeg}
    (hwf : runtime.core.directory.Wf) (h : runtime.core.directory.Agrees table)
    (event : TunnelEvent) (hapart : runtime.LegApart event) :
    (runtime.step event).core.directory.Agrees (runtime.nextTable event table) := by
  cases event with
  | updateRules rules => exact h
  | serverFrame frame dial =>
    rw [nextTable]
    cases hresult : (runtime.handleServerFrame frame dial).1 with
    | ok responses => exact agrees_serverFrame hwf h frame dial hapart hresult
    | error error =>
      -- the carrier ends, and all sessions with it
      have hstep : runtime.step (.serverFrame frame dial) =
          (runtime.handleServerFrame frame dial).2.closeAllSessions := by
        rw [step, handleTunnelDataSessionFrame]
        split <;> rename_i hpair <;> rw [hpair] at hresult ⊢
        cases hresult
      rw [hstep, closeAllSessions, AsyncTunnelCore.directory_closeAllSessions]
      exact Directory.agrees_clear _
  | accept payload now =>
    exact agrees_created hwf h hapart (AsyncTunnelCore.acceptIngress_cases runtime.core payload now)
  | read ref outcome now =>
    rw [nextTable]
    rcases AsyncTunnelCore.sessionReader_cases runtime.core ref outcome now with
      ⟨hnot, hd⟩ | ⟨session, hs, hends, hd⟩
    · rw [if_neg hnot]
      exact hd ▸ h
    · rw [if_pos hends]
      have hkey : runtime.core.directory.keys[ref]? = some (session.sessionId, session.leg) := by
        simp [AsyncTunnelCore.directory, hs]
      exact hd ▸ Directory.agrees_drop h hkey (hapart hends session hs)
  | write ref outcome =>
    exact (AsyncTunnelCore.directory_sessionWriter runtime.core ref outcome).symm ▸ h
  | drain maxFrames now => exact h
  | disconnect =>
    rw [step, closeAllSessions, AsyncTunnelCore.directory_closeAllSessions]
    exact Directory.agrees_clear _

/-- **Along a run that keeps the legs apart, the core finds what the table finds.** -/
theorem agrees_runTable (runtime : TunnelTcpRuntime) {table : Table UInt64 FrameLeg}
    (hwf : runtime.core.directory.Wf) (h : runtime.core.directory.Agrees table)
    (events : List TunnelEvent) (hapart : runtime.LegsApart events) :
    (runtime.runTable table events).1.core.directory.Wf ∧
      (runtime.runTable table events).1.core.directory.Agrees
        (runtime.runTable table events).2 := by
  induction events generalizing runtime table with
  | nil => exact ⟨hwf, h⟩
  | cons event events ih =>
    exact ih _ (wf_step hwf event) (agrees_step hwf h event hapart.1) hapart.2

/-! ## What a frame affects -/

/-- The frame affects only the session that the table holds under its id and leg: data reaches the
writer of that session, and a close or error frame closes it. -/
structure OnlyAffects (runtime : TunnelTcpRuntime) (table : Table UInt64 FrameLeg)
    (frame : KtpFrame) (runtime' : TunnelTcpRuntime) : Prop where
  other_sessions : ∀ ref, table frame.sessionId frame.leg ≠ some ref →
    runtime'.core.arena[ref]? = runtime.core.arena[ref]?
  other_ids : ∀ sessionId, sessionId ≠ frame.sessionId →
    runtime'.core.sessions.lookup sessionId = runtime.core.sessions.lookup sessionId
  data : frame.frameType = .sessionData → ∀ ref session,
    table frame.sessionId frame.leg = some ref → runtime.core.arena[ref]? = some session →
      runtime'.core.sessions.lookup frame.sessionId = some ref ∧
        (session.Admits frame.payload.length runtime.core.limits.maxSessionPendingBytes →
          runtime'.core.arena[ref]? = some (session.received frame.payload))
  close : frame.frameType = .sessionClose ∨ frame.frameType = .sessionError → ∀ ref session,
    table frame.sessionId frame.leg = some ref → runtime.core.arena[ref]? = some session →
      runtime'.core.sessions.lookup frame.sessionId = none ∧
        runtime'.core.arena[ref]? = some session.stopped

section Frame

variable {runtime : TunnelTcpRuntime} {table : Table UInt64 FrameLeg} {frame : KtpFrame}

/-- The session that the core finds is the one of the table. -/
theorem table_of_lookup (h : runtime.core.directory.Agrees table)
    (hapart : runtime.core.directory.Alone frame.sessionId frame.leg) {ref : ℕ}
    (href : runtime.core.sessions.lookup frame.sessionId = some ref) :
    table frame.sessionId frame.leg = some ref :=
  (h _ _ _).mpr ⟨href, hapart ref href⟩

theorem onlyAffects_data (h : runtime.core.directory.Agrees table)
    (hapart : runtime.core.directory.Alone frame.sessionId frame.leg)
    (htype : frame.frameType = .sessionData) (dial : String → TcpDial) :
    runtime.OnlyAffects table frame (runtime.handleServerFrame frame dial).2 := by
  have hnotclose : ¬ (frame.frameType = .sessionClose ∨ frame.frameType = .sessionError) := by
    rw [htype]
    rintro (h | h) <;> cases h
  rcases runtime.core.handleSessionData_cases frame.sessionId frame.leg frame.payload with
    ⟨ref, session, href, hs, hadmits, hdata⟩ | ⟨ref, session, href, hs, hrefused, error, -, hdata⟩ |
      ⟨habsent, hdata⟩
  · have hcore : (runtime.handleServerFrame frame dial).2.core =
        runtime.core.modifySession ref fun _ => session.received frame.payload := by
      simp only [handleServerFrame, htype, hdata]
    have htable := table_of_lookup h hapart href
    refine ⟨?_, ?_, ?_, fun hclose => absurd hclose hnotclose⟩
    · intro ref' hne
      have hother : ref' ≠ ref := by
        rintro rfl
        exact hne htable
      rw [hcore]
      exact AsyncTunnelCore.getElem?_modifySession_of_ne _ hother _
    · intro sessionId _
      rw [hcore]
      rfl
    · intro _ ref' session' htable' hs'
      cases Option.some.inj (htable.symm.trans htable')
      cases Option.some.inj (hs.symm.trans hs')
      rw [hcore]
      exact ⟨href, fun _ => AsyncTunnelCore.getElem?_modifySession_self hs _⟩
  · have hcore : (runtime.handleServerFrame frame dial).2.core = runtime.core := by
      simp only [handleServerFrame, htype, hdata]
      split_ifs <;> rfl
    refine ⟨fun _ _ => by rw [hcore], fun _ _ => by rw [hcore], ?_,
      fun hclose => absurd hclose hnotclose⟩
    intro _ ref' session' htable' hs'
    cases Option.some.inj (href.symm.trans ((h _ _ _).mp htable').1)
    cases Option.some.inj (hs.symm.trans hs')
    exact ⟨hcore ▸ href, fun hadmits => absurd hadmits hrefused⟩
  · have hcore : (runtime.handleServerFrame frame dial).2.core = runtime.core := by
      simp only [handleServerFrame, htype, hdata]
      split_ifs <;> rfl
    refine ⟨fun _ _ => by rw [hcore], fun _ _ => by rw [hcore], ?_,
      fun hclose => absurd hclose hnotclose⟩
    intro _ ref' session' htable' hs'
    rw [habsent ref' ((h _ _ _).mp htable').1] at hs'
    cases hs'

theorem onlyAffects_close (h : runtime.core.directory.Agrees table)
    (hapart : runtime.core.directory.Alone frame.sessionId frame.leg)
    (htype : frame.frameType = .sessionClose ∨ frame.frameType = .sessionError)
    (dial : String → TcpDial) :
    runtime.OnlyAffects table frame (runtime.handleServerFrame frame dial).2 := by
  have hnotdata : frame.frameType ≠ .sessionData := by
    rintro hdata
    rw [hdata] at htype
    rcases htype with h | h <;> cases h
  have hcore : (runtime.handleServerFrame frame dial).2.core =
      (runtime.core.closeSession frame.sessionId).2 := by
    rcases htype with h | h <;> simp only [handleServerFrame, h]
  have hholder : ∀ sessionId,
      (runtime.handleServerFrame frame dial).2.core.sessions.lookup sessionId =
        Function.update runtime.core.directory.holder frame.sessionId none sessionId := by
    intro sessionId
    rw [hcore]
    exact congrFun (congrArg Directory.holder
      (AsyncTunnelCore.directory_closeSession runtime.core frame.sessionId)) sessionId
  refine ⟨?_, ?_, fun hdata => absurd hdata hnotdata, ?_⟩
  · intro ref hne
    rw [hcore]
    cases href : runtime.core.sessions.lookup frame.sessionId with
    | none => rw [AsyncTunnelCore.closeSession_of_none href]
    | some ref' =>
      have htable := table_of_lookup h hapart href
      have hs := hapart ref' href
      simp only [AsyncTunnelCore.directory, List.getElem?_map, Option.map_eq_some_iff] at hs
      obtain ⟨session, hs, -⟩ := hs
      have hother : ref ≠ ref' := by
        rintro rfl
        exact hne htable
      rw [AsyncTunnelCore.arena_closeSession href hs]
      exact AsyncTunnelCore.getElem?_modifySession_of_ne _ hother _
  · intro sessionId hne
    rw [hholder, Function.update_of_ne hne]
    rfl
  · intro _ ref session htable hs
    have href := ((h _ _ _).mp htable).1
    refine ⟨by rw [hholder, Function.update_self], ?_⟩
    rw [hcore, AsyncTunnelCore.arena_closeSession href hs]
    exact AsyncTunnelCore.getElem?_modifySession_self hs _

end Frame

/-- **Demultiplexing.** In every state reached by events that keep the legs apart, the sessions of
the table are in the map under their id, and a data, close or error frame that meets no session of
the other leg affects only the session created under its id and leg. -/
theorem legs_demultiplexed (limits : TunnelRuntimeLimits) (dataTransport : String)
    (events : List TunnelEvent) (hapart : (new limits dataTransport).LegsApart events) :
    (∀ sessionId leg ref,
        ((new limits dataTransport).runTable .empty events).2 sessionId leg = some ref →
          ((new limits dataTransport).runTable .empty events).1.core.sessions.lookup sessionId =
              some ref ∧
            ∃ session,
              ((new limits dataTransport).runTable .empty events).1.core.arena[ref]? = some session ∧
                session.sessionId = sessionId ∧ session.leg = leg) ∧
      ∀ frame dial,
        (frame.frameType = .sessionData ∨ frame.frameType = .sessionClose ∨
          frame.frameType = .sessionError) →
        ((new limits dataTransport).runTable .empty events).1.FrameApart frame →
          ((new limits dataTransport).runTable .empty events).1.OnlyAffects
            ((new limits dataTransport).runTable .empty events).2 frame
            (((new limits dataTransport).runTable .empty events).1.handleServerFrame frame dial).2 := by
  obtain ⟨-, hagrees⟩ := agrees_runTable (new limits dataTransport) Directory.wf_empty
    Directory.agrees_empty events hapart
  generalize (new limits dataTransport).runTable .empty events = state at hagrees ⊢
  obtain ⟨runtime, table⟩ := state
  simp only at hagrees ⊢
  refine ⟨?_, ?_⟩
  · intro sessionId leg ref htable
    obtain ⟨href, hkey⟩ := (hagrees sessionId leg ref).mp htable
    simp only [AsyncTunnelCore.directory, List.getElem?_map, Option.map_eq_some_iff,
      Prod.mk.injEq] at hkey
    exact ⟨href, hkey⟩
  · intro frame dial htype hframe
    unfold FrameApart at hframe
    rcases htype with htype | htype | htype <;> simp only [htype] at hframe
    · exact onlyAffects_data hagrees hframe htype dial
    · exact onlyAffects_close hagrees hframe (Or.inl htype) dial
    · exact onlyAffects_close hagrees hframe (Or.inr htype) dial

/-- The connection that a listener of the local rule accepts. -/
def localAccept : TunnelSessionOpenPayload where
  ruleId := 7
  listenHost := "0.0.0.0"
  listenPort := 10088
  sourceAddr := "10.0.0.9:50000"

/-- An ingress session with the id 1 and an egress session with the id 5. -/
def apartRun : List TunnelEvent :=
  [.updateRules [localRule], .accept localAccept 0, .serverFrame (localOpen 5) fun _ => .connected]

/-- A byte for the ingress session leaves the egress session alone. -/
theorem legs_demultiplexed_apart :
    (new .default "websocket").LegsApart apartRun ∧
      (((new .default "websocket").runTable .empty apartRun).1.handleServerFrame
          (AsyncTunnelCore.dataFrame .ingress 1 [0x61]) fun _ => .connected).2.core.arena[1]? =
        ((new .default "websocket").runTable .empty apartRun).1.core.arena[1]? := by
  have hapart : (new .default "websocket").LegsApart apartRun := by decide +kernel
  have hframe : ((new .default "websocket").runTable .empty apartRun).1.FrameApart
      (AsyncTunnelCore.dataFrame .ingress 1 [0x61]) := by decide +kernel
  have hother : ((new .default "websocket").runTable .empty apartRun).2 1 .ingress ≠ some 1 := by
    decide +kernel
  exact ⟨hapart, ((legs_demultiplexed .default "websocket" apartRun hapart).2
    (AsyncTunnelCore.dataFrame .ingress 1 [0x61]) (fun _ => .connected) (Or.inl rfl)
    hframe).other_sessions 1 hother⟩

/-- Both ends of a loopback: the agent gives its ingress session the id 1, and the server opens the
egress session under the same id. -/
def loopbackRun : List TunnelEvent :=
  [.updateRules [localRule], .accept localAccept 0, .serverFrame (localOpen 1) fun _ => .connected]

/-- The egress session takes the place of the ingress session, and a byte for the ingress session
reaches the writer of the egress session. -/
theorem loopback_sessions_collide :
    ((new .default "websocket").runTable .empty loopbackRun).2 1 .ingress = some 0 ∧
    ((new .default "websocket").runTable .empty loopbackRun).2 1 .egress = some 1 ∧
    ((new .default "websocket").runTable .empty loopbackRun).1.core.sessions.lookup 1 = some 1 ∧
    ((((new .default "websocket").runTable .empty loopbackRun).1.handleServerFrame
        (AsyncTunnelCore.dataFrame .ingress 1 [0x61]) fun _ => .connected).2.core.arena.map
          (·.toTcp)) = [[], [[0x61]]] := by
  decide +kernel

end TunnelTcpRuntime

end KeliAgent
