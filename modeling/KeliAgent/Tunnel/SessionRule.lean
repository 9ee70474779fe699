import KeliAgent.Tunnel.DataSession

/-!
# The moves of a data session

The calls that a data session makes, as moves between positions: what has been greeted, which frames
of its runtime are still to be sent, and which frames read are still to be handled.

* `Move`, `Halt`: the calls after which a session goes on, and those after which it stops.
* `Reaches`, `Stops`: the traces of sessions that go on and of those that have stopped.
* **`session_follows`**: the trace of every session, in whatever world, is one of these, and
  `close_all_sessions` follows it.
-/

namespace KeliAgent

open Effect

/-- The call asks for frames of the outbound queue. -/
def RuntimeCall.IsDrain : RuntimeCall → Prop
  | .handleServerFrame _ => False
  | .nextClientFrames _ | .nextClientFramesAfterWait _ _ => True

namespace DataSession

open Program TunnelData

/-- Where a session is. In its loop it has the READY state sent last, the frames of the runtime that
are still to be sent, and the frames read that are still to be handled; a frame that is being
handled is a ping, or one for the runtime. -/
inductive Position where
  | connected
  | greeted
  | acknowledged
  | opened (last : TunnelDataReadyState) (pending unhandled : List KtpFrame)
  | pinged (last : TunnelDataReadyState) (payload : List UInt8) (unhandled : List KtpFrame)
  | serving (last : TunnelDataReadyState) (frame : KtpFrame) (unhandled : List KtpFrame)

/-- Nothing is under way. -/
def Position.Rests : Position → Prop
  | .connected | .greeted | .acknowledged => True
  | .opened _ pending unhandled => pending = [] ∧ unhandled = []
  | .pinged .. | .serving .. => False

/-- The loop of a session goes on after a send with this result. -/
def Lasting (result : Except TransportError Unit) : Prop :=
  result = .ok () ∨ result = .error .socketClosed

/-- The frames that may be sent at a position, and the position after them. -/
inductive Due : Position → FrameOrigin → List KtpFrame → Position → Prop
  | hello (payload : List UInt8) :
    Due .connected .hello [.connection .hello payload] .greeted
  | firstReady {ready : TunnelDataReadyState} {payload : List UInt8}
    (hpayload : encodeReadyPayload ready = .ok payload) :
    Due .acknowledged (.ready ready) [.connection .ready payload] (.opened ready [] [])
  | ready {last ready : TunnelDataReadyState} {payload : List UInt8}
    (hpayload : encodeReadyPayload ready = .ok payload) (hchanged : ready ≠ last) :
    Due (.opened last [] []) (.ready ready) [.connection .ready payload] (.opened ready [] [])
  | pong (last : TunnelDataReadyState) (payload : List UInt8) (unhandled : List KtpFrame) :
    Due (.pinged last payload unhandled) .pong [.connection .pong payload]
      (.opened last [] unhandled)
  | runtime (last : TunnelDataReadyState) (sent pending unhandled : List KtpFrame) :
    Due (.opened last (sent ++ pending) unhandled) .runtime sent (.opened last pending unhandled)

/-- A call after which the session goes on. -/
inductive Move : Position → DataSessionEvent → Position → Prop
  | send {p p' : Position} {origin : FrameOrigin} {sent : List KtpFrame}
    {result : Except TransportError Unit} (hdue : Due p origin sent p')
    (hlasting : Lasting result) : Move p (.send origin sent result) p'
  | acknowledged {bytes : List UInt8} {frame : KtpFrame}
    (hdecode : decodeFrame bytes ktpMaxPayloadLen = .ok frame)
    (htype : frame.frameType = .helloAck) :
    Move .greeted (.readFrame (.ok bytes)) .acknowledged
  | read (last : TunnelDataReadyState) (frames : Option (List KtpFrame)) :
    Move (.opened last [] []) (.readBatch (.ok frames)) (.opened last [] (frames.getD []))
  | handlePing {last : TunnelDataReadyState} {frame : KtpFrame} {unhandled : List KtpFrame}
    (htype : frame.frameType = .ping) :
    Move (.opened last [] (frame :: unhandled)) (.handle frame)
      (.pinged last frame.payload unhandled)
  | handleSession {last : TunnelDataReadyState} {frame : KtpFrame} {unhandled : List KtpFrame}
    (htype : frame.frameType.isConnectionLevel = false) :
    Move (.opened last [] (frame :: unhandled)) (.handle frame) (.serving last frame unhandled)
  | ignore {last : TunnelDataReadyState} {frame : KtpFrame} {unhandled : List KtpFrame}
    (htype : frame.frameType.isConnectionLevel = true) (hping : frame.frameType ≠ .ping) :
    Move (.opened last [] (frame :: unhandled)) (.handle frame) (.opened last [] unhandled)
  | responded (last : TunnelDataReadyState) (frame : KtpFrame) (unhandled frames : List KtpFrame) :
    Move (.serving last frame unhandled) (.returned (.handleServerFrame frame) (.ok frames))
      (.opened last frames unhandled)
  | drained {call : RuntimeCall} (hcall : call.IsDrain) (last : TunnelDataReadyState)
    (frames : List KtpFrame) :
    Move (.opened last [] []) (.returned call (.ok frames)) (.opened last frames [])

/-- A call after which the session stops. -/
inductive Halt : Position → DataSessionEvent → Prop
  | send {p p' : Position} {origin : FrameOrigin} {sent : List KtpFrame}
    (hdue : Due p origin sent p') (error : TransportError) :
    Halt p (.send origin sent (.error error))
  | refused (result : Except TransportError (List UInt8)) : Halt .greeted (.readFrame result)
  | readFailed (last : TunnelDataReadyState) (error : TransportError) :
    Halt (.opened last [] []) (.readBatch (.error error))
  | responseFailed (last : TunnelDataReadyState) (frame : KtpFrame) (unhandled : List KtpFrame)
    (error : TransportError) :
    Halt (.serving last frame unhandled) (.returned (.handleServerFrame frame) (.error error))
  | drainFailed {call : RuntimeCall} (hcall : call.IsDrain) (last : TunnelDataReadyState)
    (error : TransportError) : Halt (.opened last [] []) (.returned call (.error error))

/-- The traces of connected sessions, with their positions. -/
inductive Reaches : Position → Trace → Prop
  | connected : Reaches .connected [.connect (.ok ())]
  | move {p p' : Position} {t : Trace} {event : DataSessionEvent} (h : Reaches p t)
    (hmove : Move p event p') : Reaches p' (t ++ [event])

/-- The traces of connected sessions that have stopped. -/
inductive Stops : Trace → Prop
  | rest {p : Position} {t : Trace} (h : Reaches p t) (hrests : p.Rests) : Stops t
  | halt {p : Position} {t : Trace} {event : DataSessionEvent} (h : Reaches p t)
    (hhalt : Halt p event) : Stops (t ++ [event])

/-- The trace of a session with its result. A session that could not connect does nothing more; any
other one closes all sessions of the runtime when it has stopped. -/
def Follows : Except SessionEnd (Except TransportError Unit) → Trace → Prop
  | .error reason, t => reason = .unfinished ∧ Stops t
  | .ok _, t =>
    (∃ error, t = [.connect (.error error)]) ∨
      ∃ session, Stops session ∧ t = session ++ [.closeAllSessions "carrier_disconnect"]

/-! ## Every session makes these moves -/

namespace Reaches

variable {W : Type} {world : DataSessionWorld W} {t : Trace} {p p' : Position}
  {last : TunnelDataReadyState} {pending unhandled : List KtpFrame} {fuel : ℕ}

theorem orFail {α : Type} {result : Except TransportError α} (h : Reaches p t) (hrests : p.Rests) :
    Ensures (orFail result : DataSession W α) (fun a t => result = .ok a ∧ Reaches p t)
      (fun _ => Stops) t := by
  cases result with
  | ok a => exact Ensures.pure ⟨rfl, h⟩
  | error error => exact Ensures.stop (.rest h hrests)

theorem unlessClosed {outcome : SendFrameOutcome} (h : Reaches p t) (hrests : p.Rests) :
    Ensures (unlessClosed outcome : DataSession W Unit) (fun _ => Reaches p) (fun _ => Stops) t := by
  cases outcome with
  | sent => exact Ensures.pure h
  | closed => exact Ensures.stop (.rest h hrests)

theorem sent {origin : FrameOrigin} {frames : List KtpFrame}
    {method : W → Except TransportError Unit × W} (h : Reaches p t)
    (hdue : Due p origin frames p') :
    Ensures (do
        let result ← perform (.send origin frames) method
        sendOutcome result : DataSession W SendFrameOutcome)
      (fun _ => Reaches p') (fun _ => Stops) t := by
  refine Ensures.bind (Ensures.perform fun result => ?_)
  unfold sendOutcome
  split
  · exact Ensures.pure (.move h (.send hdue (.inl rfl)))
  · exact Ensures.pure (.move h (.send hdue (.inr rfl)))
  · exact Ensures.stop (.halt h (.send hdue _))

theorem sendReadyFrame {ready : TunnelDataReadyState} (h : Reaches p t) (hrests : p.Rests)
    (hdue : ∀ payload, encodeReadyPayload ready = .ok payload →
      Due p (.ready ready) [.connection .ready payload] p') :
    Ensures (sendReadyFrame world ready) (fun _ => Reaches p') (fun _ => Stops) t := by
  refine (h.orFail hrests).seq fun payload t ⟨hpayload, h⟩ => ?_
  exact h.sent (hdue payload hpayload)

theorem takeDrained (h : Reaches (.opened last [] []) t) (call : RuntimeCall)
    (hcall : call.IsDrain) :
    Ensures (takeReturned world call) (fun frames => Reaches (.opened last frames []))
      (fun _ => Stops) t := by
  refine Ensures.bind (Ensures.perform fun result => ?_)
  cases result with
  | ok frames => exact Ensures.pure (.move h (.drained hcall last frames))
  | error error => exact Ensures.stop (.halt h (.drainFailed hcall last error))

theorem takeResponses {frame : KtpFrame} (h : Reaches (.serving last frame unhandled) t) :
    Ensures (takeReturned world (.handleServerFrame frame))
      (fun frames => Reaches (.opened last frames unhandled)) (fun _ => Stops) t := by
  refine Ensures.bind (Ensures.perform fun result => ?_)
  cases result with
  | ok frames => exact Ensures.pure (.move h (.responded last frame unhandled frames))
  | error error => exact Ensures.stop (.halt h (.responseFailed last frame unhandled error))

theorem sendTunnelSessionRuntimeFrameBatch (h : Reaches (.opened last pending unhandled) t) :
    Ensures (sendTunnelSessionRuntimeFrameBatch world pending)
      (fun _ => Reaches (.opened last [] unhandled)) (fun _ => Stops) t := by
  have hdue := Due.runtime last pending [] unhandled
  rw [List.append_nil] at hdue
  refine (h.sent hdue).seq ?_
  exact fun _ _ h => Ensures.pure h

/-- The frames that the runtime returns are sent, until it returns none. -/
theorem drainTunnelSessionRuntimeFrames (h : Reaches (.opened last [] []) t) :
    Ensures (drainTunnelSessionRuntimeFrames world fuel) (fun _ => Reaches (.opened last [] []))
      (fun _ => Stops) t := by
  refine Ensures.bind (Ensures.bind (Ensures.ask fun limit => Ensures.pure ?_))
  refine Ensures.iterate (I := fun _ => Reaches (.opened last [] []))
    (fun _ _ h => .rest h ⟨rfl, rfl⟩) ?_ fuel h
  intro count t h
  refine (h.takeDrained (.nextClientFrames _) trivial).seq fun frames t h => ?_
  split_ifs with hempty
  · subst hempty
    exact Ensures.pure h
  · refine h.sendTunnelSessionRuntimeFrameBatch.seq ?_
    exact fun _ _ h => Ensures.pure h

theorem drainTunnelSessionRuntimeFramesAfterWait {timeout : ℕ}
    (h : Reaches (.opened last [] []) t) :
    Ensures (drainTunnelSessionRuntimeFramesAfterWait world fuel timeout)
      (fun _ => Reaches (.opened last [] [])) (fun _ => Stops) t := by
  refine Ensures.bind (Ensures.bind (Ensures.ask fun limit => Ensures.pure ?_))
  refine (h.takeDrained (.nextClientFramesAfterWait _ timeout) trivial).seq fun frames t h => ?_
  split_ifs with hempty
  · subst hempty
    exact Ensures.pure h
  · refine h.sendTunnelSessionRuntimeFrameBatch.seq fun _ t h => ?_
    refine h.drainTunnelSessionRuntimeFrames.seq ?_
    exact fun _ _ h => Ensures.pure h

/-- The responses of the runtime are sent one by one; those that are left are pending. -/
theorem sendResponses {frame : KtpFrame} (h : Reaches (.serving last frame unhandled) t) :
    Ensures (do
        let responses ← takeReturned world (.handleServerFrame frame)
        fold (sendResponse world) () responses)
      (fun _ => Reaches (.opened last [] unhandled)) (fun _ => Stops) t := by
  refine h.takeResponses.seq fun responses t h => ?_
  refine Ensures.fold (I := fun _ rest => Reaches (.opened last rest unhandled))
    (fun _ response rest t h => ?_) h
  refine (h.sent (.runtime last [response] rest unhandled)).seq ?_
  exact fun _ _ h => Ensures.pure h

theorem handleTunnelDataSessionFrame {frame : KtpFrame}
    (h : Reaches (.opened last [] (frame :: unhandled)) t) :
    Ensures (handleTunnelDataSessionFrame world () frame)
      (fun _ => Reaches (.opened last [] unhandled)) (fun _ => Stops) t := by
  refine Ensures.bind (Ensures.emit ?_)
  unfold answerFrame
  cases htype : frame.frameType with
  | ping =>
    refine ((h.move (.handlePing htype)).sent (.pong last frame.payload unhandled)).seq ?_
    exact fun _ _ h => Ensures.pure h
  | sessionOpen | sessionAccept | sessionData | sessionWindow | sessionClose | sessionError =>
    exact (h.move (.handleSession (by rw [htype]; rfl))).sendResponses
  | hello | helloAck | ready | pong | stats =>
    exact Ensures.pure (h.move (.ignore (by rw [htype]; rfl) (by rw [htype]; exact nofun)))

theorem handleTunnelDataSessionFrames {frames : List KtpFrame}
    (h : Reaches (.opened last [] frames) t) :
    Ensures (handleTunnelDataSessionFrames world frames) (fun _ => Reaches (.opened last [] []))
      (fun _ => Stops) t :=
  Ensures.fold (I := fun _ rest => Reaches (.opened last [] rest))
    (fun _ _ _ _ h => h.handleTunnelDataSessionFrame) h

/-- After a read: there are frames to handle, or the session stops. -/
def afterRead (last : TunnelDataReadyState) :
    Except TransportError (Option (List KtpFrame)) → Trace → Prop
  | .ok frames => Reaches (.opened last [] (frames.getD []))
  | .error _ => Stops

theorem readBatch (h : Reaches (.opened last [] []) t) :
    Ensures (readBatch world) (afterRead last) (fun _ => Stops) t := by
  have hafter (result : Except TransportError (Option (List KtpFrame))) :
      afterRead last result (t ++ [DataSessionEvent.readBatch result]) := by
    cases result with
    | ok frames => exact .move h (.read last frames)
    | error error => exact .halt h (.readFailed last error)
  refine Ensures.bind (Ensures.ask fun timeout => ?_)
  cases timeout <;> exact Ensures.perform hafter

theorem handleRead {result : Except TransportError (Option (List KtpFrame))}
    (h : afterRead last result t) :
    Ensures (handleRead world result) (fun _ => Reaches (.opened last [] [])) (fun _ => Stops) t := by
  rcases result with error | _ | frames
  · cases error <;> exact Ensures.stop h
  · exact Ensures.pure h
  · exact handleTunnelDataSessionFrames h

theorem refreshReady {currentReady : TunnelDataReadyState} (h : Reaches (.opened last [] []) t) :
    Ensures (refreshReady world last currentReady) (fun ready => Reaches (.opened ready [] []))
      (fun _ => Stops) t := by
  unfold DataSession.refreshReady
  split_ifs with hchanged
  · refine (h.sendReadyFrame ⟨rfl, rfl⟩
      fun payload hpayload => .ready hpayload hchanged).seq fun outcome t h => ?_
    exact (h.unlessClosed ⟨rfl, rfl⟩).seq fun _ _ h => Ensures.pure h
  · exact Ensures.pure h

theorem waitForFrames {sent : ℕ} (h : Reaches (.opened last [] []) t) :
    Ensures (waitForFrames world fuel sent) (fun _ => Reaches (.opened last [] []))
      (fun _ => Stops) t := by
  unfold DataSession.waitForFrames
  split_ifs
  · refine Ensures.bind (Ensures.ask fun timeout => ?_)
    cases timeout with
    | none => exact Ensures.pure h
    | some timeout =>
      refine h.drainTunnelSessionRuntimeFramesAfterWait.seq ?_
      exact fun _ _ h => Ensures.pure h
  · exact Ensures.pure h

/-- One round of the main loop. -/
theorem sessionRound (h : Reaches (.opened last [] []) t) :
    Ensures (sessionRound world fuel last)
      (Sum.elim (fun ready => Reaches (.opened ready [] [])) fun _ _ => False)
      (fun _ => Stops) t := by
  refine Ensures.bind (Ensures.ask fun ticked => ?_)
  refine (h.orFail ⟨rfl, rfl⟩).seq fun _ t ⟨_, h⟩ => ?_
  refine Ensures.bind (Ensures.ask fun currentReady => ?_)
  refine h.refreshReady.seq fun ready t h => ?_
  refine h.drainTunnelSessionRuntimeFrames.seq fun sent t h => ?_
  refine h.waitForFrames.seq fun _ t h => ?_
  refine h.readBatch.seq fun result t h => ?_
  exact (handleRead h).seq fun _ _ h => Ensures.pure h

theorem sendHello {agentIdHint agentVersion : String} (h : Reaches .connected t) :
    Ensures (sendHello world agentIdHint agentVersion) (fun _ => Reaches .greeted)
      (fun _ => Stops) t := by
  refine Ensures.bind (Ensures.ask fun ready => ?_)
  refine (h.orFail trivial).seq fun payload t ⟨_, h⟩ => ?_
  refine (h.sent (.hello payload)).seq fun outcome t h => ?_
  exact h.unlessClosed trivial

theorem readTunnelDataHelloAck (h : Reaches .greeted t) :
    Ensures (readTunnelDataHelloAck world) (fun _ => Reaches .acknowledged) (fun _ => Stops) t := by
  refine Ensures.bind (Ensures.perform fun result => ?_)
  have hrefused := Stops.halt h (.refused result)
  unfold checkHelloAck
  split
  · exact Ensures.stop hrefused
  · exact Ensures.stop hrefused
  · split
    · exact Ensures.stop hrefused
    · rename_i hdecode
      split_ifs with htype
      · exact Ensures.stop hrefused
      · exact Ensures.pure (h.move (.acknowledged hdecode (not_not.mp htype)))

theorem sendFirstReady (h : Reaches .acknowledged t) :
    Ensures (sendFirstReady world) (fun ready => Reaches (.opened ready [] []))
      (fun _ => Stops) t := by
  refine Ensures.bind (Ensures.ask fun ticked => ?_)
  refine (h.orFail trivial).seq fun _ t ⟨_, h⟩ => ?_
  refine Ensures.bind (Ensures.ask fun ready => ?_)
  refine (h.sendReadyFrame trivial fun payload hpayload => .firstReady hpayload).seq
    fun outcome t h => ?_
  exact (h.unlessClosed ⟨rfl, rfl⟩).seq fun _ _ h => Ensures.pure h

theorem runConnectedTunnelDataSession {agentIdHint agentVersion : String}
    (h : Reaches .connected t) :
    Ensures (runConnectedTunnelDataSession world agentIdHint agentVersion fuel) (fun _ _ => False)
      (fun _ => Stops) t := by
  refine h.sendHello.seq fun _ t h => ?_
  refine h.readTunnelDataHelloAck.seq fun _ t h => ?_
  refine h.sendFirstReady.seq fun ready t h => ?_
  exact Ensures.iterate (I := fun ready => Reaches (.opened ready [] []))
    (fun _ _ h => .rest h ⟨rfl, rfl⟩) (fun _ _ h => h.sessionRound) fuel h

end Reaches

section Session

variable {W : Type} (world : DataSessionWorld W) {t : Trace}

theorem Stops.cleanup (h : Stops t) :
    Ensures (cleanup world) (fun result => Follows (.ok result))
      (fun reason => Follows (.error reason)) t :=
  Ensures.perform fun _ => .inr ⟨t, h, rfl⟩

theorem Stops.finish (h : Stops t) (reason : SessionEnd) :
    Ensures (finish world (.error reason)) (fun result => Follows (.ok result))
      (fun reason => Follows (.error reason)) t := by
  cases reason with
  | closed => exact h.cleanup world
  | failed error => exact (h.cleanup world).seq fun _ _ h => Ensures.pure h
  | unfinished => exact Ensures.stop ⟨rfl, h⟩

/-- **The moves of every session**, whatever the server, the source of READY states and the session
runtime do. -/
theorem session_follows (agentIdHint agentVersion : String) (fuel : ℕ) (w : W) :
    Follows (runTunnelDataSession world agentIdHint agentVersion fuel w).result
      (runTunnelDataSession world agentIdHint agentVersion fuel w).trace := by
  have hensures : Ensures (runTunnelDataSession world agentIdHint agentVersion fuel)
      (fun result => Follows (.ok result)) (fun reason => Follows (.error reason)) [] := by
    refine Ensures.bind (Ensures.perform fun connected => ?_)
    cases connected with
    | error error => exact Ensures.pure (.inl ⟨error, rfl⟩)
    | ok _ =>
      refine Ensures.bind (Ensures.attempt (Reaches.connected.runConnectedTunnelDataSession.mono ?_
        fun reason t h => h.finish world reason))
      exact fun _ _ h => h.elim
  have hw := hensures.run w
  cases hresult : (runTunnelDataSession world agentIdHint agentVersion fuel w).result <;>
    rw [hresult] at hw <;> exact hw

/-- A property of the traces of sessions that have stopped, which the closing call keeps. -/
theorem Follows.rule {E : Trace → Prop} {result : Except SessionEnd (Except TransportError Unit)}
    (h : Follows result t) (hrefused : ∀ error, E [.connect (.error error)])
    (hstops : ∀ {t}, Stops t → E t)
    (hclosed : ∀ {t} (reason : String), E t → E (t ++ [DataSessionEvent.closeAllSessions reason])) :
    E t := by
  cases result with
  | error reason => exact hstops h.2
  | ok result =>
    rcases h with ⟨error, rfl⟩ | ⟨session, hsession, rfl⟩
    · exact hrefused error
    · exact hclosed _ (hstops hsession)

end Session

end DataSession

end KeliAgent
