import KeliAgent.Tunnel.SessionRule

/-!
# The protocol of a data session

* `Conforms`: the protocol that the frames of a session follow.
* `Abides`: what holds at each position of a session; `Reaches.abides`, by induction over its moves.
* **`session_trace`**: every session follows the protocol, and `close_all_sessions` is called once,
  as the last thing.
-/

namespace KeliAgent

open Effect

namespace DataSession

open TunnelData

/-! ## The protocol -/

section Protocol

variable (t : Trace)

/-- The first thing read from the server was an acknowledgement, and only a hello was sent before.
-/
def Acknowledged : Prop :=
  ∃ before bytes frame after, t = before ++ .readFrame (.ok bytes) :: after ∧
    (∀ event ∈ before, event.isRead = false ∧ ∀ sent ∈ event.sent, sent.1 = .hello) ∧
    decodeFrame bytes ktpMaxPayloadLen = .ok frame ∧ frame.frameType = .helloAck

end Protocol

/-! ## What holds at a position -/

namespace Position

/-- The READY state that was sent last. -/
def last : Position → Option TunnelDataReadyState
  | connected | greeted | acknowledged => none
  | opened last _ _ | pinged last _ _ | serving last _ _ => some last

/-- The frames of the runtime that are still to be sent. -/
def pending : Position → List KtpFrame
  | opened _ pending _ => pending
  | _ => []

/-- The frames read that are still to be handled. -/
def unhandled : Position → List KtpFrame
  | connected | greeted | acknowledged => []
  | opened _ _ unhandled | pinged _ _ unhandled | serving _ _ unhandled => unhandled

/-- The pings that are still to be answered. -/
def unanswered : Position → List (List UInt8)
  | pinged _ payload _ => [payload]
  | _ => []

/-- The session waits for the acknowledgement. -/
def Greeting : Position → Prop
  | connected | greeted => True
  | _ => False

/-- The frames that were sent, by their origins. -/
def Ordered : Position → List (FrameOrigin × KtpFrame) → Prop
  | connected, frames => frames = []
  | greeted, frames | acknowledged, frames => ∃ hello, hello.1 = .hello ∧ frames = [hello]
  | opened .., frames | pinged .., frames | serving .., frames =>
    ∃ hello first rest, hello.1 = .hello ∧ (∃ state, first.1 = .ready state) ∧
      (∀ sent ∈ rest, sent.1 ≠ .hello) ∧ frames = hello :: first :: rest

end Position

variable {t : Trace} {p p' : Position} {event : DataSessionEvent} {origin : FrameOrigin}
  {sent : List KtpFrame}

theorem Acknowledged.append (h : Acknowledged t) (t' : Trace) : Acknowledged (t ++ t') := by
  obtain ⟨before, bytes, frame, after, rfl, hbefore, hdecode, hack⟩ := h
  exact ⟨before, bytes, frame, after ++ t', by simp, hbefore, hdecode, hack⟩

theorem Position.Ordered.append {frames : List (FrameOrigin × KtpFrame)}
    (h : ∃ hello first rest, hello.1 = .hello ∧ (∃ state, first.1 = .ready state) ∧
      (∀ sent ∈ rest, sent.1 ≠ .hello) ∧ frames = hello :: first :: rest)
    {more : List (FrameOrigin × KtpFrame)} (hmore : ∀ sent ∈ more, sent.1 ≠ .hello) :
    ∃ hello first rest, hello.1 = .hello ∧ (∃ state, first.1 = .ready state) ∧
      (∀ sent ∈ rest, sent.1 ≠ .hello) ∧ frames ++ more = hello :: first :: rest := by
  obtain ⟨hello, first, rest, hhello, hfirst, hrest, rfl⟩ := h
  exact ⟨hello, first, rest ++ more, hhello, hfirst, List.forall_mem_append.mpr ⟨hrest, hmore⟩, rfl⟩

theorem Due.fits (h : Due p origin sent p') : ∀ frame ∈ sent, origin.Fits frame := by
  cases h with
  | hello payload | pong _ payload => exact List.forall_mem_singleton.mpr ⟨payload, rfl⟩
  | firstReady hpayload | ready hpayload =>
    exact List.forall_mem_singleton.mpr ⟨_, hpayload, rfl⟩
  | runtime => exact fun _ _ => trivial

theorem Due.ordered (h : Due p origin sent p') {frames : List (FrameOrigin × KtpFrame)}
    (hordered : p.Ordered frames) : p'.Ordered (frames ++ sent.map (origin, ·)) := by
  cases h with
  | hello payload =>
    rw [Position.Ordered] at hordered
    subst hordered
    exact ⟨_, rfl, rfl⟩
  | firstReady =>
    obtain ⟨hello, hhello, rfl⟩ := hordered
    exact ⟨hello, _, [], hhello, ⟨_, rfl⟩, fun _ hmem => absurd hmem List.not_mem_nil, rfl⟩
  | ready | pong =>
    exact Position.Ordered.append hordered (List.forall_mem_singleton.mpr nofun)
  | runtime =>
    refine Position.Ordered.append hordered fun frame hmem => ?_
    obtain ⟨_, -, rfl⟩ := List.mem_map.mp hmem
    exact nofun

theorem Move.ordered (h : Move p event p') {frames : List (FrameOrigin × KtpFrame)}
    (hordered : p.Ordered frames) : p'.Ordered (frames ++ event.sent) := by
  cases h with
  | send hdue => exact hdue.ordered hordered
  | _ =>
    rw [show DataSessionEvent.sent _ = [] from rfl, List.append_nil]
    exact hordered

theorem sentFrames_singleton (event : DataSessionEvent) : sentFrames [event] = event.sent :=
  List.flatMap_singleton _ _

/-- A READY state is sent only if it differs from the one sent last. -/
theorem Move.readies (h : Move p event p') :
    readies [event] = [] ∧ p'.last = p.last ∨
      ∃ ready, readies [event] = [ready] ∧ p'.last = some ready ∧ p.last ≠ some ready := by
  cases h with
  | send hdue =>
    rw [DataSession.readies, sentFrames_singleton]
    cases hdue with
    | hello | pong => exact .inl ⟨rfl, rfl⟩
    | firstReady => exact .inr ⟨_, rfl, rfl, (Option.some_ne_none _).symm⟩
    | ready _ hchanged => exact .inr ⟨_, rfl, rfl, fun heq => hchanged (Option.some.inj heq).symm⟩
    | runtime => exact .inl ⟨by simp [DataSessionEvent.sent, FrameOrigin.ready?], rfl⟩
  | _ => exact .inl ⟨rfl, rfl⟩

/-- Pings are answered one by one. -/
theorem Move.answered (h : Move p event p') :
    pongs [event] ++ p'.unanswered = p.unanswered ++ pings [event] := by
  cases h with
  | send hdue =>
    rw [pongs, sentFrames_singleton]
    cases hdue <;> simp [DataSessionEvent.sent, pings, DataSessionEvent.ping, Position.unanswered,
      KtpFrame.connection]
  | handlePing htype => simp [pongs, sentFrames, pings, DataSessionEvent.ping,
      DataSessionEvent.sent, Position.unanswered, htype]
  | @handleSession last frame unhandled htype =>
    have hping : frame.frameType ≠ .ping := by
      intro hping
      rw [hping] at htype
      cases htype
    simp [pongs, sentFrames, pings, DataSessionEvent.ping, DataSessionEvent.sent,
      Position.unanswered, hping]
  | ignore _ hping => simp [pongs, sentFrames, pings, DataSessionEvent.ping, DataSessionEvent.sent,
      Position.unanswered, hping]
  | _ => rfl

/-- What the runtime returns is sent in its order. -/
theorem Move.delivered (h : Move p event p') :
    runtimeFrames [event] ++ p'.pending = p.pending ++ returnedFrames [event] := by
  cases h with
  | send hdue =>
    rw [runtimeFrames, sentFrames_singleton]
    cases hdue <;> simp [DataSessionEvent.sent, returnedFrames, DataSessionEvent.returnedFrames,
      Position.pending]
  | responded | drained => simp [runtimeFrames, sentFrames, returnedFrames, DataSessionEvent.sent,
      DataSessionEvent.returnedFrames, Position.pending]
  | _ => rfl

/-- What is read is handled in its order. -/
theorem Move.handled (h : Move p event p') :
    DataSession.handled [event] ++ p'.unhandled = p.unhandled ++ readFrames [event] := by
  cases h with
  | send hdue => cases hdue <;> simp [DataSession.handled, DataSessionEvent.handled, readFrames,
      DataSessionEvent.readFrames, Position.unhandled]
  | read => simp [DataSession.handled, DataSessionEvent.handled, readFrames,
      DataSessionEvent.readFrames, Position.unhandled]
  | handlePing | handleSession | ignore => simp [DataSession.handled, DataSessionEvent.handled,
      readFrames, DataSessionEvent.readFrames, Position.unhandled]
  | acknowledged => rfl
  | responded | drained => simp [DataSession.handled, DataSessionEvent.handled, readFrames,
      DataSessionEvent.readFrames, Position.unhandled]

/-- What a session has done when it is at a position. -/
structure Abides (p : Position) (t : Trace) : Prop where
  ordered : p.Ordered (sentFrames t)
  greeting : p.Greeting →
    ∀ event ∈ t, event.isRead = false ∧ ∀ sent ∈ event.sent, sent.1 = .hello
  acknowledged : ¬ p.Greeting → Acknowledged t
  changed : (readies t).IsChain (· ≠ ·)
  last : (readies t).getLast? = p.last
  answered : pongs t ++ p.unanswered = pings t
  delivered : runtimeFrames t ++ p.pending = returnedFrames t
  handled : handled t ++ p.unhandled = readFrames t
  fits : ∀ sent ∈ sentFrames t, sent.1.Fits sent.2
  notClosed : NotClosed t

theorem Move.greeting (h : Move p event p') (habides : Abides p t) (hgreeting : p'.Greeting) :
    ∀ event' ∈ t ++ [event], event'.isRead = false ∧ ∀ sent ∈ event'.sent, sent.1 = .hello := by
  cases h with
  | send hdue =>
    cases hdue with
    | hello payload =>
      refine List.forall_mem_append.mpr ⟨habides.greeting trivial, ?_⟩
      exact List.forall_mem_singleton.mpr ⟨rfl, List.forall_mem_singleton.mpr rfl⟩
    | _ => exact hgreeting.elim
  | _ => exact hgreeting.elim

theorem Move.acknowledges (h : Move p event p') (habides : Abides p t) (hopened : ¬ p'.Greeting) :
    Acknowledged (t ++ [event]) := by
  by_cases hgreeting : p.Greeting
  · -- only the read of the acknowledgement leaves the greeting
    cases h with
    | send hdue =>
      cases hdue with
      | hello => exact absurd trivial hopened
      | _ => exact hgreeting.elim
    | acknowledged hdecode htype =>
      exact ⟨t, _, _, [], rfl, habides.greeting trivial, hdecode, htype⟩
    | _ => exact hgreeting.elim
  · exact (habides.acknowledged hgreeting).append _

theorem Move.fits (h : Move p event p') : ∀ sent ∈ event.sent, sent.1.Fits sent.2 := by
  cases h with
  | send hdue =>
    intro sent hmem
    obtain ⟨frame, hframe, rfl⟩ := List.mem_map.mp hmem
    exact hdue.fits frame hframe
  | _ => exact fun _ hmem => absurd hmem List.not_mem_nil

theorem Move.not_isClose (h : Move p event p') : event.isClose = false := by
  cases h <;> rfl

/-- What was waiting and what came in is what went out and waits now. -/
theorem append_balance {α : Type} {out into out' into' waiting waiting' : List α}
    (h : out ++ waiting = into) (h' : out' ++ waiting' = waiting ++ into') :
    (out ++ out') ++ waiting' = into ++ into' := by
  rw [List.append_assoc, h', ← h, List.append_assoc]

/-- Every move keeps to the protocol. -/
theorem Abides.move (h : Abides p t) (hmove : Move p event p') : Abides p' (t ++ [event]) where
  ordered := by
    rw [sentFrames_append, sentFrames_singleton]
    exact hmove.ordered h.ordered
  greeting := hmove.greeting h
  acknowledged := hmove.acknowledges h
  changed := by
    rw [readies_append, List.isChain_append, h.last]
    rcases hmove.readies with ⟨hnone, -⟩ | ⟨ready, hready, -, hchanged⟩
    · rw [hnone]
      exact ⟨h.changed, List.isChain_nil, fun _ _ _ hmem => absurd hmem nofun⟩
    · rw [hready]
      refine ⟨h.changed, List.isChain_singleton _, ?_⟩
      rintro last hlast _ ⟨⟩ rfl
      exact hchanged hlast
  last := by
    rw [readies_append, List.getLast?_append, h.last]
    rcases hmove.readies with ⟨hnone, hlast⟩ | ⟨ready, hready, hlast, -⟩
    · rw [hnone, hlast]
      rfl
    · rw [hready, hlast]
      rfl
  answered := by
    rw [pongs_append, pings_append]
    exact append_balance h.answered hmove.answered
  delivered := by
    rw [runtimeFrames_append, returnedFrames_append]
    exact append_balance h.delivered hmove.delivered
  handled := by
    rw [handled_append, readFrames_append]
    exact append_balance h.handled hmove.handled
  fits := by
    rw [sentFrames_append, sentFrames_singleton]
    exact List.forall_mem_append.mpr ⟨h.fits, hmove.fits⟩
  notClosed := List.forall_mem_append.mpr
    ⟨h.notClosed, List.forall_mem_singleton.mpr hmove.not_isClose⟩

/-- **The invariant of a session.** -/
theorem Reaches.abides (h : Reaches p t) : Abides p t := by
  induction h with
  | connected =>
    exact {
      ordered := rfl
      greeting := fun _ => List.forall_mem_singleton.mpr
        ⟨rfl, fun _ hmem => absurd hmem List.not_mem_nil⟩
      acknowledged := fun hopened => absurd trivial hopened
      changed := List.isChain_nil
      last := rfl
      answered := rfl
      delivered := rfl
      handled := rfl
      fits := fun _ hmem => absurd hmem List.not_mem_nil
      notClosed := List.forall_mem_singleton.mpr rfl }
  | move _ hmove ih => exact ih.move hmove

/-! ## Whole sessions -/

theorem Position.Ordered.isPrefix {frames : List (FrameOrigin × KtpFrame)} (h : p.Ordered frames) :
    ∃ hello first rest, hello.1 = .hello ∧ (∃ state, first.1 = .ready state) ∧
      (∀ sent ∈ rest, sent.1 ≠ .hello) ∧ frames <+: hello :: first :: rest := by
  have hnone : ∀ sent ∈ ([] : List (FrameOrigin × KtpFrame)), sent.1 ≠ .hello :=
    fun _ hmem => absurd hmem List.not_mem_nil
  have hready : ∃ state, (FrameOrigin.ready ⟨"", [], [], []⟩) = .ready state := ⟨_, rfl⟩
  cases p with
  | connected =>
    rw [Position.Ordered] at h
    exact ⟨(.hello, .connection .hello []), (_, .connection .ready []), [], rfl, hready, hnone,
      h ▸ List.nil_prefix⟩
  | greeted | acknowledged =>
    obtain ⟨hello, hhello, rfl⟩ := h
    exact ⟨hello, (_, .connection .ready []), [], hhello, hready, hnone, _, rfl⟩
  | opened | pinged | serving =>
    obtain ⟨hello, first, rest, hhello, hfirst, hrest, rfl⟩ := h
    exact ⟨hello, first, rest, hhello, hfirst, hrest, List.prefix_refl _⟩

theorem Position.Ordered.hello {frames : List (FrameOrigin × KtpFrame)} (h : p.Ordered frames)
    (hgreeting : p.Greeting) : ∀ sent ∈ frames, sent.1 = .hello := by
  cases p with
  | connected =>
    rw [Position.Ordered] at h
    exact h ▸ fun _ hmem => absurd hmem List.not_mem_nil
  | greeted =>
    obtain ⟨hello, hhello, rfl⟩ := h
    exact List.forall_mem_singleton.mpr hhello
  | _ => exact hgreeting.elim

theorem Stops.notClosed (h : Stops t) : NotClosed t := by
  cases h with
  | rest h => exact h.abides.notClosed
  | halt h hhalt =>
    refine List.forall_mem_append.mpr ⟨h.abides.notClosed, List.forall_mem_singleton.mpr ?_⟩
    cases hhalt <;> rfl

theorem Reaches.connects (h : Reaches p t) : [.connect (.ok ())] <+: t := by
  induction h with
  | connected => exact List.prefix_refl _
  | move _ _ ih => exact ih.trans (List.prefix_append _ _)

theorem Stops.connects (h : Stops t) : [.connect (.ok ())] <+: t := by
  cases h with
  | rest h => exact h.connects
  | halt h => exact h.connects.trans (List.prefix_append _ _)

/-- A server that acknowledges, sends one ping and then closes the connection; the world counts the
batches that were read. -/
def pingingWorld : DataSessionWorld ℕ where
  connectTunnelData := fun w => (.ok (), w)
  sendKtpFrame := fun _ w => (.ok (), w)
  sendKtpFrameBatch := fun _ w => (.ok (), w)
  readFrame := fun w =>
    (.ok ((encodeFrame (.connection .helloAck [])).toOption.getD []), w)
  readOptionalKtpFrameBatch := fun _ w =>
    if w = 0 then (.ok (some [.connection .ping [0x61]]), 1) else (.error .socketClosed, w)
  readOptionalKtpFrameBatchWithTimeout := fun _ _ w => (.error .socketClosed, w)
  currentReady := fun w => (.empty "1", w)
  tick := fun w => (.ok (), w)
  closeAllSessions := fun _ w => (.ok (), w)
  handleServerFrame := fun _ w => (.ok [], w)
  nextClientFrames := fun _ w => (.ok [], w)
  nextClientFramesAfterWait := fun _ _ w => (.ok [], w)
  clientFrameBatchLimit := fun requested w => (requested, w)
  tunnelDataClientFrameWaitTimeout := fun w => (none, w)
  tunnelDataSocketIdleTimeout := fun w => (none, w)

end DataSession

end KeliAgent
