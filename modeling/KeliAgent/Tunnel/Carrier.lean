import KeliAgent.Ktp.Broken
import KeliAgent.Ktp.Reconnect
import KeliAgent.Tunnel.Outbound
import KeliAgent.Tunnel.SessionTrace

/-!
# From the TCP stream to the server

A data session takes frames from the session runtime and sends them over a KTP socket. The three
components are put together by what they see of each other: the frames that the runtime returns to
the session were drained from its queue, and the sends of the session are calls of the socket.

* `session_delivers`: the data that is sent is a prefix of what the runtime returned, and only the
  last send can have failed.
* `SocketSends`: the sends over a socket, between any reads; `SocketSends.brokenOff`.
* **`received_isPrefix_read`**: the data that the server receives for a session is a prefix of what
  was read from its TCP stream.
-/

namespace KeliAgent

open Wire Effect Interleave

namespace DataSession

/-! ## What a session delivers -/

/-- The sends of a session and their results. -/
def sends (t : Trace) : List (List KtpFrame × Except TransportError Unit) :=
  t.filterMap fun
    | .send _ frames result => some (frames, result)
    | _ => none

/-- The data of a session of the tunnel in frames that were sent. -/
def sentData (key : SessionKey) (t : Trace) : List UInt8 :=
  ((sends t).flatMap (·.1)).flatMap (·.dataOf key)

/-- The data of a session of the tunnel in frames that the runtime returned. -/
def returnedData (key : SessionKey) (t : Trace) : List UInt8 :=
  (returnedFrames t).flatMap (·.dataOf key)

/-- What is pending is what was returned and not sent, and no send has ended the session. -/
structure Delivering (key : SessionKey) (pending : List KtpFrame) (t : Trace) : Prop where
  data : sentData key t ++ pending.flatMap (·.dataOf key) = returnedData key t
  lasting : ∀ send ∈ sends t, Lasting send.2

/-- Only returned data was sent, and only the last send can have ended the session. -/
structure Delivered (key : SessionKey) (t : Trace) : Prop where
  data : sentData key t <+: returnedData key t
  lasting : ∀ send ∈ (sends t).dropLast, Lasting send.2

section Delivering

variable {key : SessionKey} {t : Trace} {p p' : Position} {pending : List KtpFrame}
  {event : DataSessionEvent}

theorem sends_append (t t' : Trace) : sends (t ++ t') = sends t ++ sends t' :=
  List.filterMap_append

theorem sentData_append (t t' : Trace) :
    sentData key (t ++ t') = sentData key t ++ sentData key t' := by
  rw [sentData, sends_append, List.flatMap_append, List.flatMap_append, sentData, sentData]

theorem returnedData_append (t t' : Trace) :
    returnedData key (t ++ t') = returnedData key t ++ returnedData key t' := by
  rw [returnedData, returnedFrames_append, List.flatMap_append, returnedData, returnedData]

theorem returnedData_singleton (event : DataSessionEvent) :
    returnedData key [event] = event.returnedFrames.flatMap (·.dataOf key) := by
  simp [returnedData, DataSession.returnedFrames]

theorem sentData_send (origin : FrameOrigin) (sent : List KtpFrame)
    (result : Except TransportError Unit) :
    sentData key [.send origin sent result] = sent.flatMap (·.dataOf key) := by
  simp [sentData, sends]

/-- What is due is data that is pending, or no data. -/
theorem Due.data {origin : FrameOrigin} {sent : List KtpFrame} (h : Due p origin sent p') :
    sent.flatMap (·.dataOf key) ++ p'.pending.flatMap (·.dataOf key) =
      p.pending.flatMap (·.dataOf key) := by
  have hnone {frameType : FrameType} (payload : List UInt8) (htype : frameType ≠ .sessionData) :
      (KtpFrame.connection frameType payload).dataOf key = [] := if_neg fun hand => htype hand.1
  cases h with
  | hello | firstReady | ready | pong =>
    rw [List.flatMap_singleton, hnone]
    · rfl
    · exact nofun
  | runtime last sent pending unhandled =>
    rw [Position.pending, Position.pending, List.flatMap_append]

theorem Delivering.delivered (h : Delivering key pending t) : Delivered key t :=
  ⟨h.data ▸ List.prefix_append _ _,
    fun send hmem => h.lasting send ((List.dropLast_prefix _).subset hmem)⟩

/-- An event that sends nothing and returns nothing. -/
theorem Delivering.quiet (h : Delivering key pending t) (hsends : sends [event] = [])
    (hreturned : event.returnedFrames = []) : Delivering key pending (t ++ [event]) := by
  have hsent : sentData key [event] = [] := by rw [sentData, hsends]; rfl
  refine ⟨?_, ?_⟩
  · rw [sentData_append, hsent, returnedData_append, returnedData_singleton, hreturned,
      List.flatMap_nil, List.append_nil, List.append_nil]
    exact h.data
  · rw [sends_append, hsends, List.append_nil]
    exact h.lasting

/-- After a send, whatever its result, nothing but returned data was sent. -/
theorem Delivering.sent (h : Delivering key p.pending t) {origin : FrameOrigin}
    {sent : List KtpFrame} (hdue : Due p origin sent p') (result : Except TransportError Unit) :
    sentData key (t ++ [.send origin sent result]) ++ p'.pending.flatMap (·.dataOf key) =
      returnedData key (t ++ [.send origin sent result]) := by
  have hreturned : returnedData key [.send origin sent result] = [] := returnedData_singleton _
  rw [sentData_append, sentData_send, List.append_assoc, hdue.data, h.data, returnedData_append,
    hreturned, List.append_nil]

/-- What the runtime returns is pending. -/
theorem Delivering.returned (h : Delivering key [] t) (call : RuntimeCall) (frames : List KtpFrame) :
    Delivering key frames (t ++ [.returned call (.ok frames)]) := by
  refine ⟨?_, ?_⟩
  · have hdata := h.data
    rw [List.flatMap_nil, List.append_nil] at hdata
    rw [sentData_append, returnedData_append, returnedData_singleton, ← hdata]
    exact congrArg (· ++ _) (List.append_nil _)
  · rw [sends_append, show sends [.returned call (.ok frames)] = [] from rfl, List.append_nil]
    exact h.lasting

theorem Delivering.move (h : Delivering key p.pending t) (hmove : Move p event p') :
    Delivering key p'.pending (t ++ [event]) := by
  cases hmove with
  | send hdue hlasting =>
    refine ⟨h.sent hdue _, ?_⟩
    rw [sends_append]
    exact List.forall_mem_append.mpr ⟨h.lasting, List.forall_mem_singleton.mpr hlasting⟩
  | responded | drained => exact h.returned _ _
  | _ => exact h.quiet rfl rfl

theorem Reaches.delivering (h : Reaches p t) : Delivering key p.pending t := by
  induction h with
  | connected => exact ⟨rfl, fun _ hmem => absurd hmem List.not_mem_nil⟩
  | move _ hmove ih => exact ih.move hmove

theorem Delivering.halt (h : Delivering key p.pending t) (hhalt : Halt p event) :
    Delivered key (t ++ [event]) := by
  cases hhalt with
  | @send p p' origin sent hdue error =>
    have hsend : sends [.send origin sent (.error error)] = [(sent, .error error)] := rfl
    refine ⟨h.sent hdue (.error error) ▸ List.prefix_append _ _, ?_⟩
    rw [sends_append, hsend, List.dropLast_concat]
    exact h.lasting
  | _ => exact (h.quiet rfl rfl).delivered

theorem Stops.delivered (h : Stops t) : Delivered key t := by
  cases h with
  | rest h => exact h.delivering.delivered
  | halt h hhalt => exact h.delivering.halt hhalt

theorem Delivered.close (h : Delivered key t) (reason : String) :
    Delivered key (t ++ [.closeAllSessions reason]) := by
  have hsent : sentData key [.closeAllSessions reason] = [] := rfl
  have hreturned : returnedData key [.closeAllSessions reason] = [] := rfl
  refine ⟨?_, ?_⟩
  · rw [sentData_append, hsent, returnedData_append, hreturned, List.append_nil, List.append_nil]
    exact h.data
  · rw [sends_append, show sends [.closeAllSessions reason] = [] from rfl, List.append_nil]
    exact h.lasting

end Delivering

/-- **What a session delivers**, whatever its world: the data that it sends is a prefix of what the
runtime returned, and only its last send can have ended it. -/
theorem session_delivers {W : Type} (key : SessionKey) (world : DataSessionWorld W)
    (agentIdHint agentVersion : String) (fuel : ℕ) (w : W) :
    Delivered key (runTunnelDataSession world agentIdHint agentVersion fuel w).trace :=
  (session_follows world agentIdHint agentVersion fuel w).rule
    (fun _ => ⟨List.nil_prefix, fun _ hmem => absurd hmem List.not_mem_nil⟩)
    (fun h => h.delivered) fun reason h => h.close reason

end DataSession

/-! ## The socket -/

/-- The seal of the socket and all that it has written. -/
def KtpEncryptedTcpTunnelDataSocket.writing (socket : KtpEncryptedTcpTunnelDataSocket) :
    KtpCryptoSeal × List UInt8 :=
  (socket.stream.sealer, socket.stream.written)

/-- The sends over a socket with their results. Between them it may be read, which leaves its
writing side alone. -/
inductive SocketSends (aead : Aead) : KtpEncryptedTcpTunnelDataSocket →
    List (List KtpFrame × Except TransportError Unit) → KtpEncryptedTcpTunnelDataSocket → Prop
  | done {socket} : SocketSends aead socket [] socket
  | read {socket socket₁ socket' sends} (h : socket₁.writing = socket.writing)
    (hs : SocketSends aead socket₁ sends socket') : SocketSends aead socket sends socket'
  | sendKtpFrame {socket socket' sends} (frame : KtpFrame) (outcome : WriteOutcome) (text : String)
    (hs : SocketSends aead (socket.sendKtpFrame aead frame outcome text).2 sends socket') :
    SocketSends aead socket
      (([frame], (socket.sendKtpFrame aead frame outcome text).1) :: sends) socket'
  | sendKtpFrameBatch {socket socket' sends} (frames : List KtpFrame) (outcome : WriteOutcome)
    (text : String)
    (hs : SocketSends aead (socket.sendKtpFrameBatch aead frames outcome text).2 sends socket') :
    SocketSends aead socket
      ((frames, (socket.sendKtpFrameBatch aead frames outcome text).1) :: sends) socket'

section Socket

variable {aead : Aead} {start : KtpCryptoSeal} {frames : List KtpFrame}
  {socket socket' : KtpEncryptedTcpTunnelDataSocket}
  {sends : List (List KtpFrame × Except TransportError Unit)}

/-- A send never fails because the stream is at its end. -/
theorem SendCall.send_ne_closed (aead : Aead) (call : SendCall) (st : KtpEncryptedStream)
    (outcome : WriteOutcome) : (call.send aead st outcome).1 ≠ .error .closed := by
  have hwrite (st : KtpEncryptedStream) : (st.writeAll outcome).1 ≠ .error .closed := by
    cases outcome <;> simp [KtpEncryptedStream.writeAll]
  cases call with
  | sendFrame frame =>
    unfold send KtpEncryptedStream.sendFrame
    dsimp only
    split
    · simp
    · exact hwrite _
  | sendFrames frames =>
    unfold send KtpEncryptedStream.sendFrames
    dsimp only
    split_ifs
    · simp
    split
    · simp
    · exact hwrite _

/-- The session ends after a send that has failed. -/
theorem not_lasting_of_error {result : Except KtpTcpTransportError Unit} {e : KtpTcpTransportError}
    (h : result = .error e) (hne : result ≠ .error .closed) (text : String) :
    ¬ DataSession.Lasting (result.mapError (ktpTcpTransportErrorToTransport text)) := by
  subst h
  rintro (h | h)
  · cases h
  · cases e with
    | closed => exact hne rfl
    | io => cases h
    | crypto error => cases h

theorem Written.of_writing (h : Written aead start frames socket.stream)
    (heq : socket'.writing = socket.writing) : Written aead start frames socket'.stream := by
  obtain ⟨hsealer, hwritten⟩ := Prod.mk.inj heq
  rw [Written, hsealer, hwritten]
  exact h

theorem BrokenOff.of_writing (h : BrokenOff aead start frames socket.stream)
    (heq : socket'.writing = socket.writing) : BrokenOff aead start frames socket'.stream := by
  rw [BrokenOff, (Prod.mk.inj heq).2]
  exact h

theorem SocketSends.writing_of_nil (h : SocketSends aead socket [] socket') :
    socket'.writing = socket.writing := by
  generalize hnil : ([] : List (List KtpFrame × Except TransportError Unit)) = sends at h
  induction h with
  | done => rfl
  | read heq _ ih => exact (ih hnil).trans heq
  | _ => cases hnil

/-- The step of the next proof: a call, and the sends after it. -/
theorem Written.brokenOff_of_send (hwritten : Written aead start frames socket.stream)
    (call : SendCall) (outcome : WriteOutcome) (text : String)
    {socket₁ : KtpEncryptedTcpTunnelDataSocket}
    (hstream : socket₁.stream = (call.send aead socket.stream outcome).2)
    (hlasting : ∀ send ∈ ((call.frames, (call.send aead socket.stream outcome).1.mapError
      (ktpTcpTransportErrorToTransport text)) :: sends).dropLast, DataSession.Lasting send.2)
    (hs : SocketSends aead socket₁ sends socket')
    (ih : Written aead start (frames ++ call.frames) socket₁.stream →
      (∀ send ∈ sends.dropLast, DataSession.Lasting send.2) →
        BrokenOff aead start (frames ++ call.frames ++ sends.flatMap (·.1)) socket'.stream) :
    BrokenOff aead start (frames ++ (call.frames ++ sends.flatMap (·.1))) socket'.stream := by
  rw [← List.append_assoc]
  rcases hwritten.send call outcome with ⟨-, hwritten'⟩ | ⟨⟨e, herror⟩, hbroken⟩
  · refine ih (hstream ▸ hwritten') fun send hmem => hlasting send ?_
    cases sends with
    | nil => cases hmem
    | cons send' sends => exact List.mem_cons_of_mem _ hmem
  · -- a call that has failed is the last one
    cases sends with
    | nil =>
      rw [← hstream] at hbroken
      rw [List.flatMap_nil, List.append_nil]
      exact hbroken.of_writing hs.writing_of_nil
    | cons send' sends =>
      have hne := SendCall.send_ne_closed aead call socket.stream outcome
      exact absurd (hlasting _ (List.mem_cons_self ..)) (not_lasting_of_error herror hne text)

/-- **What a socket has written** when only the last send can have failed. -/
theorem SocketSends.brokenOff (h : SocketSends aead socket sends socket')
    (hwritten : Written aead start frames socket.stream)
    (hlasting : ∀ send ∈ sends.dropLast, DataSession.Lasting send.2) :
    BrokenOff aead start (frames ++ sends.flatMap (·.1)) socket'.stream := by
  induction h generalizing frames with
  | done => exact hwritten.brokenOff (List.prefix_append _ _)
  | read heq _ ih => exact ih (hwritten.of_writing heq) hlasting
  | sendKtpFrame frame outcome text hs ih =>
    exact hwritten.brokenOff_of_send (.sendFrame frame) outcome text rfl hlasting hs ih
  | sendKtpFrameBatch batch outcome text hs ih =>
    exact hwritten.brokenOff_of_send (.sendFrames batch) outcome text rfl hlasting hs ih

end Socket

theorem dataOf_isPrefix (key : SessionKey) {frames frames' : List KtpFrame}
    (h : frames <+: frames') :
    frames.flatMap (·.dataOf key) <+: frames'.flatMap (·.dataOf key) := by
  obtain ⟨rest, rfl⟩ := h
  rw [List.flatMap_append]
  exact List.prefix_append _ _

/-- **From the TCP stream to the server.** A session of the tunnel is read and queued, in any
interleaving with the others; a data session takes frames from the queue and sends them over a KTP
socket, whose writes may fail half-way; the server reads what arrives, in any chunking and up to any
point. Then the data that the server receives for the session is a prefix of what was read from its
TCP stream: nothing is lost in between, repeated, reordered or taken from another session. -/
theorem received_isPrefix_read {aead : Aead} (hc : aead.Correct) {key : SessionKey} {ref : ℕ}
    {limits : TunnelRuntimeLimits} {actions : List (Action TunnelAnswer TunnelOp)}
    {c : Config AsyncTunnelCore TunnelTask TunnelObservation}
    (halong : tunnelSystem.Along (Carried key ref) (tunnelStart limits) actions)
    (hrun : tunnelSystem.run (tunnelStart limits) actions = some c) {W : Type}
    (world : DataSessionWorld W) (agentIdHint agentVersion : String) (fuel : ℕ) (w : W)
    (hreturned : DataSession.returnedData key
      (DataSession.runTunnelDataSession world agentIdHint agentVersion fuel w).trace <+:
        drainedBytes key c.trace)
    {incoming : List ReadResult} {cryptoKey : KtpCryptoKey} {m b m' : ℕ}
    {socket : KtpEncryptedTcpTunnelDataSocket}
    (hsends : SocketSends aead
      ⟨.fromIo incoming cryptoKey .clientToRelay .relayToClient m b, m'⟩
      (DataSession.sends
        (DataSession.runTunnelDataSession world agentIdHint agentVersion fuel w).trace) socket)
    {chunks : List Chunk} (hchunks : chunkBytes chunks <+: socket.stream.written) {b' : ℕ}
    {received : List KtpFrame} {e : KtpTcpTransportError}
    (hreceived : Singly aead
      (.fromIo (reads chunks) cryptoKey .relayToClient .clientToRelay ktpMaxPayloadLen b')
      received e) :
    received.flatMap (·.dataOf key) <+: readBytes ref c.trace := by
  have hdelivered :=
    DataSession.session_delivers key world agentIdHint agentVersion fuel w
  have hbroken := hsends.brokenOff
    (written_fromIo aead incoming cryptoKey .clientToRelay .relayToClient m b) hdelivered.lasting
  rw [List.nil_append] at hbroken
  have hframes := hbroken.received hc (fun frame _ haccepted => haccepted.2) hchunks hreceived
  calc received.flatMap (·.dataOf key)
      <+: DataSession.sentData key
        (DataSession.runTunnelDataSession world agentIdHint agentVersion fuel w).trace :=
        dataOf_isPrefix key hframes
    _ <+: DataSession.returnedData key
        (DataSession.runTunnelDataSession world agentIdHint agentVersion fuel w).trace :=
        hdelivered.data
    _ <+: drainedBytes key c.trace := hreturned
    _ <+: readBytes ref c.trace := (Flow.run halong hrun).prefix_read

/-- A byte of the first session. -/
def firstByte : KtpFrame := ⟨.sessionData, .egress, 0, 1, [97]⟩

/-- The runtime returns one frame, and then the server closes the connection. -/
def oneByteWorld : DataSessionWorld ℕ :=
  { DataSession.pingingWorld with
    readOptionalKtpFrameBatch := fun _ w => (.error .socketClosed, w)
    nextClientFrames := fun _ w => if w = 0 then (.ok [firstByte], 1) else (.ok [], w) }

def oneByteTrace : DataSession.Trace :=
  (DataSession.runTunnelDataSession oneByteWorld "agent" "1" 3 0).trace

/-- The frames of that session. -/
def oneByteFrames : List KtpFrame := (DataSession.sends oneByteTrace).flatMap (·.1)

def freshSocket : KtpEncryptedTcpTunnelDataSocket :=
  ⟨.fromIo [] ⟨Vector.replicate 32 0⟩ .clientToRelay .relayToClient 1024 4096, 1024⟩

/-- The socket after the hello, and after the READY. -/
def greetedSocket : KtpEncryptedTcpTunnelDataSocket :=
  (freshSocket.sendKtpFrame clearAead (oneByteFrames.getD 0 firstByte) .complete "").2

def readySocket : KtpEncryptedTcpTunnelDataSocket :=
  (greetedSocket.sendKtpFrame clearAead (oneByteFrames.getD 1 firstByte) .complete "").2

/-- The first byte is sent and received; the second one is discarded with its session. -/
theorem received_isPrefix_read_byte :
    ∃ socket c received e,
      SocketSends clearAead freshSocket (DataSession.sends oneByteTrace) socket ∧
      Singly clearAead (.fromIo (reads (singles socket.stream.written)) ⟨Vector.replicate 32 0⟩
        .relayToClient .clientToRelay ktpMaxPayloadLen 4096) received e ∧
      tunnelSystem.run (tunnelStart .default) drainedAndClosed = some c ∧
      DataSession.returnedData (.egress, 1) oneByteTrace = [97] ∧
      received.flatMap (·.dataOf (.egress, 1)) <+: readBytes 0 c.trace := by
  have hsends : DataSession.sends oneByteTrace =
      [([oneByteFrames.getD 0 firstByte],
        (freshSocket.sendKtpFrame clearAead (oneByteFrames.getD 0 firstByte) .complete "").1),
      ([oneByteFrames.getD 1 firstByte],
        (greetedSocket.sendKtpFrame clearAead (oneByteFrames.getD 1 firstByte) .complete "").1),
      ([firstByte], (readySocket.sendKtpFrameBatch clearAead [firstByte] .complete "").1)] := by
    decide +kernel
  have hsocket : SocketSends clearAead freshSocket (DataSession.sends oneByteTrace)
      (readySocket.sendKtpFrameBatch clearAead [firstByte] .complete "").2 := by
    rw [hsends]
    exact .sendKtpFrame _ _ _ (.sendKtpFrame _ _ _ (.sendKtpFrameBatch _ _ _ .done))
  obtain ⟨received, e, hreceived⟩ := @exists_singly clearAead 4096
    (.fromIo (reads (singles (readySocket.sendKtpFrameBatch clearAead [firstByte] .complete
      "").2.stream.written)) ⟨Vector.replicate 32 0⟩ .relayToClient .clientToRelay ktpMaxPayloadLen
      4096) (KtpCryptoRecordCodec.wf_new ..)
  have halong : tunnelSystem.Along (Carried (.egress, 1) 0) (tunnelStart .default)
      drainedAndClosed := by decide +kernel
  refine ⟨_, _, received, e, hsocket, hreceived, rfl, by decide +kernel, ?_⟩
  refine received_isPrefix_read clearAead_correct halong rfl oneByteWorld "agent" "1" 3 0 ?_ hsocket
    ?_ hreceived
  · decide +kernel
  · rw [chunkBytes_singles]

end KeliAgent
