import KeliAgent.Ktp.Broken
import KeliAgent.Ktp.Reconnect
import KeliAgent.Tunnel.SessionTrace

/-!
# From the server to the data session

A data session reads batches of frames under a timer. When it fires, the read is given up at the
point where it waits for the stream; what was received before stays in the codec.

* `nextFramesTimed`: `next_frames` under a timer; `nextFramesTimed_cases`: a call that is given up
  changes nothing of what later calls deliver.
* `SocketReads`: the reads of a socket, between any sends; `SocketReads.isPrefix`.
* `session_handles`: a session handles the frames of its batches in order.
* **`handled_isPrefix_sent`**: the frames that a session handles are the first ones that the server
  has sent after its acknowledgement.
-/

namespace KeliAgent

open Wire Effect

/-! ## Reads under a timer -/

namespace KtpEncryptedStream

/-- The loop of `next_frames_into` under a timer that fires when `answered` reads were answered and
another one has to wait; `none` if it fires. -/
def nextFramesTimedLoop (aead : Aead) (maxFrames : ℕ) :
    ℕ → List ReadResult → KtpCryptoRecordCodec →
      Option (Except KtpTcpTransportError (List KtpFrame)) × KtpCryptoRecordCodec × List ReadResult
  | answered, incoming, codec =>
    match codec.nextFramesInto aead maxFrames with
    | (.error error, _, codec') => (some (.error (.crypto error)), codec', incoming)
    | (.ok frameCount, frames, codec') =>
      if 0 < frameCount then (some (.ok frames), codec', incoming)
      else match answered, incoming with
      | 0, incoming => (none, codec', incoming)
      | _ + 1, [] => (some (.error .closed), codec', [])
      | _ + 1, .failed :: incoming' => (some (.error .io), codec', incoming')
      | answered + 1, .data chunk :: incoming' => match codec'.push chunk.bytes with
        | (.error error, codec'') => (some (.error (.crypto error)), codec'', incoming')
        | (.ok (), codec'') => nextFramesTimedLoop aead maxFrames answered incoming' codec''

/-- `next_frames` under a timer. -/
def nextFramesTimed (aead : Aead) (self : KtpEncryptedStream) (maxFrames answered : ℕ) :
    Option (Except KtpTcpTransportError (List KtpFrame)) × KtpEncryptedStream :=
  if maxFrames = 0 then (some (.ok []), self)
  else
    let r := nextFramesTimedLoop aead maxFrames answered self.incoming self.codec
    (r.1, self.reading r.2.1 r.2.2)

end KtpEncryptedStream

def KtpEncryptedTcpTunnelDataSocket.readOptionalKtpFrameBatchWithTimeout (aead : Aead)
    (self : KtpEncryptedTcpTunnelDataSocket) (maxFrames answered : ℕ) (ioText : String) :
    Except TransportError (Option (List KtpFrame)) × KtpEncryptedTcpTunnelDataSocket :=
  match self.stream.nextFramesTimed aead (max maxFrames 1) answered with
  | (some (.ok frames), stream) => (.ok (some frames), { self with stream })
  | (some (.error error), stream) =>
    (.error (ktpTcpTransportErrorToTransport ioText error), { self with stream })
  | (none, stream) => (.ok none, { self with stream })

section Timed

open KtpEncryptedStream

variable {aead : Aead} {b n answered : ℕ} {codec codec' : KtpCryptoRecordCodec}
  {incoming incoming' : List ReadResult}

/-- A batch of the codec is empty only if there is no frame. -/
theorem nextFrame_of_empty_batch (hwf : codec.Wf b) {frames : List KtpFrame}
    (h : codec.nextFramesInto aead (n + 1) = (.ok 0, frames, codec')) :
    codec' = codec ∧ codec.nextFrame aead = (.ok none, codec) := by
  obtain ⟨codec₁, -, hloop, -⟩ := nextFramesLoop_spec aead (n + 1) hwf []
  rcases poll_cases aead hwf with ⟨-, hpoll⟩ | ⟨e, hnext, hpoll⟩ | ⟨f, m, codec₂, hnext, -⟩
  · rw [nextFramesInto_of_none hpoll] at h
    cases h
    exact ⟨rfl, hpoll⟩
  all_goals
    rw [KtpCryptoRecordCodec.nextFramesInto, hloop, Parser.parse,
      show (recordParser aead b).next = recordNext aead b from rfl, hnext] at h
  · cases h
  · -- a frame is in the batch, however the other polls ended
    simp only [Parsed.prepend, List.nil_append] at h
    split at h
    · cases h
    · cases h

theorem length_of_batch (hwf : codec.Wf b) {frameCount : ℕ} {frames : List KtpFrame}
    (h : codec.nextFramesInto aead n = (.ok frameCount, frames, codec')) :
    frameCount = frames.length := by
  obtain ⟨codec₁, -, hloop, -⟩ := nextFramesLoop_spec aead n hwf []
  rw [KtpCryptoRecordCodec.nextFramesInto, hloop] at h
  split at h
  · cases h
  · cases h
    rfl

/-- **A call that is given up** leaves a codec from which the stream goes on as if it had not been
made; any other call is `next_frames_into`. -/
theorem nextFramesTimedLoop_cases (aead : Aead) (n answered : ℕ) (hwf : codec.Wf b)
    (incoming : List ReadResult) :
    (∃ codec' incoming', nextFramesTimedLoop aead (n + 1) answered incoming codec =
        (none, codec', incoming') ∧ codec'.Wf b ∧
      nextFrameLoop aead incoming codec = nextFrameLoop aead incoming' codec') ∨
    (∃ frames codec' incoming', nextFramesTimedLoop aead (n + 1) answered incoming codec =
        (some (.ok frames), codec', incoming') ∧
      nextFramesIntoLoop aead (n + 1) incoming codec =
        (.ok frames.length, frames, codec', incoming')) ∨
    ∃ error codec' incoming', nextFramesTimedLoop aead (n + 1) answered incoming codec =
      (some (.error error), codec', incoming') := by
  fun_induction nextFramesTimedLoop aead (n + 1) answered incoming codec with
  | case1 => exact .inr (.inr ⟨_, _, _, rfl⟩)
  | case2 answered incoming codec frameCount frames codec' hbatch hpos =>
    -- the codec has frames
    refine .inr (.inl ⟨frames, codec', incoming, rfl, ?_⟩)
    obtain rfl := length_of_batch hwf hbatch
    rw [nextFramesIntoLoop.eq_def, hbatch]
    simp only [hpos, if_true]
  | case3 codec frameCount frames codec' hbatch hzero incoming =>
    -- the timer fires
    obtain rfl : frameCount = 0 := Nat.eq_zero_of_not_pos hzero
    obtain ⟨rfl, -⟩ := nextFrame_of_empty_batch hwf hbatch
    exact .inl ⟨_, incoming, rfl, hwf, rfl⟩
  | case4 | case5 | case6 => exact .inr (.inr ⟨_, _, _, rfl⟩)
  | case7 codec frameCount frames codec' hbatch hzero answered chunk incoming codec'' hpush ih =>
    -- a chunk was read, and the loop goes on
    obtain rfl : frameCount = 0 := Nat.eq_zero_of_not_pos hzero
    obtain ⟨rfl, hpoll⟩ := nextFrame_of_empty_batch hwf hbatch
    have hwf' : codec''.Wf b := by
      rcases push_cases hwf chunk.bytes with ⟨-, e, herror⟩ | ⟨-, codec₁, hok, hwf₁, -⟩
      · rw [hpush] at herror
        cases herror
      · rw [hpush] at hok
        cases hok
        exact hwf₁
    have hsingle : nextFrameLoop aead (.data chunk :: incoming) codec' =
        nextFrameLoop aead incoming codec'' := by
      rw [nextFrameLoop, hpoll]
      simp only [hpush]
    have hbatched : nextFramesIntoLoop aead (n + 1) (.data chunk :: incoming) codec' =
        nextFramesIntoLoop aead (n + 1) incoming codec'' := by
      rw [nextFramesIntoLoop, hbatch]
      simp only [lt_irrefl, if_false, hpush]
    rw [hsingle, hbatched]
    exact ih hwf'

/-- `next_frames` under a timer, compared with single calls. -/
theorem nextFramesTimed_cases {st : KtpEncryptedStream} (hwf : st.codec.Wf b)
    {total : List KtpFrame} {e : KtpTcpTransportError} (hs : Singly aead st total e)
    (n answered : ℕ) :
    (∃ st', st.nextFramesTimed aead (n + 1) answered = (none, st') ∧ st'.codec.Wf b ∧
      Singly aead st' total e) ∨
    (∃ frames rest st', st.nextFramesTimed aead (n + 1) answered = (some (.ok frames), st') ∧
      total = frames ++ rest ∧ st'.codec.Wf b ∧ Singly aead st' rest e) ∨
    ∃ error st', st.nextFramesTimed aead (n + 1) answered = (some (.error error), st') := by
  unfold nextFramesTimed
  rw [if_neg n.succ_ne_zero]
  rcases nextFramesTimedLoop_cases aead n answered hwf st.incoming with
    ⟨codec', incoming', hloop, hwf', hsame⟩ | ⟨frames, codec', incoming', hloop, hinto⟩ |
    ⟨error, codec', incoming', hloop⟩
  · rw [hloop]
    refine .inl ⟨_, rfl, hwf', hs.of_nextFrame_eq ?_⟩
    simp only [KtpEncryptedStream.nextFrame, KtpEncryptedStream.reading, hsame]
  · rw [hloop]
    refine .inr (.inl ?_)
    have hcall : st.nextFramesInto aead (n + 1) =
        (.ok frames.length, frames, st.reading codec' incoming') := by
      rw [KtpEncryptedStream.nextFramesInto, if_neg n.succ_ne_zero, hinto]
    rcases nextFramesInto_cases aead hwf ⟨n + 1, n.succ_pos⟩ with
      ⟨items, e', st', hfailed, -⟩ | ⟨items, st', hok, hwf', -, hsingly⟩
    · rw [PNat.mk_coe, hcall] at hfailed
      cases hfailed
    · rw [PNat.mk_coe, hcall] at hok
      obtain ⟨-, rfl, rfl⟩ : _ ∧ frames = items ∧ st.reading codec' incoming' = st' := by
        simpa using hok
      obtain ⟨rest, e', hrest⟩ := exists_singly aead hwf'
      obtain ⟨rfl, rfl⟩ := hs.unique (hsingly rest e' hrest)
      exact ⟨_, rest, _, rfl, rfl, hwf', hrest⟩
  · rw [hloop]
    exact .inr (.inr ⟨error, _, rfl⟩)

end Timed

/-! ## The reads of a socket -/

/-- A read of a socket, with its result. -/
inductive SocketRead where
  | frame (result : Except TransportError (List UInt8))
  | batch (result : Except TransportError (Option (List KtpFrame)))
  deriving DecidableEq

namespace SocketRead

def isOk : SocketRead → Bool
  | .frame result => result.isOk
  | .batch result => result.isOk

/-- The frames that a read hands over; `read_frame` returns them encoded. -/
def frames : SocketRead → List KtpFrame
  | .frame (.ok bytes) => (decodeFrame bytes ktpMaxPayloadLen).toOption.toList
  | .batch (.ok frames) => frames.getD []
  | .frame (.error _) | .batch (.error _) => []

theorem frames_of_not_isOk {read : SocketRead} (h : read.isOk = false) : read.frames = [] := by
  rcases read with (_ | _) | (_ | _)
  · rfl
  · cases h
  · rfl
  · cases h

end SocketRead

/-- What the socket has received and will read. -/
def KtpEncryptedTcpTunnelDataSocket.receiving (socket : KtpEncryptedTcpTunnelDataSocket) :
    KtpCryptoRecordCodec × List ReadResult :=
  (socket.stream.codec, socket.stream.incoming)

/-- The reads of a socket with their results. Between them it may send, which leaves its reading
side alone. -/
inductive SocketReads (aead : Aead) : KtpEncryptedTcpTunnelDataSocket → List SocketRead →
    KtpEncryptedTcpTunnelDataSocket → Prop
  | done {socket} : SocketReads aead socket [] socket
  | send {socket socket₁ socket' reads} (h : socket₁.receiving = socket.receiving)
    (hs : SocketReads aead socket₁ reads socket') : SocketReads aead socket reads socket'
  | readFrame {socket socket' reads} (text : String)
    (hs : SocketReads aead (socket.readFrame aead text).2 reads socket') :
    SocketReads aead socket (.frame (socket.readFrame aead text).1 :: reads) socket'
  | readBatch {socket socket' reads} (maxFrames answered : ℕ) (text : String)
    (hs : SocketReads aead
      (socket.readOptionalKtpFrameBatchWithTimeout aead maxFrames answered text).2 reads socket') :
    SocketReads aead socket
      (.batch (socket.readOptionalKtpFrameBatchWithTimeout aead maxFrames answered text).1 :: reads)
      socket'

section Socket

variable {aead : Aead} {b : ℕ} {socket socket' : KtpEncryptedTcpTunnelDataSocket}
  {total : List KtpFrame} {e : KtpTcpTransportError}

/-- A read hands over the first of the frames that are to come, or fails. -/
def Takes (aead : Aead) (b : ℕ) (total : List KtpFrame) (e : KtpTcpTransportError)
    (read : SocketRead) (socket' : KtpEncryptedTcpTunnelDataSocket) : Prop :=
  read.isOk = true → ∃ rest, total = read.frames ++ rest ∧ socket'.stream.codec.Wf b ∧
    Singly aead socket'.stream rest e

theorem readFrame_takes (hwf : socket.stream.codec.Wf b) (hs : Singly aead socket.stream total e)
    (text : String) :
    Takes aead b total e (.frame (socket.readFrame aead text).1)
      (socket.readFrame aead text).2 := by
  intro hok
  unfold KtpEncryptedTcpTunnelDataSocket.readFrame KtpEncryptedTcpTunnelDataSocket.withStream
    at hok ⊢
  rcases nextFrame_cases aead hwf with ⟨e', st', hnext⟩ | ⟨frame, st', hnext, hwf', -⟩
  · rw [hnext] at hok
    cases hok
  · rw [hnext] at hok ⊢
    dsimp only [Except.mapError] at hok ⊢
    rcases hencode : encodeFrame frame with error | bytes
    · rw [hencode] at hok
      cases hok
    · obtain ⟨haccepted, rfl⟩ := encodeFrame_eq_ok.mp hencode
      have hdecode : decodeFrame (frameBytes frame) ktpMaxPayloadLen = .ok frame := by
        rw [← List.append_nil (frameBytes frame)]
        exact decodeFrame_frameBytes [] haccepted haccepted.2
      have hframes : (SocketRead.frame (.ok (frameBytes frame))).frames = [frame] := by
        rw [SocketRead.frames, hdecode]
        rfl
      cases hs with
      | fail hfail =>
        rw [hnext] at hfail
        cases hfail
      | deliver hdeliver hrest =>
        rw [hnext] at hdeliver
        cases hdeliver
        exact ⟨_, congrArg (· ++ _) hframes.symm, hwf', hrest⟩

theorem readBatch_takes (hwf : socket.stream.codec.Wf b) (hs : Singly aead socket.stream total e)
    (maxFrames answered : ℕ) (text : String) :
    Takes aead b total e
      (.batch (socket.readOptionalKtpFrameBatchWithTimeout aead maxFrames answered text).1)
      (socket.readOptionalKtpFrameBatchWithTimeout aead maxFrames answered text).2 := by
  intro hok
  obtain ⟨n, hn⟩ : ∃ n, max maxFrames 1 = n + 1 :=
    ⟨max maxFrames 1 - 1, (Nat.sub_add_cancel (le_max_right maxFrames 1)).symm⟩
  unfold KtpEncryptedTcpTunnelDataSocket.readOptionalKtpFrameBatchWithTimeout at hok ⊢
  rw [hn] at hok ⊢
  rcases nextFramesTimed_cases hwf hs n answered with
    ⟨st', hcall, hwf', hs'⟩ | ⟨frames, rest, st', hcall, htotal, hwf', hs'⟩ | ⟨error, st', hcall⟩
  · rw [hcall]
    exact ⟨total, rfl, hwf', hs'⟩
  · rw [hcall]
    exact ⟨rest, htotal, hwf', hs'⟩
  · rw [hcall] at hok
    cases hok

/-- A read, and those after it. -/
theorem Takes.isPrefix {read : SocketRead} {reads : List SocketRead}
    (h : Takes aead b total e read socket')
    (hok : ∀ read' ∈ (read :: reads).dropLast, read'.isOk = true)
    (ih : ∀ rest, socket'.stream.codec.Wf b → Singly aead socket'.stream rest e →
      (∀ read' ∈ reads.dropLast, read'.isOk = true) → reads.flatMap (·.frames) <+: rest) :
    (read :: reads).flatMap (·.frames) <+: total := by
  rw [List.flatMap_cons]
  cases hread : read.isOk with
  | true =>
    obtain ⟨rest, rfl, hwf, hs⟩ := h hread
    refine (List.prefix_append_right_inj _).mpr (ih rest hwf hs fun read' hmem => hok read' ?_)
    cases reads with
    | nil => cases hmem
    | cons read'' reads => exact List.mem_cons_of_mem _ hmem
  | false =>
    -- a read that has failed is the last one
    cases reads with
    | nil =>
      rw [SocketRead.frames_of_not_isOk hread]
      exact List.nil_prefix
    | cons read'' reads =>
      have htrue := hok read (List.mem_cons_self ..)
      rw [hread] at htrue
      cases htrue

/-- **What a socket hands over** when only the last read can have failed, in batches under timers or
one by one: the first frames that single calls would deliver. -/
theorem SocketReads.isPrefix {reads : List SocketRead} (h : SocketReads aead socket reads socket')
    (hwf : socket.stream.codec.Wf b) (hs : Singly aead socket.stream total e)
    (hok : ∀ read ∈ reads.dropLast, read.isOk = true) :
    reads.flatMap (·.frames) <+: total := by
  induction h generalizing total with
  | done => exact List.nil_prefix
  | send heq _ ih =>
    obtain ⟨hcodec, hincoming⟩ := Prod.mk.inj heq
    exact ih (hcodec ▸ hwf) (hs.congr hcodec hincoming) hok
  | readFrame text _ ih =>
    exact (readFrame_takes hwf hs text).isPrefix hok fun _ hwf' hs' => ih hwf' hs'
  | readBatch maxFrames answered text _ ih =>
    exact (readBatch_takes hwf hs maxFrames answered text).isPrefix hok
      fun _ hwf' hs' => ih hwf' hs'

end Socket

/-! ## What a session handles -/

namespace DataSession

/-- The reads of a session and their results. -/
def socketReads (t : Trace) : List SocketRead :=
  t.filterMap fun
    | .readFrame result => some (.frame result)
    | .readBatch result => some (.batch result)
    | _ => none

/-- No read has failed; after the first one, the acknowledgement, what is unhandled is what the
others have handed over and was not handled. -/
structure Handling (p : Position) (reads : List SocketRead) (handled : List KtpFrame) : Prop where
  isOk : ∀ read ∈ reads, read.isOk = true
  greeting : p.Greeting → reads = [] ∧ handled = []
  opened : ¬ p.Greeting → ∃ first rest ack, reads = first :: rest ∧ first.frames = [ack] ∧
    ack.frameType = .helloAck ∧ handled ++ p.unhandled = rest.flatMap (·.frames)

/-- Only the last read can have failed, and what was handled was handed over in this order by the
reads behind the acknowledgement. -/
structure Handled (reads : List SocketRead) (handled : List KtpFrame) : Prop where
  isOk : ∀ read ∈ reads.dropLast, read.isOk = true
  order : handled = [] ∨ ∃ first rest ack, reads = first :: rest ∧
    first.frames = [ack] ∧ ack.frameType = .helloAck ∧ handled <+: rest.flatMap (·.frames)

section Handling

variable {p p' : Position} {t : Trace} {event : DataSessionEvent} {reads : List SocketRead}
  {frames : List KtpFrame}

theorem socketReads_append (t t' : Trace) : socketReads (t ++ t') = socketReads t ++ socketReads t' :=
  List.filterMap_append

theorem Handling.handled (h : Handling p reads frames) : Handled reads frames := by
  refine ⟨fun read hmem => h.isOk read ((List.dropLast_prefix _).subset hmem), ?_⟩
  by_cases hgreeting : p.Greeting
  · exact .inl (h.greeting hgreeting).2
  · obtain ⟨first, rest, ack, hreads, hfirst, hack, hhandled⟩ := h.opened hgreeting
    exact .inr ⟨first, rest, ack, hreads, hfirst, hack, hhandled ▸ List.prefix_append _ _⟩

/-- A read after which the session stops. -/
theorem Handling.last_read (h : Handling p reads frames) (read : SocketRead) :
    Handled (reads ++ [read]) frames := by
  refine ⟨?_, ?_⟩
  · rw [List.dropLast_concat]
    exact h.isOk
  · refine h.handled.order.imp_right ?_
    rintro ⟨first, rest, ack, rfl, hframes, hack, hpre⟩
    refine ⟨first, rest ++ [read], ack, List.cons_append .., hframes, hack, ?_⟩
    rw [List.flatMap_append]
    exact hpre.trans (List.prefix_append _ _)

theorem Handling.acknowledged (h : Handling .greeted reads frames) {bytes : List UInt8}
    {ack : KtpFrame} (hdecode : decodeFrame bytes ktpMaxPayloadLen = .ok ack)
    (htype : ack.frameType = .helloAck) :
    Handling .acknowledged (reads ++ [.frame (.ok bytes)]) frames := by
  obtain ⟨rfl, rfl⟩ := h.greeting trivial
  refine ⟨List.forall_mem_singleton.mpr rfl, fun hgreeting => hgreeting.elim, fun _ => ?_⟩
  refine ⟨_, [], ack, rfl, ?_, htype, rfl⟩
  rw [SocketRead.frames, hdecode]
  rfl

theorem Handling.read {last : TunnelDataReadyState} (h : Handling (.opened last [] []) reads frames)
    (batch : Option (List KtpFrame)) :
    Handling (.opened last [] (batch.getD [])) (reads ++ [.batch (.ok batch)]) frames := by
  obtain ⟨first, rest, ack, rfl, hfirst, hack, hhandled⟩ := h.opened id
  refine ⟨List.forall_mem_append.mpr ⟨h.isOk, List.forall_mem_singleton.mpr rfl⟩,
    fun hgreeting => hgreeting.elim, fun _ => ?_⟩
  refine ⟨first, rest ++ [.batch (.ok batch)], ack, List.cons_append .., hfirst, hack, ?_⟩
  rw [List.flatMap_append, ← hhandled, List.flatMap_singleton, List.append_assoc]
  rfl

/-- A move without a read. -/
theorem Handling.move (h : Handling p reads frames) (hmove : Move p event p')
    (hread : event.isRead = false) :
    Handling p' reads (frames ++ DataSession.handled [event]) := by
  refine ⟨h.isOk, fun hgreeting => ?_, fun hopened => ?_⟩
  · cases hmove with
    | send hdue =>
      cases hdue with
      | hello =>
        obtain ⟨hreads, hframes⟩ := h.greeting trivial
        rw [hframes]
        exact ⟨hreads, rfl⟩
      | _ => exact hgreeting.elim
    | _ => exact hgreeting.elim
  · have hhandled : DataSession.handled [event] ++ p'.unhandled = p.unhandled := by
      have hnone : readFrames [event] = [] := by
        cases event with
        | readBatch => cases hread
        | _ => rfl
      rw [hmove.handled, hnone, List.append_nil]
    have hbefore : ¬ p.Greeting := fun hgreeting => by
      cases hmove with
      | send hdue =>
        cases hdue with
        | hello => exact hopened trivial
        | _ => exact hgreeting
      | acknowledged => cases hread
      | _ => exact hgreeting
    obtain ⟨first, rest, ack, hreads, hfirst, hack, heq⟩ := h.opened hbefore
    refine ⟨first, rest, ack, hreads, hfirst, hack, ?_⟩
    rw [List.append_assoc, hhandled, heq]

theorem Reaches.handling (h : Reaches p t) : Handling p (socketReads t) (handled t) := by
  induction h with
  | connected =>
    exact ⟨fun _ hmem => absurd hmem List.not_mem_nil, fun _ => ⟨rfl, rfl⟩,
      fun hopened => absurd trivial hopened⟩
  | @move p p' t event h hmove ih =>
    rw [socketReads_append, handled_append]
    cases hread : event.isRead with
    | false =>
      have hnone : socketReads [event] = [] := by
        cases event with
        | readFrame | readBatch => cases hread
        | _ => rfl
      rw [hnone, List.append_nil]
      exact ih.move hmove hread
    | true =>
      cases hmove with
      | acknowledged hdecode htype =>
        exact (List.append_nil (handled t)).symm ▸ ih.acknowledged hdecode htype
      | read last batch => exact (List.append_nil (handled t)).symm ▸ ih.read batch
      | _ => cases hread

/-- A call that reads and handles nothing. -/
theorem Handled.quiet (h : Handled (socketReads t) (DataSession.handled t))
    (hreads : socketReads [event] = []) (hhandled : DataSession.handled [event] = []) :
    Handled (socketReads (t ++ [event])) (DataSession.handled (t ++ [event])) := by
  rw [socketReads_append, handled_append, hreads, hhandled, List.append_nil, List.append_nil]
  exact h

theorem Stops.handled (h : Stops t) : Handled (socketReads t) (handled t) := by
  cases h with
  | rest h => exact h.handling.handled
  | @halt p t event h hhalt =>
    cases hhalt with
    | refused result =>
      rw [socketReads_append, handled_append]
      exact (List.append_nil (DataSession.handled t)).symm ▸ h.handling.last_read (.frame result)
    | readFailed last error =>
      rw [socketReads_append, handled_append]
      exact (List.append_nil (DataSession.handled t)).symm ▸
        h.handling.last_read (.batch (.error error))
    | send | responseFailed | drainFailed => exact h.handling.handled.quiet rfl rfl

end Handling

/-- **What a session handles**, whatever its world. -/
theorem session_handles {W : Type} (world : DataSessionWorld W) (agentIdHint agentVersion : String)
    (fuel : ℕ) (w : W) :
    Handled (socketReads (runTunnelDataSession world agentIdHint agentVersion fuel w).trace)
      (handled (runTunnelDataSession world agentIdHint agentVersion fuel w).trace) :=
  (session_follows world agentIdHint agentVersion fuel w).rule
    (fun _ => ⟨fun _ hmem => absurd hmem List.not_mem_nil, .inl rfl⟩) (fun h => h.handled)
    fun _ h => h.quiet rfl rfl

/-- The reads of a session over a KTP socket, of which some part of the server's records has
arrived. -/
theorem Handled.isPrefix_sent {aead : Aead} (hc : aead.Correct) {reads : List SocketRead}
    {frames : List KtpFrame} (h : Handled reads frames) {incoming : List ReadResult}
    {key : KtpCryptoKey} {m b m' : ℕ} {socket : KtpEncryptedTcpTunnelDataSocket}
    (hreads : SocketReads aead ⟨.fromIo incoming key .clientToRelay .relayToClient m b, m'⟩ reads
      socket)
    {sent : List KtpFrame} {records : List (List UInt8)} {sealer : KtpCryptoSeal}
    (hsealed : (KtpCryptoSeal.new key .relayToClient).sealFrames aead sent = (.ok records, sealer))
    (hm : ∀ frame ∈ sent, frame.payload.length ≤ m)
    (hbytes : incomingBytes incoming <+: records.flatten) :
    frames = [] ∨ ∃ ack rest, sent = ack :: rest ∧ ack.frameType = .helloAck ∧ frames <+: rest := by
  have hwf := KtpCryptoRecordCodec.wf_new key .relayToClient m b
  obtain ⟨total, e, htotal⟩ : ∃ total e, Singly aead
      (.fromIo incoming key .clientToRelay .relayToClient m b) total e :=
    exists_singly aead hwf
  have hsent := (hreads.isPrefix hwf htotal h.isOk).trans
    (htotal.isPrefix_of_fromIo hc hsealed hm hbytes)
  refine h.order.imp_right ?_
  rintro ⟨first, rest, ack, rfl, hframes, hack, hpre⟩
  rw [List.flatMap_cons, hframes, List.singleton_append] at hsent
  obtain ⟨rest', rfl⟩ := hsent
  exact ⟨ack, _, rfl, hack, hpre.trans (List.prefix_append _ _)⟩

end DataSession

/-- **From the server to the data session.** The server seals frames; what arrives of their records,
in any chunking and up to any point, is read by a data session over a KTP socket: first a frame,
then batches under timers that may fire at any time. Then the session handles nothing, or the first
frame was an acknowledgement and it handles the first of the others: none is lost in between,
repeated or reordered, and none is handled before the acknowledgement. -/
theorem handled_isPrefix_sent {aead : Aead} (hc : aead.Correct) {W : Type}
    (world : DataSessionWorld W) (agentIdHint agentVersion : String) (fuel : ℕ) (w : W)
    {incoming : List ReadResult} {cryptoKey : KtpCryptoKey} {m b m' : ℕ}
    {socket : KtpEncryptedTcpTunnelDataSocket}
    (hreads : SocketReads aead
      ⟨.fromIo incoming cryptoKey .clientToRelay .relayToClient m b, m'⟩
      (DataSession.socketReads
        (DataSession.runTunnelDataSession world agentIdHint agentVersion fuel w).trace) socket)
    {sent : List KtpFrame} {records : List (List UInt8)} {sealer : KtpCryptoSeal}
    (hsealed : (KtpCryptoSeal.new cryptoKey .relayToClient).sealFrames aead sent =
      (.ok records, sealer))
    (hm : ∀ frame ∈ sent, frame.payload.length ≤ m)
    (hbytes : incomingBytes incoming <+: records.flatten) :
    DataSession.handled
        (DataSession.runTunnelDataSession world agentIdHint agentVersion fuel w).trace = [] ∨
      ∃ ack rest, sent = ack :: rest ∧ ack.frameType = .helloAck ∧
        DataSession.handled
          (DataSession.runTunnelDataSession world agentIdHint agentVersion fuel w).trace <+:
          rest :=
  (DataSession.session_handles world agentIdHint agentVersion fuel w).isPrefix_sent hc hreads
    hsealed hm hbytes

/-- The records of an acknowledgement and of a ping. -/
def ackRecord : List UInt8 :=
  cryptoHeaderBytes .relayToClient 0 40 ++ frameBytes (.connection .helloAck []) ++
    List.replicate 16 0

def serverPingRecord : List UInt8 :=
  cryptoHeaderBytes .relayToClient 1 41 ++ frameBytes (.connection .ping [0x61]) ++
    List.replicate 16 0

/-- A socket that reads the first record and a part of the second one, and then its rest. -/
def pingedSocket : KtpEncryptedTcpTunnelDataSocket :=
  ⟨.fromIo [.data ⟨ackRecord ++ serverPingRecord.take 7, by decide, by decide⟩,
      .data ⟨serverPingRecord.drop 7, by decide, by decide⟩]
    ⟨Vector.replicate 32 0⟩ .clientToRelay .relayToClient 1024 4096, 1024⟩

def greetedByServer : KtpEncryptedTcpTunnelDataSocket := (pingedSocket.readFrame clearAead "").2

/-- The session reads the acknowledgement and handles the ping. -/
theorem handled_isPrefix_sent_ping :
    DataSession.handled (DataSession.runTunnelDataSession DataSession.pingingWorld "agent" "1" 3
      0).trace = [.connection .ping [0x61]] ∧
    ∃ ack rest, [KtpFrame.connection .helloAck [], .connection .ping [0x61]] = ack :: rest ∧
      ack.frameType = .helloAck ∧
      DataSession.handled (DataSession.runTunnelDataSession DataSession.pingingWorld "agent" "1" 3
        0).trace <+: rest := by
  have hhandled : DataSession.handled (DataSession.runTunnelDataSession DataSession.pingingWorld
      "agent" "1" 3 0).trace = [.connection .ping [0x61]] := by decide +kernel
  have htrace : DataSession.socketReads (DataSession.runTunnelDataSession DataSession.pingingWorld
      "agent" "1" 3 0).trace =
      [.frame (pingedSocket.readFrame clearAead "").1,
        .batch (greetedByServer.readOptionalKtpFrameBatchWithTimeout clearAead 64 5 "").1,
        .batch ((greetedByServer.readOptionalKtpFrameBatchWithTimeout clearAead 64 5
          "").2.readOptionalKtpFrameBatchWithTimeout clearAead 64 5 "").1] := by
    decide +kernel
  obtain ⟨socket, hreads⟩ : ∃ socket, SocketReads clearAead pingedSocket
      (DataSession.socketReads (DataSession.runTunnelDataSession DataSession.pingingWorld
        "agent" "1" 3 0).trace) socket := by
    rw [htrace]
    exact ⟨_, .readFrame _ (.readBatch _ _ _ (.readBatch _ _ _ .done))⟩
  have hsealed : ((KtpCryptoSeal.new ⟨Vector.replicate 32 0⟩ .relayToClient).sealFrames clearAead
      [.connection .helloAck [], .connection .ping [0x61]]).1 =
        .ok [ackRecord, serverPingRecord] := by
    decide +kernel
  refine ⟨hhandled, ?_⟩
  rcases handled_isPrefix_sent clearAead_correct DataSession.pingingWorld "agent" "1" 3 0 hreads
    (Prod.ext hsealed rfl) (by decide) (by decide) with hnil | hpre
  · rw [hhandled] at hnil
    cases hnil
  · exact hpre

end KeliAgent
