import KeliAgent.Ktp.RecordCodec

/-!
# The encrypted stream

`KtpEncryptedStream` of `ktp_transport.rs`: a seal and a record codec over a byte stream. What the
reads will return is part of the state; a write is told how it ends.

* `sendFrame`, `sendFrames`, `nextFrame`, `nextFrames`, `nextFramesInto`.
* `fill`: read until the codec has an answer; the common part of both reading loops (`fill_ok`,
  `fill_error`).
* `Singly`: the frames that successive `next_frame` calls deliver before one fails;
  **`exists_singly`**, `Singly.unique`.
-/

namespace KeliAgent

open Wire

/-- The length of `read_buffer`. -/
def ktpReadBufferLen : ℕ := 16 * 1024

/-- What a read that is neither an error nor the end of the stream returns. -/
structure Chunk where
  bytes : List UInt8
  pos : 0 < bytes.length
  le : bytes.length ≤ ktpReadBufferLen

/-- One read of the underlying stream. -/
inductive ReadResult where
  | data (chunk : Chunk)
  | failed

/-- How a write ends: completely, or with an error after some bytes. -/
inductive WriteOutcome where
  | complete
  | failed (sent : ℕ)

inductive KtpTcpTransportError where
  | io
  | crypto (error : KtpCryptoError)
  | closed
  deriving DecidableEq, Repr

def KtpTcpTransportError.code : KtpTcpTransportError → String
  | .io => "ktp_tcp_io_error"
  | .crypto .authFailed => "ktp_crypto_auth_failed"
  | .crypto (.malformedRecord _) => "ktp_crypto_malformed_record"
  | .crypto (.bufferLimit _ _) => "ktp_crypto_buffer_limit"
  | .crypto (.ktp _) => "ktp_crypto_ktp_error"
  | .crypto .sequenceExhausted => "ktp_crypto_sequence_exhausted"
  | .crypto (.sequenceMismatch _ _) => "ktp_crypto_sequence_mismatch"
  | .closed => "ktp_tcp_closed"

structure KtpEncryptedStream where
  sealer : KtpCryptoSeal
  codec : KtpCryptoRecordCodec
  writeBuffer : List UInt8
  /-- The results of the reads to come; afterwards the stream is at its end. -/
  incoming : List ReadResult
  /-- All bytes written so far. -/
  written : List UInt8

namespace KtpEncryptedStream

def fromIo (incoming : List ReadResult) (key : KtpCryptoKey)
    (sealDirection openDirection : KtpCryptoDirection) (maxPayloadLen maxBufferLen : ℕ) :
    KtpEncryptedStream where
  sealer := .new key sealDirection
  codec := .new key openDirection maxPayloadLen maxBufferLen
  writeBuffer := []
  incoming := incoming
  written := []

/-! ## Sending -/

/-- `write_all` and `flush` of the write buffer. -/
def writeAll (self : KtpEncryptedStream) :
    WriteOutcome → Except KtpTcpTransportError Unit × KtpEncryptedStream
  | .complete => (.ok (), { self with written := self.written ++ self.writeBuffer })
  | .failed sent => (.error .io, { self with written := self.written ++ self.writeBuffer.take sent })

def sendFrame (aead : Aead) (self : KtpEncryptedStream) (frame : KtpFrame)
    (outcome : WriteOutcome) : Except KtpTcpTransportError Unit × KtpEncryptedStream :=
  match self.sealer.sealFrameInto aead frame self.writeBuffer with
  | (.error error, sealer, buffer) =>
    (.error (.crypto error), { self with sealer := sealer, writeBuffer := buffer })
  | (.ok (), sealer, buffer) =>
    writeAll { self with sealer := sealer, writeBuffer := buffer } outcome

/-- The loop of `send_frames`: append one record after the other, up to the first error. -/
def appendSealedFrames (aead : Aead) : List KtpFrame → KtpCryptoSeal → List UInt8 →
    Except KtpCryptoError Unit × KtpCryptoSeal × List UInt8
  | [], sealer, buffer => (.ok (), sealer, buffer)
  | frame :: frames, sealer, buffer => match sealer.appendSealedFrame aead frame buffer with
    | (.error error, sealer', buffer') => (.error error, sealer', buffer')
    | (.ok (), sealer', buffer') => appendSealedFrames aead frames sealer' buffer'

def sendFrames (aead : Aead) (self : KtpEncryptedStream) (frames : List KtpFrame)
    (outcome : WriteOutcome) : Except KtpTcpTransportError Unit × KtpEncryptedStream :=
  if frames.isEmpty then (.ok (), self)
  else match appendSealedFrames aead frames self.sealer [] with
  | (.error error, sealer, buffer) =>
    (.error (.crypto error), { self with sealer := sealer, writeBuffer := buffer })
  | (.ok (), sealer, buffer) =>
    writeAll { self with sealer := sealer, writeBuffer := buffer } outcome

/-! ## Receiving -/

/-- The same stream with another codec and other reads to come. -/
def reading (self : KtpEncryptedStream) (codec : KtpCryptoRecordCodec)
    (incoming : List ReadResult) : KtpEncryptedStream :=
  { self with codec := codec, incoming := incoming }

/-- The loop of `next_frame`. -/
def nextFrameLoop (aead : Aead) (incoming : List ReadResult) (codec : KtpCryptoRecordCodec) :
    Except KtpTcpTransportError KtpFrame × KtpCryptoRecordCodec × List ReadResult :=
  match codec.nextFrame aead with
  | (.error error, codec') => (.error (.crypto error), codec', incoming)
  | (.ok (some frame), codec') => (.ok frame, codec', incoming)
  | (.ok none, codec') => match incoming with
    | [] => (.error .closed, codec', [])
    | .failed :: incoming' => (.error .io, codec', incoming')
    | .data chunk :: incoming' => match codec'.push chunk.bytes with
      | (.error error, codec'') => (.error (.crypto error), codec'', incoming')
      | (.ok (), codec'') => nextFrameLoop aead incoming' codec''

def nextFrame (aead : Aead) (self : KtpEncryptedStream) :
    Except KtpTcpTransportError KtpFrame × KtpEncryptedStream :=
  let r := nextFrameLoop aead self.incoming self.codec
  (r.1, self.reading r.2.1 r.2.2)

/-- The loop of `next_frames_into`; the second component is the caller's vector. -/
def nextFramesIntoLoop (aead : Aead) (maxFrames : ℕ) (incoming : List ReadResult)
    (codec : KtpCryptoRecordCodec) :
    Except KtpTcpTransportError ℕ × List KtpFrame × KtpCryptoRecordCodec × List ReadResult :=
  match codec.nextFramesInto aead maxFrames with
  | (.error error, frames, codec') => (.error (.crypto error), frames, codec', incoming)
  | (.ok frameCount, frames, codec') =>
    if 0 < frameCount then (.ok frameCount, frames, codec', incoming)
    else match incoming with
    | [] => (.error .closed, frames, codec', [])
    | .failed :: incoming' => (.error .io, frames, codec', incoming')
    | .data chunk :: incoming' => match codec'.push chunk.bytes with
      | (.error error, codec'') => (.error (.crypto error), frames, codec'', incoming')
      | (.ok (), codec'') => nextFramesIntoLoop aead maxFrames incoming' codec''

/-- `next_frames_into`: the result, and the caller's vector and the stream after the call. -/
def nextFramesInto (aead : Aead) (self : KtpEncryptedStream) (maxFrames : ℕ) :
    Except KtpTcpTransportError ℕ × List KtpFrame × KtpEncryptedStream :=
  if maxFrames = 0 then (.ok 0, [], self)
  else
    let r := nextFramesIntoLoop aead maxFrames self.incoming self.codec
    (r.1, r.2.1, self.reading r.2.2.1 r.2.2.2)

/-- `next_frames`: on an error the vector is dropped. -/
def nextFrames (aead : Aead) (self : KtpEncryptedStream) (maxFrames : ℕ) :
    Except KtpTcpTransportError (List KtpFrame) × KtpEncryptedStream :=
  match self.nextFramesInto aead maxFrames with
  | (.error error, _, self') => (.error error, self')
  | (.ok _, frames, self') => (.ok frames, self')

end KtpEncryptedStream

/-! ## Reading until the codec has an answer -/

/-- Read chunks into the codec until a poll returns a frame or an error. -/
def fill (aead : Aead) (incoming : List ReadResult) (codec : KtpCryptoRecordCodec) :
    Except KtpTcpTransportError Unit × KtpCryptoRecordCodec × List ReadResult :=
  match (codec.nextFrame aead).1 with
  | .ok none => match incoming with
    | [] => (.error .closed, codec, [])
    | .failed :: incoming' => (.error .io, codec, incoming')
    | .data chunk :: incoming' => match codec.push chunk.bytes with
      | (.error error, codec') => (.error (.crypto error), codec', incoming')
      | (.ok (), codec') => fill aead incoming' codec'
  | _ => (.ok (), codec, incoming)

/-- All bytes that are still to come. -/
def incomingBytes : List ReadResult → List UInt8
  | [] => []
  | .data chunk :: incoming => chunk.bytes ++ incomingBytes incoming
  | .failed :: incoming => incomingBytes incoming

section Fill

open KtpEncryptedStream

variable {aead : Aead} {b : ℕ} {codec : KtpCryptoRecordCodec}

/-- The three answers of a poll of the codec. -/
theorem poll_cases (aead : Aead) (hc : codec.Wf b) :
    (recordNext aead b codec.opener codec.unread = .more ∧
      codec.nextFrame aead = (.ok none, codec)) ∨
    (∃ e, recordNext aead b codec.opener codec.unread = .fail e ∧
      codec.nextFrame aead = (.error e, codec)) ∨
    ∃ f n codec', recordNext aead b codec.opener codec.unread = .emit f n codec'.opener ∧
      codec.nextFrame aead = (.ok (some f), codec') ∧ codec'.Wf b ∧
      codec'.unread = codec.unread.drop n ∧ codec'.unread.length < codec.unread.length := by
  rcases Codec.next_cases (k := recordCodec aead b) hc with
    h | ⟨e, h⟩ | ⟨f, n, hn, h₁, h₂, h₃⟩
  · exact Or.inl h
  · exact Or.inr (Or.inl ⟨e, h⟩)
  · refine Or.inr (Or.inr ⟨f, n, (codec.nextFrame aead).2, hn, Prod.ext h₁ rfl, h₂, h₃, ?_⟩)
    obtain ⟨hpos, hle⟩ := (recordParser aead b).emit_len hn
    have hu : (codec.nextFrame aead).2.unread = codec.unread.drop n := h₃
    have hle' : n ≤ codec.unread.length := hle
    rw [hu, List.length_drop]
    omega

/-- A push is accepted as long as the unread bytes stay within the limit. -/
theorem push_cases (hc : codec.Wf b) (chunk : List UInt8) :
    (b < codec.unread.length + chunk.length ∧ ∃ e, codec.push chunk = (.error e, codec)) ∨
    codec.unread.length + chunk.length ≤ b ∧
      ∃ codec', codec.push chunk = (.ok (), codec') ∧ codec'.Wf b ∧
        codec'.unread = codec.unread ++ chunk ∧ codec'.opener = codec.opener := by
  obtain ⟨rfl, hbd⟩ := hc
  unfold KtpCryptoRecordCodec.push
  simp only [← Cursor.length_unread]
  split_ifs with hfit
  · exact Or.inl ⟨hfit, _, rfl⟩
  · have hle := Nat.not_lt.mp hfit
    refine Or.inr ⟨hle, _, rfl, ⟨rfl, ?_⟩, Cursor.unread_push hbd chunk, rfl⟩
    rw [Cursor.length_unread] at hle
    exact Cursor.bounded_push hbd hle

theorem nextFramesInto_of_none (hp : codec.nextFrame aead = (.ok none, codec)) (n : ℕ) :
    codec.nextFramesInto aead (n + 1) = (.ok 0, [], codec) := by
  rw [KtpCryptoRecordCodec.nextFramesInto, KtpCryptoRecordCodec.nextFramesLoop, hp]
  rfl

/-- **When filling ends with an answer of the codec**, both loops continue from there. -/
theorem fill_ok (hc : codec.Wf b) {incoming incoming' : List ReadResult}
    {codec' : KtpCryptoRecordCodec}
    (h : fill aead incoming codec = (.ok (), codec', incoming')) :
    codec'.Wf b ∧ (codec'.nextFrame aead).1 ≠ .ok none ∧
      (codec'.unread ++ incomingBytes incoming' = codec.unread ++ incomingBytes incoming ∧
        codec'.opener = codec.opener) ∧
      nextFrameLoop aead incoming codec = nextFrameLoop aead incoming' codec' ∧
      ∀ n, nextFramesIntoLoop aead (n + 1) incoming codec =
        nextFramesIntoLoop aead (n + 1) incoming' codec' := by
  induction incoming generalizing codec with
  | nil =>
    unfold fill at h
    rcases poll_cases aead hc with ⟨-, hp⟩ | ⟨e, -, hp⟩ | ⟨f, n, c', -, hp, -⟩
    · rw [hp] at h; cases h
    all_goals
      rw [hp] at h
      cases h
      exact ⟨hc, by rw [hp]; simp, ⟨rfl, rfl⟩, rfl, fun _ => rfl⟩
  | cons read incoming ih =>
    unfold fill at h
    rcases poll_cases aead hc with ⟨-, hp⟩ | ⟨e, -, hp⟩ | ⟨f, n, c', -, hp, -⟩
    · rw [hp] at h
      cases read with
      | failed => cases h
      | data chunk =>
        rcases push_cases hc chunk.bytes with ⟨-, e, hpush⟩ | ⟨-, c', hpush, hc', hu, ho⟩
        · simp only [hpush] at h; cases h
        simp only [hpush] at h
        obtain ⟨i₁, i₂, i₃, i₄, i₅⟩ := ih hc' h
        refine ⟨i₁, i₂, ⟨?_, i₃.2.trans ho⟩, ?_, fun n => ?_⟩
        · rw [i₃.1, hu, incomingBytes, List.append_assoc]
        · rw [nextFrameLoop, hp]
          simp only [hpush, i₄]
        · rw [nextFramesIntoLoop, nextFramesInto_of_none hp]
          simp only [lt_irrefl, if_false, hpush, i₅]
    all_goals
      rw [hp] at h
      cases h
      exact ⟨hc, by rw [hp]; simp, ⟨rfl, rfl⟩, rfl, fun _ => rfl⟩

/-- **When filling fails**, both loops fail in the same way, before any frame. -/
theorem fill_error (hc : codec.Wf b) {incoming incoming' : List ReadResult}
    {codec' : KtpCryptoRecordCodec} {e : KtpTcpTransportError}
    (h : fill aead incoming codec = (.error e, codec', incoming')) :
    nextFrameLoop aead incoming codec = (.error e, codec', incoming') ∧
      ∀ n, nextFramesIntoLoop aead (n + 1) incoming codec = (.error e, [], codec', incoming') := by
  induction incoming generalizing codec with
  | nil =>
    unfold fill at h
    rcases poll_cases aead hc with ⟨-, hp⟩ | ⟨e, -, hp⟩ | ⟨f, n, c', -, hp, -⟩
    · rw [hp] at h
      cases h
      refine ⟨by rw [nextFrameLoop, hp], fun n => ?_⟩
      rw [nextFramesIntoLoop, nextFramesInto_of_none hp]
      rfl
    all_goals rw [hp] at h; cases h
  | cons read incoming ih =>
    unfold fill at h
    rcases poll_cases aead hc with ⟨-, hp⟩ | ⟨e, -, hp⟩ | ⟨f, n, c', -, hp, -⟩
    · rw [hp] at h
      cases read with
      | failed =>
        cases h
        refine ⟨by rw [nextFrameLoop, hp], fun n => ?_⟩
        rw [nextFramesIntoLoop, nextFramesInto_of_none hp]
        rfl
      | data chunk =>
        rcases push_cases hc chunk.bytes with ⟨-, e, hpush⟩ | ⟨-, c', hpush, hc', -, -⟩
        · simp only [hpush] at h
          cases h
          refine ⟨by rw [nextFrameLoop, hp]; simp only [hpush], fun n => ?_⟩
          rw [nextFramesIntoLoop, nextFramesInto_of_none hp]
          simp only [lt_irrefl, if_false, hpush]
        · simp only [hpush] at h
          obtain ⟨i₁, i₂⟩ := ih hc' h
          refine ⟨by rw [nextFrameLoop, hp]; simp only [hpush, i₁], fun n => ?_⟩
          rw [nextFramesIntoLoop, nextFramesInto_of_none hp]
          simp only [lt_irrefl, if_false, hpush, i₂]
    all_goals rw [hp] at h; cases h

end Fill

/-! ## One frame at a time -/

/-- `Singly aead stream frames e`: successive `next_frame` calls deliver `frames`, and the next one
fails with `e`. -/
inductive Singly (aead : Aead) : KtpEncryptedStream → List KtpFrame → KtpTcpTransportError → Prop
  | fail {st st' e} (h : st.nextFrame aead = (.error e, st')) : Singly aead st [] e
  | deliver {st st' f fs e} (h : st.nextFrame aead = (.ok f, st')) (hs : Singly aead st' fs e) :
    Singly aead st (f :: fs) e

theorem Singly.unique {aead : Aead} {st : KtpEncryptedStream} {fs fs' : List KtpFrame}
    {e e' : KtpTcpTransportError} (h : Singly aead st fs e) (h' : Singly aead st fs' e') :
    fs = fs' ∧ e = e' := by
  induction h generalizing fs' e' with
  | fail h =>
    cases h' with
    | fail h' => rw [h] at h'; cases h'; exact ⟨rfl, rfl⟩
    | deliver h' => rw [h] at h'; cases h'
  | deliver h _ ih =>
    cases h' with
    | fail h' => rw [h] at h'; cases h'
    | deliver h' hs' =>
      rw [h] at h'
      cases h'
      obtain ⟨rfl, rfl⟩ := ih hs'
      exact ⟨rfl, rfl⟩

/-- Only the next call of `next_frame` matters. -/
theorem Singly.of_nextFrame_eq {aead : Aead} {st st' : KtpEncryptedStream} {fs : List KtpFrame}
    {e : KtpTcpTransportError} (h : Singly aead st fs e)
    (heq : st'.nextFrame aead = st.nextFrame aead) : Singly aead st' fs e := by
  cases h with
  | fail h => exact .fail (heq.trans h)
  | deliver h hs => exact .deliver (heq.trans h) hs

/-- A call of `next_frame` fails, or delivers a frame and leaves less to read. -/
theorem nextFrame_cases (aead : Aead) {b : ℕ} {st : KtpEncryptedStream} (hc : st.codec.Wf b) :
    (∃ e st', st.nextFrame aead = (.error e, st')) ∨
    ∃ f st', st.nextFrame aead = (.ok f, st') ∧ st'.codec.Wf b ∧
      st'.codec.unread.length + (incomingBytes st'.incoming).length <
        st.codec.unread.length + (incomingBytes st.incoming).length := by
  rcases h : fill aead st.incoming st.codec with ⟨e | _, codec', incoming'⟩
  · refine Or.inl ⟨e, st.reading codec' incoming', ?_⟩
    rw [KtpEncryptedStream.nextFrame, (fill_error hc h).1]
  obtain ⟨hc', hne, hlen, hloop, -⟩ := fill_ok hc h
  rcases poll_cases aead hc' with ⟨-, hp⟩ | ⟨e, -, hp⟩ | ⟨f, n, c', -, hp, hwf, -, hlt⟩
  · rw [hp] at hne; exact absurd rfl hne
  · refine Or.inl ⟨.crypto e, st.reading codec' incoming', ?_⟩
    rw [KtpEncryptedStream.nextFrame, hloop, KtpEncryptedStream.nextFrameLoop, hp]
  · refine Or.inr ⟨f, st.reading c' incoming', ?_, hwf, ?_⟩
    · rw [KtpEncryptedStream.nextFrame, hloop, KtpEncryptedStream.nextFrameLoop, hp]
    · have := congrArg List.length hlen.1
      simp only [List.length_append] at this
      simp only [KtpEncryptedStream.reading]
      omega

/-- **Reading one frame at a time ends**: the calls deliver finitely many frames before one
fails. -/
theorem exists_singly (aead : Aead) {b : ℕ} {st : KtpEncryptedStream} (hc : st.codec.Wf b) :
    ∃ fs e, Singly aead st fs e := by
  induction hn : st.codec.unread.length + (incomingBytes st.incoming).length
    using Nat.strong_induction_on generalizing st with
  | _ n ih =>
    rcases nextFrame_cases aead hc with ⟨e, st', h⟩ | ⟨f, st', h, hc', hlt⟩
    · exact ⟨[], e, .fail h⟩
    · obtain ⟨fs, e, hs⟩ := ih _ (hn ▸ hlt) hc' rfl
      exact ⟨f :: fs, e, .deliver h hs⟩

end KeliAgent
