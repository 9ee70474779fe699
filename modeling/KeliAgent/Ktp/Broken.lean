import KeliAgent.Ktp.Batching
import KeliAgent.Ktp.Sending

/-!
# Streams that break off

A write may fail half-way, and a peer may be cut off before it has read all that was written.

* `SendCall.send`: a call whose write ends as it is told; `SendCall.sendEnds`.
* `Written`: a stream has written the records of these frames; `BrokenOff`: it has written no more
  than the records of the first ones.
* **`Singly.isPrefix_sealed`**: of records that are cut off anywhere, `next_frame` delivers the
  first frames, in order, before it fails.
-/

namespace KeliAgent

open Wire

/-! ## Writes that fail -/

/-- A call whose write ends with the given outcome. -/
def SendCall.send (aead : Aead) (st : KtpEncryptedStream) (outcome : WriteOutcome) :
    SendCall → Except KtpTcpTransportError Unit × KtpEncryptedStream
  | .sendFrame frame => st.sendFrame aead frame outcome
  | .sendFrames frames => st.sendFrames aead frames outcome

/-- All records of these frames were written, and the seal is where they leave it. -/
def Written (aead : Aead) (start : KtpCryptoSeal) (frames : List KtpFrame)
    (st : KtpEncryptedStream) : Prop :=
  ∃ records, start.sealFrames aead frames = (.ok records, st.sealer) ∧ st.written = records.flatten

/-- Nothing but records of the first of these frames was written, the last of them perhaps in
part. -/
def BrokenOff (aead : Aead) (start : KtpCryptoSeal) (frames : List KtpFrame)
    (st : KtpEncryptedStream) : Prop :=
  ∃ sealed records sealer, sealed <+: frames ∧
    start.sealFrames aead sealed = (.ok records, sealer) ∧ st.written <+: records.flatten

section Sends

variable {aead : Aead} {start : KtpCryptoSeal} {frames : List KtpFrame} {st : KtpEncryptedStream}

theorem written_fromIo (aead : Aead) (incoming : List ReadResult) (key : KtpCryptoKey)
    (d d' : KtpCryptoDirection) (m b : ℕ) :
    Written aead (.new key d) [] (.fromIo incoming key d d' m b) :=
  ⟨[], rfl, rfl⟩

theorem Written.brokenOff (h : Written aead start frames st) {total : List KtpFrame}
    (hfirst : frames <+: total) : BrokenOff aead start total st := by
  obtain ⟨records, hsealed, hwritten⟩ := h
  exact ⟨frames, records, st.sealer, hfirst, hsealed, hwritten ▸ List.prefix_refl _⟩

/-- A write that fails has written a part of the buffer. -/
theorem writeAll_cases (st : KtpEncryptedStream) (outcome : WriteOutcome) :
    (st.writeAll outcome).2.sealer = st.sealer ∧
    ((st.writeAll outcome).1 = .ok () ∧
        (st.writeAll outcome).2.written = st.written ++ st.writeBuffer ∨
      (∃ e, (st.writeAll outcome).1 = .error e) ∧ ∃ sent, sent <+: st.writeBuffer ∧
        (st.writeAll outcome).2.written = st.written ++ sent) := by
  cases outcome with
  | complete => exact ⟨rfl, .inl ⟨rfl, rfl⟩⟩
  | failed sent => exact ⟨rfl, .inr ⟨⟨_, rfl⟩, _, List.take_prefix _ _, rfl⟩⟩

/-- How a call that sends the frames over the stream ends: it wrote their records, or it failed and
wrote nothing, or a part of these records. -/
def SendEnds (aead : Aead) (st : KtpEncryptedStream) (frames : List KtpFrame)
    (after : Except KtpTcpTransportError Unit × KtpEncryptedStream) : Prop :=
  (after.1 = .ok () ∧ ∃ records,
    st.sealer.sealFrames aead frames = (.ok records, after.2.sealer) ∧
    after.2.written = st.written ++ records.flatten) ∨
  (∃ e, after.1 = .error e) ∧ (after.2.written = st.written ∨
    ∃ records sealer sent, st.sealer.sealFrames aead frames = (.ok records, sealer) ∧
      sent <+: records.flatten ∧ after.2.written = st.written ++ sent)

/-- What remains when the records are in the write buffer. -/
theorem sendEnds_writeAll {records : List (List UInt8)} {sealer : KtpCryptoSeal}
    (hsealed : st.sealer.sealFrames aead frames = (.ok records, sealer)) (outcome : WriteOutcome) :
    SendEnds aead st frames (KtpEncryptedStream.writeAll
      { st with sealer := sealer, writeBuffer := records.flatten } outcome) := by
  obtain ⟨hsealer, ⟨hok, hall⟩ | ⟨hfailed, sent, hsent, hpart⟩⟩ := writeAll_cases
    { st with sealer := sealer, writeBuffer := records.flatten } outcome
  · exact .inl ⟨hok, records, hsealer ▸ hsealed, hall⟩
  · exact .inr ⟨hfailed, .inr ⟨records, sealer, sent, hsealed, hsent, hpart⟩⟩

theorem SendCall.sendEnds (aead : Aead) (call : SendCall) (st : KtpEncryptedStream)
    (outcome : WriteOutcome) : SendEnds aead st call.frames (call.send aead st outcome) := by
  cases call with
  | sendFrame frame =>
    simp only [send, SendCall.frames]
    rcases hseal : st.sealer.sealFrame aead frame with ⟨e | record, sealer⟩
    · obtain ⟨-, rest, hrest⟩ := KtpCryptoSeal.appendSealedFrame_of_error hseal []
      rw [KtpEncryptedStream.sendFrame, KtpCryptoSeal.sealFrameInto, hrest]
      exact .inr ⟨⟨_, rfl⟩, .inl rfl⟩
    · have hsealed : st.sealer.sealFrames aead [frame] = (.ok [record], sealer) := by
        simp only [KtpCryptoSeal.sealFrames, hseal]
      have hwrite := sendEnds_writeAll hsealed outcome
      simpa [KtpEncryptedStream.sendFrame, KtpCryptoSeal.sealFrameInto,
        KtpCryptoSeal.appendSealedFrame_of_ok hseal] using hwrite
  | sendFrames frames =>
    simp only [send, SendCall.frames, KtpEncryptedStream.sendFrames]
    cases frames with
    | nil => exact .inl ⟨rfl, [], rfl, (List.append_nil _).symm⟩
    | cons frame frames =>
      rw [if_neg (by simp)]
      rcases hseal : st.sealer.sealFrames aead (frame :: frames) with ⟨e | records, sealer⟩
      · obtain ⟨buffer, hbuffer⟩ := appendSealedFrames_of_error hseal []
        rw [hbuffer]
        exact .inr ⟨⟨_, rfl⟩, .inl rfl⟩
      · rw [appendSealedFrames_of_ok hseal, List.nil_append]
        exact sendEnds_writeAll hseal outcome

/-- The next call over a stream that has written all records so far. -/
theorem Written.send (h : Written aead start frames st) (call : SendCall) (outcome : WriteOutcome) :
    ((call.send aead st outcome).1 = .ok () ∧
      Written aead start (frames ++ call.frames) (call.send aead st outcome).2) ∨
    (∃ e, (call.send aead st outcome).1 = .error e) ∧
      BrokenOff aead start (frames ++ call.frames) (call.send aead st outcome).2 := by
  obtain ⟨records, hsealed, hwritten⟩ := h
  rcases call.sendEnds aead st outcome with ⟨hok, records', hsealed', hwritten'⟩ |
    ⟨herror, hnone | ⟨records', sealer, sent, hsealed', hsent, hpart⟩⟩
  · refine .inl ⟨hok, records ++ records', KtpCryptoSeal.sealFrames_append hsealed hsealed', ?_⟩
    rw [hwritten', hwritten, List.flatten_append]
  · refine .inr ⟨herror, frames, records, st.sealer, List.prefix_append _ _, hsealed, ?_⟩
    rw [hnone, hwritten]
  · refine .inr ⟨herror, _, _, sealer, List.prefix_refl _,
      KtpCryptoSeal.sealFrames_append hsealed hsealed', ?_⟩
    rw [hpart, hwritten, List.flatten_append]
    exact (List.prefix_append_right_inj _).mpr hsent

end Sends

/-! ## Reads that are cut off -/

section Reads

variable {aead : Aead} {b : ℕ} {st st' : KtpEncryptedStream}

/-- What is delivered depends on the codec and the reads alone. -/
theorem Singly.congr {fs : List KtpFrame} {e : KtpTcpTransportError} (h : Singly aead st fs e)
    (hcodec : st'.codec = st.codec) (hincoming : st'.incoming = st.incoming) :
    Singly aead st' fs e := by
  have hnext : st'.nextFrame aead = ((st.nextFrame aead).1,
      st'.reading (st.nextFrame aead).2.codec (st.nextFrame aead).2.incoming) := by
    rw [KtpEncryptedStream.nextFrame, hcodec, hincoming]
    rfl
  induction h generalizing st' with
  | fail h =>
    rw [h] at hnext
    exact .fail hnext
  | @deliver st st₁ f fs e h hs ih =>
    rw [h] at hnext
    exact .deliver hnext (ih rfl rfl rfl)

/-- A frame that is delivered was taken from the front of all bytes received and to come. -/
theorem recordNext_of_nextFrame (hwf : st.codec.Wf b) {f : KtpFrame}
    (h : st.nextFrame aead = (.ok f, st')) :
    ∃ n, recordNext aead b st.codec.opener (st.codec.unread ++ incomingBytes st.incoming) =
        .emit f n st'.codec.opener ∧ st'.codec.Wf b ∧
      st'.codec.unread ++ incomingBytes st'.incoming =
        (st.codec.unread ++ incomingBytes st.incoming).drop n := by
  rw [KtpEncryptedStream.nextFrame] at h
  rcases hfill : fill aead st.incoming st.codec with ⟨e | _, codec, incoming⟩
  · rw [(fill_error hwf hfill).1] at h
    cases h
  obtain ⟨hwf', hne, ⟨hbytes, hopener⟩, hloop, -⟩ := fill_ok hwf hfill
  rw [hloop, KtpEncryptedStream.nextFrameLoop] at h
  rcases poll_cases aead hwf' with
    ⟨-, hpoll⟩ | ⟨e, -, hpoll⟩ | ⟨f', n, codec', hemit, hpoll, hwf'', hdrop, -⟩
  · rw [hpoll] at hne
    exact absurd rfl hne
  · rw [hpoll] at h
    cases h
  · rw [hpoll] at h
    cases h
    refine ⟨n, ?_, hwf'', ?_⟩
    · rw [← hbytes, ← hopener, recordNext_append (by rw [hemit]; simp), hemit]
      rfl
    · have hle := (recordNext_emit hemit).2.1
      rw [← hbytes, List.drop_append_of_le_length hle, ← hdrop]
      rfl

/-- **Of records that are cut off anywhere**, `next_frame` delivers the first frames. -/
theorem Singly.isPrefix_sealed (hc : aead.Correct) {fs : List KtpFrame} {e : KtpTcpTransportError}
    (h : Singly aead st fs e) (hwf : st.codec.Wf b) {sealer sealer' : KtpCryptoSeal}
    {frames : List KtpFrame} {records : List (List UInt8)}
    (hs : sealer.sealFrames aead frames = (.ok records, sealer'))
    (hf : st.codec.opener.Follows sealer)
    (hm : ∀ frame ∈ frames, frame.payload.length ≤ st.codec.opener.maxPayloadLen)
    (hbytes : st.codec.unread ++ incomingBytes st.incoming <+: records.flatten) :
    fs <+: frames := by
  induction h generalizing sealer frames records with
  | fail h => exact List.nil_prefix
  | @deliver st st' f fs e h _ ih =>
    obtain ⟨n, hemit, hwf', hdrop⟩ := recordNext_of_nextFrame hwf h
    obtain ⟨-, hle, -, hmono⟩ := recordNext_emit hemit
    obtain ⟨more, hmore⟩ := hbytes
    cases frames with
    | nil =>
      -- nothing was sealed, so that nothing could be taken out
      cases hs
      obtain ⟨hnil, -⟩ := List.append_eq_nil_iff.mp hmore
      rw [hnil] at hemit
      cases hemit
    | cons frame frames =>
      obtain ⟨record, sealer₁, records', hseal, hrest, rfl⟩ := KtpCryptoSeal.sealFrames_cons hs
      have hsealed := recordNext_sealed hc hseal hf (hm _ (List.mem_cons_self ..))
        (le_max_right b record.length) records'.flatten
      rw [← List.flatten_cons, ← hmore,
        recordNext_append (by rw [hmono _ (le_max_left ..)]; simp), hmono _ (le_max_left ..)]
        at hsealed
      obtain ⟨rfl, rfl, hopener⟩ := Poll.emit.inj hsealed
      obtain ⟨-, -, rfl, -⟩ := KtpCryptoSeal.sealFrame_ok hseal
      refine (List.prefix_cons_inj f).mpr (ih hwf' hrest ?_ ?_ ?_)
      · rw [hopener]
        exact ⟨hf.key, hf.direction, congrArg (· + 1) hf.sequence⟩
      · rw [hopener]
        exact fun frame hmem => hm frame (List.mem_cons_of_mem _ hmem)
      · rw [hdrop]
        refine ⟨more, ?_⟩
        rw [← List.drop_append_of_le_length hle, hmore, List.flatten_cons, List.drop_left]

/-- The same for a peer that has read nothing yet. -/
theorem Singly.isPrefix_of_fromIo (hc : aead.Correct) {incoming : List ReadResult}
    {key : KtpCryptoKey} {d d' : KtpCryptoDirection} {m : ℕ} {fs : List KtpFrame}
    {e : KtpTcpTransportError} (h : Singly aead (.fromIo incoming key d' d m b) fs e)
    {frames : List KtpFrame} {records : List (List UInt8)} {sealer : KtpCryptoSeal}
    (hs : (KtpCryptoSeal.new key d).sealFrames aead frames = (.ok records, sealer))
    (hm : ∀ frame ∈ frames, frame.payload.length ≤ m)
    (hbytes : incomingBytes incoming <+: records.flatten) : fs <+: frames := by
  have haccepted := (KtpCryptoSeal.sealFrames_ok hs).1
  exact h.isPrefix_sealed hc (KtpCryptoRecordCodec.wf_new key d m b) hs ⟨rfl, rfl, rfl⟩
    (fun frame hmem => le_min (hm frame hmem) (haccepted frame hmem).2) hbytes

/-- What a peer receives of a stream that has broken off. -/
theorem BrokenOff.received (hc : aead.Correct) {key : KtpCryptoKey} {d d' : KtpCryptoDirection}
    {frames : List KtpFrame} (h : BrokenOff aead (.new key d) frames st) {m : ℕ}
    (hm : ∀ frame ∈ frames, frame.Accepted → frame.payload.length ≤ m) {chunks : List Chunk}
    (hchunks : chunkBytes chunks <+: st.written) {fs : List KtpFrame} {e : KtpTcpTransportError}
    (hs : Singly aead (.fromIo (reads chunks) key d' d m b) fs e) : fs <+: frames := by
  obtain ⟨sealed, records, sealer, hfirst, hsealed, hwritten⟩ := h
  have haccepted := (KtpCryptoSeal.sealFrames_ok hsealed).1
  have hreceived : fs <+: sealed := by
    refine hs.isPrefix_of_fromIo hc hsealed
      (fun frame hmem => hm frame (hfirst.subset hmem) (haccepted frame hmem)) ?_
    rw [incomingBytes_reads]
    exact hchunks.trans hwritten
  exact hreceived.trans hfirst

end Reads

end KeliAgent
