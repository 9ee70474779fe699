import KeliAgent.Ktp.Delivery

/-!
# Sending

Sequences of `send_frame` and `send_frames` calls over a stream whose writes succeed, and the peer
that reads what was written.

* `SendCall.run_cases`: a call seals its frames and writes the records, or fails and writes nothing.
* `SendCall.Clean`: a batch that does not seal a frame before it refuses another one.
* **`sent_eq_received`**: if all calls are clean, the peer receives exactly the frames of the calls
  that returned `Ok`. A batch that is not clean moves the sequence number without writing, so that
  the peer refuses everything sent later (`unclean_batch_breaks_stream`).
* **`configured_receiver_iff`**: with the limits of `KtpEncryptedTcpTunnelDataTransport`, what is
  sent is received in every chunking if and only if the records fit a buffer of 1 MiB.
-/

namespace KeliAgent

open Wire

inductive SendCall where
  | sendFrame (frame : KtpFrame)
  | sendFrames (frames : List KtpFrame)
  deriving DecidableEq

def SendCall.frames : SendCall → List KtpFrame
  | .sendFrame frame => [frame]
  | .sendFrames frames => frames

/-- A call over a stream whose writes succeed. -/
def SendCall.run (aead : Aead) (st : KtpEncryptedStream) :
    SendCall → Except KtpTcpTransportError Unit × KtpEncryptedStream
  | .sendFrame frame => st.sendFrame aead frame .complete
  | .sendFrames frames => st.sendFrames aead frames .complete

/-- Calls one after the other: the frames of those that returned `Ok`, and the stream. -/
def sendAll (aead : Aead) : KtpEncryptedStream → List SendCall → List KtpFrame × KtpEncryptedStream
  | st, [] => ([], st)
  | st, call :: calls =>
    let rest := sendAll aead (call.run aead st).2 calls
    match (call.run aead st).1 with
    | .ok () => (call.frames ++ rest.1, rest.2)
    | .error _ => rest

/-- Every call returns `Ok`. -/
def AllOk (aead : Aead) : KtpEncryptedStream → List SendCall → Prop
  | _, [] => True
  | st, call :: calls => (call.run aead st).1 = .ok () ∧ AllOk aead (call.run aead st).2 calls

/-- A call that fails before it seals its first frame, if it fails for a frame at all. -/
def SendCall.Clean : SendCall → Prop
  | .sendFrame _ => True
  | .sendFrames frames => (∀ frame ∈ frames, frame.Accepted) ∨
    ∃ frame ∈ frames.head?, ¬ frame.Accepted

section Calls

variable {aead : Aead}

/-- The loop of `send_frames` is sealing one frame after the other. -/
theorem appendSealedFrames_of_ok {frames : List KtpFrame} {sealer sealer' : KtpCryptoSeal}
    {records : List (List UInt8)} (h : sealer.sealFrames aead frames = (.ok records, sealer'))
    (buffer : List UInt8) :
    KtpEncryptedStream.appendSealedFrames aead frames sealer buffer =
      (.ok (), sealer', buffer ++ records.flatten) := by
  induction frames generalizing sealer records buffer with
  | nil =>
    cases h
    rw [KtpEncryptedStream.appendSealedFrames, List.flatten_nil, List.append_nil]
  | cons frame frames ih =>
    obtain ⟨record, sealer₁, records', h₁, h₂, rfl⟩ := KtpCryptoSeal.sealFrames_cons h
    rw [KtpEncryptedStream.appendSealedFrames, KtpCryptoSeal.appendSealedFrame_of_ok h₁]
    simp only [ih h₂, List.flatten_cons, List.append_assoc]

theorem appendSealedFrames_of_error {frames : List KtpFrame} {sealer sealer' : KtpCryptoSeal}
    {e : KtpCryptoError} (h : sealer.sealFrames aead frames = (.error e, sealer'))
    (buffer : List UInt8) : ∃ buffer',
      KtpEncryptedStream.appendSealedFrames aead frames sealer buffer =
        (.error e, sealer', buffer') := by
  induction frames generalizing sealer buffer with
  | nil => cases h
  | cons frame frames ih =>
    rw [KtpEncryptedStream.appendSealedFrames]
    rcases KtpCryptoSeal.sealFrames_cons_error h with h₁ | ⟨record, sealer₁, h₁, h₂⟩
    · obtain ⟨rfl, rest, hr⟩ := KtpCryptoSeal.appendSealedFrame_of_error h₁ buffer
      exact ⟨rest, by rw [hr]⟩
    · rw [KtpCryptoSeal.appendSealedFrame_of_ok h₁]
      exact ih h₂ _

/-- **A call seals its frames and writes the records, or fails and writes nothing.** -/
theorem SendCall.run_cases (aead : Aead) (call : SendCall) (st : KtpEncryptedStream) :
    ((call.run aead st).1 = .ok () ∧ ∃ records,
      st.sealer.sealFrames aead call.frames = (.ok records, (call.run aead st).2.sealer) ∧
      (call.run aead st).2.written = st.written ++ records.flatten) ∨
    ∃ e e', (call.run aead st).1 = .error e ∧
      st.sealer.sealFrames aead call.frames = (.error e', (call.run aead st).2.sealer) ∧
      (call.run aead st).2.written = st.written := by
  cases call with
  | sendFrame frame =>
    simp only [run, frames, KtpEncryptedStream.sendFrame, KtpCryptoSeal.sealFrameInto,
      KtpCryptoSeal.sealFrames]
    rcases h₁ : st.sealer.sealFrame aead frame with ⟨e | record, sealer'⟩
    · obtain ⟨rfl, rest, hr⟩ := KtpCryptoSeal.appendSealedFrame_of_error h₁ []
      rw [hr]
      exact Or.inr ⟨_, e, rfl, rfl, rfl⟩
    · rw [KtpCryptoSeal.appendSealedFrame_of_ok h₁]
      exact Or.inl ⟨rfl, [record], rfl, by simp [KtpEncryptedStream.writeAll]⟩
  | sendFrames frames =>
    simp only [run, SendCall.frames, KtpEncryptedStream.sendFrames]
    cases frames with
    | nil => exact Or.inl ⟨rfl, [], rfl, (List.append_nil _).symm⟩
    | cons frame frames =>
      rw [if_neg (by simp)]
      rcases h₁ : st.sealer.sealFrames aead (frame :: frames) with ⟨e | records, sealer'⟩
      · obtain ⟨buffer, hb⟩ := appendSealedFrames_of_error h₁ []
        rw [hb]
        exact Or.inr ⟨_, e, rfl, rfl, rfl⟩
      · rw [appendSealedFrames_of_ok h₁]
        exact Or.inl ⟨rfl, records, rfl, by simp [KtpEncryptedStream.writeAll]⟩

/-- A clean call that fails leaves the seal as it was, or exhausted. -/
theorem SendCall.Clean.sealer (ht : aead.Total) {call : SendCall} (hc : call.Clean)
    {sealer sealer' : KtpCryptoSeal} {e : KtpCryptoError}
    (h : sealer.sealFrames aead call.frames = (.error e, sealer')) :
    sealer' = sealer ∨ sealer'.sequence = maxSequence := by
  cases call with
  | sendFrame frame =>
    rcases KtpCryptoSeal.sealFrames_cons_error h with h₁ | ⟨record, sealer₁, -, h₂⟩
    · exact Or.inl (KtpCryptoSeal.appendSealedFrame_of_error h₁ []).1
    · cases h₂
  | sendFrames frames =>
    rcases hc with hacc | ⟨frame, hmem, hrefused⟩
    · exact Or.inr (KtpCryptoSeal.sealFrames_error_of_accepted ht hacc h)
    · cases frames with
      | nil => cases hmem
      | cons frame' frames =>
        cases hmem
        rcases KtpCryptoSeal.sealFrames_cons_error h with h₁ | ⟨record, sealer₁, h₁, -⟩
        · exact Or.inl (KtpCryptoSeal.appendSealedFrame_of_error h₁ []).1
        · exact absurd (KtpCryptoSeal.sealFrame_ok h₁).2.1 hrefused

/-- An exhausted seal seals nothing. -/
theorem frames_eq_nil_of_exhausted {sealer sealer' : KtpCryptoSeal}
    (hq : sealer.sequence = maxSequence) {frames : List KtpFrame} {records : List (List UInt8)}
    (h : sealer.sealFrames aead frames = (.ok records, sealer')) : frames = [] := by
  cases frames with
  | nil => rfl
  | cons frame frames =>
    obtain ⟨record, sealer₁, records', h₁, -, -⟩ := KtpCryptoSeal.sealFrames_cons h
    exact absurd hq (KtpCryptoSeal.sealFrame_ok h₁).1

/-- The frames sent by clean calls are sealed one after the other, and their records are what is
written. -/
theorem sendAll_clean (ht : aead.Total) (st : KtpEncryptedStream) {start : KtpCryptoSeal}
    {calls : List SendCall} (hclean : ∀ call ∈ calls, call.Clean) {frames : List KtpFrame}
    {records : List (List UInt8)} {sealer : KtpCryptoSeal}
    (hs : start.sealFrames aead frames = (.ok records, sealer))
    (hseal : st.sealer = sealer ∨ st.sealer.sequence = maxSequence)
    (hw : st.written = records.flatten) :
    ∃ records' sealer', start.sealFrames aead (frames ++ (sendAll aead st calls).1) =
        (.ok records', sealer') ∧ (sendAll aead st calls).2.written = records'.flatten := by
  induction calls generalizing st frames records sealer with
  | nil =>
    refine ⟨records, sealer, ?_, hw⟩
    rw [sendAll, List.append_nil, hs]
  | cons call calls ih =>
    obtain ⟨hcall, hcalls⟩ := List.forall_mem_cons.mp hclean
    rw [sendAll]
    rcases call.run_cases aead st with ⟨hr, records₁, hs₁, hw₁⟩ | ⟨e, e', hr, hs₁, hw₁⟩
    · simp only [hr]
      rcases hseal with rfl | hq
      · rw [← List.append_assoc]
        exact ih _ hcalls (KtpCryptoSeal.sealFrames_append hs hs₁) (Or.inl rfl)
          (by rw [hw₁, hw, List.flatten_append])
      · -- only an empty batch succeeds on an exhausted seal
        have hnil := frames_eq_nil_of_exhausted hq hs₁
        rw [hnil, KtpCryptoSeal.sealFrames] at hs₁
        obtain ⟨hrec, hsealer⟩ := Prod.mk.inj hs₁
        cases hrec
        rw [hnil]
        exact ih _ hcalls hs (Or.inr (hsealer ▸ hq))
          (by rw [hw₁, hw, List.flatten_nil, List.append_nil])
    · simp only [hr]
      refine ih _ hcalls hs ?_ (hw₁.trans hw)
      rcases hcall.sealer ht hs₁ with heq | hq
      · rw [heq]; exact hseal
      · exact Or.inr hq

/-- Calls with accepted frames return `Ok`, while there are sequence numbers. -/
theorem allOk_of_accepted (ht : aead.Total) {st : KtpEncryptedStream} {calls : List SendCall}
    (hacc : ∀ call ∈ calls, ∀ frame ∈ call.frames, frame.Accepted)
    (hroom : st.sealer.sequence.toNat + (calls.flatMap SendCall.frames).length < 2 ^ 64) :
    AllOk aead st calls := by
  induction calls generalizing st with
  | nil => trivial
  | cons call calls ih =>
    obtain ⟨hcall, hcalls⟩ := List.forall_mem_cons.mp hacc
    rw [List.flatMap_cons, List.length_append] at hroom
    obtain ⟨records, sealer, hsealed, hsequence⟩ :=
      @KtpCryptoSeal.sealFrames_of_accepted aead st.sealer ht call.frames hcall (by omega)
    rcases call.run_cases aead st with ⟨hr, _, hs, -⟩ | ⟨_, _, -, hs, -⟩
    · rw [hsealed] at hs
      obtain ⟨-, rfl⟩ := Prod.mk.inj hs
      exact ⟨hr, ih hcalls (by omega)⟩
    · rw [hsealed] at hs
      cases hs

/-- The same for calls that all return `Ok`. -/
theorem sendAll_of_allOk {start : KtpCryptoSeal} {st : KtpEncryptedStream} {calls : List SendCall}
    (hok : AllOk aead st calls) {frames : List KtpFrame} {records : List (List UInt8)}
    (hs : start.sealFrames aead frames = (.ok records, st.sealer))
    (hw : st.written = records.flatten) :
    (sendAll aead st calls).1 = calls.flatMap SendCall.frames ∧
    ∃ records' sealer', start.sealFrames aead (frames ++ calls.flatMap SendCall.frames) =
        (.ok records', sealer') ∧ (sendAll aead st calls).2.written = records'.flatten := by
  induction calls generalizing st frames records with
  | nil =>
    refine ⟨rfl, records, st.sealer, ?_, hw⟩
    rw [List.flatMap_nil, List.append_nil, hs]
  | cons call calls ih =>
    rcases call.run_cases aead st with ⟨hr, records₁, hs₁, hw₁⟩ | ⟨e, e', hr, -⟩
    · obtain ⟨i₁, i₂⟩ := ih hok.2 (KtpCryptoSeal.sealFrames_append hs hs₁)
        (by rw [hw₁, hw, List.flatten_append])
      simp only [sendAll, hr, List.flatMap_cons, i₁, true_and]
      rw [← List.append_assoc]
      exact i₂
    · rw [hok.1] at hr
      cases hr

end Calls

/-- **Send atomicity for clean calls.** Over a stream whose writes succeed, if every batch is
accepted as a whole or refused at its first frame, a peer with the same key, the opposite direction
and limits large enough for the frames obtains, in every chunking, exactly the frames of the calls
that returned `Ok`, in order, and then the end of the stream. -/
theorem sent_eq_received {aead : Aead} (hc : aead.Correct) (ht : aead.Total) (key : KtpCryptoKey)
    (d d' : KtpCryptoDirection) (incoming : List ReadResult) (m₀ b₀ : ℕ) (calls : List SendCall)
    (hclean : ∀ call ∈ calls, call.Clean) (m b : ℕ)
    (hm : ∀ frame ∈ (sendAll aead (.fromIo incoming key d d' m₀ b₀) calls).1,
      frame.payload.length ≤ m)
    (hb : Fits b ((sendAll aead (.fromIo incoming key d d' m₀ b₀) calls).1.map
      fun frame => frame.payload.length + 64)) (chunks : List Chunk)
    (hchunks : chunkBytes chunks =
      (sendAll aead (.fromIo incoming key d d' m₀ b₀) calls).2.written) :
    Singly aead (.fromIo (reads chunks) key d' d m b)
      (sendAll aead (.fromIo incoming key d d' m₀ b₀) calls).1 .closed := by
  have hstart : (KtpCryptoSeal.new key d).sealFrames aead [] = (.ok [], .new key d) := rfl
  obtain ⟨records, sealer, hs, hw⟩ := sendAll_clean ht (.fromIo incoming key d d' m₀ b₀) hclean
    hstart (Or.inl rfl) rfl
  exact (delivers_iff_fits hc hs hm b d').mpr hb chunks (hchunks.trans hw)

/-- A ping with a session id is refused. -/
def refusedPing : KtpFrame := { KtpFrame.connection .ping [] with sessionId := 7 }

/-- A stream between two parties with one key, seen from the client and from the relay. -/
def clientStream : KtpEncryptedStream :=
  .fromIo [] ⟨Vector.replicate 32 0⟩ .clientToRelay .relayToClient 16 1024

def relayStream (incoming : List ReadResult) : KtpEncryptedStream :=
  .fromIo incoming ⟨Vector.replicate 32 0⟩ .relayToClient .clientToRelay 16 1024

/-- After a batch with a good and a refused ping, the next ping is sent successfully, but the peer
refuses its record for the sequence number. -/
theorem unclean_batch_breaks_stream :
    let ping := KtpFrame.connection .ping [7]
    let sent := sendAll clearAead clientStream [.sendFrames [ping, refusedPing], .sendFrame ping]
    sent.1 = [ping] ∧
      Singly clearAead (relayStream [.data ⟨cryptoHeaderBytes .clientToRelay 1 41 ++
        frameBytes ping ++ List.replicate 16 0, by decide, by decide⟩]) []
        (.crypto (.sequenceMismatch 0 1)) ∧
      sent.2.written =
        cryptoHeaderBytes .clientToRelay 1 41 ++ frameBytes ping ++ List.replicate 16 0 := by
  intro ping sent
  refine ⟨by decide +kernel, ?_, by decide +kernel⟩
  refine .fail (Prod.ext ?_ rfl)
  decide +kernel

/-- A refused batch and a sent ping: the peer receives the ping. -/
theorem sent_eq_received_ping :
    let ping := KtpFrame.connection .ping [7]
    Singly clearAead (relayStream (reads [⟨cryptoHeaderBytes .clientToRelay 0 41 ++
      frameBytes ping ++ List.replicate 16 0, by decide, by decide⟩])) [ping] .closed := by
  intro ping
  have hsent : (sendAll clearAead clientStream
      [.sendFrames [refusedPing, ping], .sendFrame ping]).1 = [ping] := by decide +kernel
  have hclean : ∀ call ∈ [SendCall.sendFrames [refusedPing, ping], .sendFrame ping], call.Clean :=
    List.forall_mem_cons.mpr ⟨Or.inr ⟨refusedPing, rfl, by decide⟩,
      List.forall_mem_singleton.mpr trivial⟩
  rw [← hsent]
  exact sent_eq_received clearAead_correct clearAead_total _ _ _ [] 16 1024 _ hclean 16 1024
    (by decide +kernel) (by decide +kernel) _ (by decide +kernel)

/-! ## The limits of the tunnel data transport -/

/-- The buffer limit `KtpEncryptedTcpTunnelDataTransport` passes to its streams; the payload limit
is `KTP_MAX_PAYLOAD_LEN`. -/
def tunnelDataMaxBufferLen : ℕ := 1024 * 1024

/-- **What is sent and what the configured receiver can receive.** When all calls returned `Ok`,
the receiver delivers all their frames in order, in every chunking, if and only if the records fit
its buffer of 1 MiB. -/
theorem configured_receiver_iff {aead : Aead} (hc : aead.Correct) (key : KtpCryptoKey)
    (d d' : KtpCryptoDirection) (incoming : List ReadResult) (m₀ b₀ : ℕ) (calls : List SendCall)
    (hok : AllOk aead (.fromIo incoming key d d' m₀ b₀) calls) :
    (∀ chunks, chunkBytes chunks =
        (sendAll aead (.fromIo incoming key d d' m₀ b₀) calls).2.written →
      Singly aead (.fromIo (reads chunks) key d' d ktpMaxPayloadLen tunnelDataMaxBufferLen)
        (calls.flatMap SendCall.frames) .closed) ↔
      Fits tunnelDataMaxBufferLen
        ((calls.flatMap SendCall.frames).map fun frame => frame.payload.length + 64) := by
  have hstart : (KtpCryptoSeal.new key d).sealFrames aead [] = (.ok [], .new key d) := rfl
  obtain ⟨-, records, sealer, hs, hw⟩ := sendAll_of_allOk hok hstart rfl
  rw [List.nil_append] at hs
  rw [hw]
  exact delivers_iff_fits hc hs (fun frame hmem => ((KtpCryptoSeal.sealFrames_ok hs).1 frame hmem).2)
    _ d'

/-- A data frame of zeros. -/
def zeroFrame (length : ℕ) : KtpFrame where
  frameType := .sessionData
  leg := .egress
  flags := 0
  sessionId := 1
  payload := List.replicate length 0

theorem zeroFrame_accepted {length : ℕ} (h : length ≤ ktpMaxPayloadLen) :
    (zeroFrame length).Accepted :=
  ⟨rfl, (List.length_replicate ..).trans_le h⟩

theorem length_zeroFrame (length : ℕ) : (zeroFrame length).payload.length = length :=
  List.length_replicate ..

/-- The longest payload whose record leaves room in the receiver's buffer for all that the longest
read can bring with its last byte. -/
def roomyPayloadLen : ℕ := tunnelDataMaxBufferLen - (ktpReadBufferLen - 1) - 64

/-- The longest payload whose record fits the receiver's buffer. -/
def fullPayloadLen : ℕ := tunnelDataMaxBufferLen - 64

def fullBuffers : List SendCall :=
  [.sendFrames [zeroFrame roomyPayloadLen, zeroFrame 1], .sendFrame (zeroFrame fullPayloadLen)]

theorem allOk_fullBuffers : AllOk clearAead clientStream fullBuffers := by
  refine allOk_of_accepted clearAead_total (List.forall_mem_cons.mpr
    ⟨List.forall_mem_cons.mpr ⟨?_, List.forall_mem_singleton.mpr ?_⟩,
      List.forall_mem_singleton.mpr (List.forall_mem_singleton.mpr ?_)⟩) (by decide)
  · exact zeroFrame_accepted (by decide)
  · exact zeroFrame_accepted (by decide)
  · exact zeroFrame_accepted (by decide)

/-- The frames fill the buffer of the receiver, and are received in every chunking. -/
theorem configured_receiver_iff_full :
    AllOk clearAead clientStream fullBuffers ∧
      ∀ chunks, chunkBytes chunks = (sendAll clearAead clientStream fullBuffers).2.written →
        Singly clearAead (.fromIo (reads chunks) ⟨Vector.replicate 32 0⟩ .relayToClient
          .clientToRelay ktpMaxPayloadLen tunnelDataMaxBufferLen)
          (fullBuffers.flatMap SendCall.frames) .closed := by
  have hreceived := configured_receiver_iff clearAead_correct ⟨Vector.replicate 32 0⟩ .clientToRelay
    .relayToClient [] 16 1024 fullBuffers allOk_fullBuffers
  rw [← clientStream] at hreceived
  refine ⟨allOk_fullBuffers, hreceived.mpr ?_⟩
  have hlengths : ((fullBuffers.flatMap SendCall.frames).map fun frame =>
      frame.payload.length + 64) = [roomyPayloadLen + 64, 65, fullPayloadLen + 64] := by
    simp only [fullBuffers, SendCall.frames, List.flatMap_cons, List.flatMap_nil, List.append_nil,
      List.cons_append, List.nil_append, List.map_cons, List.map_nil, length_zeroFrame]
  rw [hlengths]
  decide +kernel

/-- A frame with the largest payload the encoder accepts. -/
def largestFrame : KtpFrame := zeroFrame ktpMaxPayloadLen

theorem largestFrame_not_fits :
    ¬ Fits tunnelDataMaxBufferLen ([largestFrame].map fun frame => frame.payload.length + 64) := by
  have hlen : largestFrame.payload.length = 1024 * 1024 := List.length_replicate ..
  rw [List.map_singleton, hlen]
  decide

/-- The largest frame is sent, but not received in every chunking: its record is 64 bytes longer
than the receiver's buffer. -/
theorem largestFrame_not_received :
    let sent := sendAll clearAead clientStream [.sendFrame largestFrame]
    sent.1 = [largestFrame] ∧
      ∃ chunks, chunkBytes chunks = sent.2.written ∧
        ¬ Singly clearAead (.fromIo (reads chunks) ⟨Vector.replicate 32 0⟩ .relayToClient
          .clientToRelay ktpMaxPayloadLen tunnelDataMaxBufferLen) [largestFrame] .closed := by
  have haccepted : largestFrame.Accepted := zeroFrame_accepted le_rfl
  have hok : AllOk clearAead clientStream [.sendFrame largestFrame] :=
    allOk_of_accepted clearAead_total
      (List.forall_mem_singleton.mpr (List.forall_mem_singleton.mpr haccepted)) (by decide)
  have hstart : (KtpCryptoSeal.new ⟨Vector.replicate 32 0⟩ .clientToRelay).sealFrames clearAead [] =
      (.ok [], clientStream.sealer) := rfl
  obtain ⟨hsent, records, sealer, hs, hw⟩ := sendAll_of_allOk hok hstart rfl
  refine ⟨hsent, ?_⟩
  by_contra hall
  push Not at hall
  refine largestFrame_not_fits ((delivers_iff_fits clearAead_correct hs (m := ktpMaxPayloadLen)
    (List.forall_mem_singleton.mpr haccepted.2) _ .relayToClient).mp
      fun chunks hchunks => hall chunks (hchunks.trans hw.symm))

end KeliAgent
