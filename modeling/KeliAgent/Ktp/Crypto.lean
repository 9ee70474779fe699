import KeliAgent.Ktp.Frame

/-!
# Sealed records

The record layer of `ktp_transport.rs`. A record is a crypto header of 24 bytes (magic, version,
direction, sequence number, length, reserved) and the encrypted frame with its tag; the header is
the associated data of the encryption, direction and sequence number make up the nonce.

* `KtpCryptoSeal`, `KtpCryptoOpen`: the two ends of one direction. The cipher is a parameter.
* `appendSealedFrame_cases`, `openRecord_cases`: the ways a call can end.
* **`appendSealedFrame_error_iff`**: which failed seals leave the buffer as it was.
* **`nonce_injective`**: a nonce determines direction and sequence number.
* **`openRecord_sealFrame`**: with a correct cipher, the next record opens to its frame.
-/

namespace KeliAgent

open Wire

/-- `KTP_CRYPTO_MAGIC`, the bytes of `KTE1`. -/
def ktpCryptoMagic : List UInt8 := [0x4B, 0x54, 0x45, 0x31]

def ktpCryptoVersion : UInt8 := 1

def ktpCryptoHeaderLen : ℕ := 24

inductive KtpCryptoDirection where
  | clientToRelay | relayToClient
  deriving DecidableEq, Repr

def KtpCryptoDirection.id : KtpCryptoDirection → UInt8
  | .clientToRelay => 1
  | .relayToClient => 2

structure KtpCryptoKey where
  bytes : Vector UInt8 32
  deriving DecidableEq

/-- The cipher, ChaCha20-Poly1305 in the source. Arguments are key, nonce, associated data and
message. Encryption is in place and returns a tag of 16 bytes. -/
structure Aead where
  encryptInPlaceDetached : KtpCryptoKey → List UInt8 → List UInt8 → List UInt8 →
    Option (List UInt8 × List UInt8)
  decrypt : KtpCryptoKey → List UInt8 → List UInt8 → List UInt8 → Option (List UInt8)
  encrypt_length : ∀ {key nonce aad message ciphertext tag},
    encryptInPlaceDetached key nonce aad message = some (ciphertext, tag) →
      ciphertext.length = message.length ∧ tag.length = 16

/-- The cipher decrypts what it encrypted, under the same key, nonce and associated data. -/
def Aead.Correct (aead : Aead) : Prop :=
  ∀ {key nonce aad message ciphertext tag},
    aead.encryptInPlaceDetached key nonce aad message = some (ciphertext, tag) →
      aead.decrypt key nonce aad (ciphertext ++ tag) = some message

/-- The cipher encrypts every message within its size limit, `64 * u32::MAX` bytes. -/
def Aead.Total (aead : Aead) : Prop :=
  ∀ key nonce aad {message : List UInt8}, message.length ≤ 64 * (2 ^ 32 - 1) →
    (aead.encryptInPlaceDetached key nonce aad message).isSome

/-- A cipher that leaves the text readable, for runs on concrete inputs. -/
def clearAead : Aead where
  encryptInPlaceDetached _ _ _ message := some (message, List.replicate 16 0)
  decrypt _ _ _ ciphertext := some (ciphertext.take (ciphertext.length - 16))
  encrypt_length h := by cases h; exact ⟨rfl, rfl⟩

theorem clearAead_correct : clearAead.Correct := by
  intro key nonce aad message ciphertext tag h
  cases h
  simp only [clearAead, List.length_append, List.length_replicate, Nat.add_sub_cancel,
    List.take_left]

theorem clearAead_total : clearAead.Total := fun _ _ _ _ _ => rfl

inductive KtpCryptoError where
  | authFailed
  | malformedRecord (message : String)
  | bufferLimit (attempted limit : ℕ)
  | ktp (error : KtpError)
  | sequenceExhausted
  | sequenceMismatch (expected actual : UInt64)
  deriving DecidableEq, Repr

namespace KtpCryptoError

def code : KtpCryptoError → String
  | .authFailed => "auth_failed"
  | .malformedRecord _ => "malformed_record"
  | .bufferLimit _ _ => "buffer_limit"
  | .ktp _ => "ktp_error"
  | .sequenceExhausted => "sequence_exhausted"
  | .sequenceMismatch _ _ => "sequence_mismatch"

def message : KtpCryptoError → String
  | .authFailed => "KTP crypto record authentication failed"
  | .malformedRecord message => message
  | .bufferLimit attempted limit =>
    "KTP crypto buffer limit exceeded: attempted " ++ toString attempted ++ ", limit " ++
      toString limit
  | .ktp error => error.display
  | .sequenceExhausted => "KTP crypto sequence exhausted before nonce reuse"
  | .sequenceMismatch expected actual =>
    "expected crypto sequence " ++ toString expected.toNat ++ ", got " ++ toString actual.toNat

def display (error : KtpCryptoError) : String := error.code ++ ": " ++ error.message

end KtpCryptoError

/-! ## Header and nonce -/

structure CryptoHeader where
  sequence : UInt64
  ciphertextLen : ℕ
  deriving DecidableEq, Repr

def cryptoHeaderBytes (direction : KtpCryptoDirection) (sequence : UInt64) (ciphertextLen : ℕ) :
    List UInt8 :=
  ktpCryptoMagic ++ [ktpCryptoVersion, direction.id] ++ toBe 8 sequence.toNat ++
    toBe 4 ciphertextLen ++ List.replicate 6 0

def parseCryptoHeader (record : List UInt8) (expectedDirection : KtpCryptoDirection) :
    Except KtpCryptoError CryptoHeader :=
  if record.length < ktpCryptoHeaderLen then .error (.malformedRecord "truncated crypto header")
  else if slice record 0 4 ≠ ktpCryptoMagic then .error (.malformedRecord "wrong crypto magic")
  else if record.getD 4 0 ≠ ktpCryptoVersion then
    .error (.malformedRecord "unsupported crypto version")
  else if record.getD 5 0 ≠ expectedDirection.id then
    .error (.malformedRecord "wrong crypto direction")
  else if (slice record 18 24).any (· ≠ 0) then
    .error (.malformedRecord "non-zero crypto reserved bytes")
  else .ok
    { sequence := UInt64.ofNat (ofBe (slice record 6 14)),
      ciphertextLen := ofBe (slice record 14 18) }

def nonce (direction : KtpCryptoDirection) (sequence : UInt64) : List UInt8 :=
  [direction.id, 0, 0, 0] ++ toBe 8 sequence.toNat

theorem length_cryptoHeaderBytes (d : KtpCryptoDirection) (q : UInt64) (n : ℕ) :
    (cryptoHeaderBytes d q n).length = ktpCryptoHeaderLen := by
  simp only [cryptoHeaderBytes, ktpCryptoMagic, ktpCryptoHeaderLen, List.length_append,
    List.length_cons, List.length_nil, length_toBe, List.length_replicate]

theorem KtpCryptoDirection.id_injective : Function.Injective KtpCryptoDirection.id := by
  intro d d' h
  cases d <;> cases d' <;> first | rfl | cases h

/-- **A nonce determines direction and sequence number.** -/
theorem nonce_injective {d d' : KtpCryptoDirection} {q q' : UInt64} (h : nonce d q = nonce d' q') :
    d = d' ∧ q = q' := by
  obtain ⟨hd, hq⟩ := List.append_inj h rfl
  have hq' := congrArg (fun bs => UInt64.ofNat (ofBe bs)) hq
  simp only [u64_ofBe_toBe] at hq'
  exact ⟨KtpCryptoDirection.id_injective (List.cons.inj hd).1, hq'⟩

theorem parseCryptoHeader_append {bs : List UInt8} (h : ktpCryptoHeaderLen ≤ bs.length)
    (cs : List UInt8) (d : KtpCryptoDirection) :
    parseCryptoHeader (bs ++ cs) d = parseCryptoHeader bs d := by
  have hl : ¬ (bs ++ cs).length < ktpCryptoHeaderLen := by rw [List.length_append]; omega
  have h24 : 24 ≤ bs.length := h
  unfold parseCryptoHeader
  rw [if_neg hl, if_neg (Nat.not_lt.mpr h)]
  simp only [slice_append bs cs (show 4 ≤ bs.length by omega),
    slice_append bs cs (show 14 ≤ bs.length by omega),
    slice_append bs cs (show 18 ≤ bs.length by omega), slice_append bs cs h24,
    getD_append_left bs cs _ (show 4 < bs.length by omega),
    getD_append_left bs cs _ (show 5 < bs.length by omega)]

/-- The header a seal writes, as the other end of the same direction reads it. -/
theorem parseCryptoHeader_cryptoHeaderBytes (d : KtpCryptoDirection) (q : UInt64) {n : ℕ}
    (hn : n < 2 ^ 32) (cs : List UInt8) :
    parseCryptoHeader (cryptoHeaderBytes d q n ++ cs) d = .ok ⟨q, n⟩ := by
  have hl : ¬ (cryptoHeaderBytes d q n ++ cs).length < ktpCryptoHeaderLen := by
    rw [List.length_append, length_cryptoHeaderBytes]; omega
  have h0 : slice (cryptoHeaderBytes d q n ++ cs) 0 4 = ktpCryptoMagic := rfl
  have h4 : (cryptoHeaderBytes d q n ++ cs).getD 4 0 = ktpCryptoVersion := rfl
  have h5 : (cryptoHeaderBytes d q n ++ cs).getD 5 0 = d.id := rfl
  have h18 : slice (cryptoHeaderBytes d q n ++ cs) 18 24 = List.replicate 6 0 := rfl
  have h6 : slice (cryptoHeaderBytes d q n ++ cs) 6 14 = toBe 8 q.toNat := rfl
  have h14 : slice (cryptoHeaderBytes d q n ++ cs) 14 18 = toBe 4 n := rfl
  unfold parseCryptoHeader
  rw [if_neg hl, if_neg (not_not.mpr h0), if_neg (not_not.mpr h4), if_neg (not_not.mpr h5), h18,
    if_neg (by decide), h6, h14, u64_ofBe_toBe, ofBe_toBe, Nat.mod_eq_of_lt (by omega)]

/-! ## Sealing -/

structure KtpCryptoSeal where
  key : KtpCryptoKey
  direction : KtpCryptoDirection
  sequence : UInt64
  deriving DecidableEq

/-- `u64::MAX`, the sequence number that is never used. -/
def maxSequence : UInt64 := 0xFFFFFFFFFFFFFFFF

theorem toNat_add_one_of_ne_max {q : UInt64} (h : q ≠ maxSequence) :
    (q + 1).toNat = q.toNat + 1 := by
  have hlt : q.toNat ≠ 2 ^ 64 - 1 := fun he => h (UInt64.toNat_inj.mp he)
  have := q.toNat_lt
  rw [UInt64.toNat_add, show (1 : UInt64).toNat = 1 from rfl]
  omega

namespace KtpCryptoSeal

def new (key : KtpCryptoKey) (direction : KtpCryptoDirection) : KtpCryptoSeal where
  key := key
  direction := direction
  sequence := 0

/-- `append_sealed_frame`: the result, the seal and the record buffer after the call. The buffer
has grown by an empty header when the frame is refused, and holds the plain frame when the cipher
fails; the sequence number moves only on success. -/
def appendSealedFrame (aead : Aead) (self : KtpCryptoSeal) (frame : KtpFrame)
    (record : List UInt8) : Except KtpCryptoError Unit × KtpCryptoSeal × List UInt8 :=
  if self.sequence = maxSequence then (.error .sequenceExhausted, self, record)
  else
    let payloadStart := record.length + ktpCryptoHeaderLen
    match appendFrameBytes frame (record ++ List.replicate ktpCryptoHeaderLen 0) with
    | (.error error, resized) => (.error (.ktp error), self, resized)
    | (.ok (), resized) =>
      let ciphertextLen := resized.length - payloadStart + 16
      let header := cryptoHeaderBytes self.direction self.sequence ciphertextLen
      let plaintext := resized.drop payloadStart
      match aead.encryptInPlaceDetached self.key (nonce self.direction self.sequence) header
          plaintext with
      | none => (.error .authFailed, self, record ++ header ++ plaintext)
      | some (ciphertext, tag) =>
        (.ok (), { self with sequence := self.sequence + 1 }, record ++ header ++ ciphertext ++ tag)

def sealFrameInto (aead : Aead) (self : KtpCryptoSeal) (frame : KtpFrame) (_record : List UInt8) :
    Except KtpCryptoError Unit × KtpCryptoSeal × List UInt8 :=
  self.appendSealedFrame aead frame []

def sealFrame (aead : Aead) (self : KtpCryptoSeal) (frame : KtpFrame) :
    Except KtpCryptoError (List UInt8) × KtpCryptoSeal :=
  match self.sealFrameInto aead frame [] with
  | (.error error, self', _) => (.error error, self')
  | (.ok (), self', record) => (.ok record, self')

/-- The header of the record of a frame. -/
def header (self : KtpCryptoSeal) (frame : KtpFrame) : List UInt8 :=
  cryptoHeaderBytes self.direction self.sequence (ktpHeaderLen + frame.payload.length + 16)

/-- The call of the cipher for a frame. -/
def encrypted (aead : Aead) (self : KtpCryptoSeal) (frame : KtpFrame) :
    Option (List UInt8 × List UInt8) :=
  aead.encryptInPlaceDetached self.key (nonce self.direction self.sequence) (self.header frame)
    (frameBytes frame)

variable {aead : Aead} {self : KtpCryptoSeal} {frame : KtpFrame}

/-- Sealing an accepted frame is one call of the cipher. -/
theorem appendSealedFrame_of_accepted (hq : self.sequence ≠ maxSequence) (hf : frame.Accepted)
    (record : List UInt8) : self.appendSealedFrame aead frame record =
      match self.encrypted aead frame with
      | none => (.error .authFailed, self, record ++ self.header frame ++ frameBytes frame)
      | some (ciphertext, tag) => (.ok (), { self with sequence := self.sequence + 1 },
          record ++ self.header frame ++ ciphertext ++ tag) := by
  have hlen : (record ++ List.replicate ktpCryptoHeaderLen (0 : UInt8)).length =
      record.length + ktpCryptoHeaderLen := by
    rw [List.length_append, List.length_replicate]
  have hdrop : (record ++ List.replicate ktpCryptoHeaderLen 0 ++ frameBytes frame).drop
      (record.length + ktpCryptoHeaderLen) = frameBytes frame := by
    rw [← hlen, List.drop_left]
  have hsub : (record ++ List.replicate ktpCryptoHeaderLen 0 ++ frameBytes frame).length -
      (record.length + ktpCryptoHeaderLen) = ktpHeaderLen + frame.payload.length := by
    rw [List.length_append, hlen, Nat.add_sub_cancel_left, length_frameBytes]
  unfold appendSealedFrame
  rw [if_neg hq, appendFrameBytes_of_accepted hf]
  simp only [hdrop, hsub]
  rfl

/-- A refused frame leaves the seal as it was. -/
theorem appendSealedFrame_of_not_accepted (hq : self.sequence ≠ maxSequence)
    (hf : ¬ frame.Accepted) : ∃ error, ∀ record,
      self.appendSealedFrame aead frame record =
        (.error (.ktp error), self, record ++ List.replicate ktpCryptoHeaderLen 0) := by
  obtain ⟨error, he⟩ := appendFrameBytes_of_not_accepted hf
  refine ⟨error, fun record => ?_⟩
  unfold appendSealedFrame
  rw [if_neg hq, he]

theorem appendSealedFrame_exhausted (hq : self.sequence = maxSequence) (record : List UInt8) :
    self.appendSealedFrame aead frame record = (.error .sequenceExhausted, self, record) := by
  rw [appendSealedFrame, if_pos hq]

/-- **The two ways a seal ends**, whatever the buffer: the seal is unchanged, or the frame is
accepted, one call of the cipher made the record, and the sequence number has moved. -/
theorem appendSealedFrame_cases (aead : Aead) (self : KtpCryptoSeal) (frame : KtpFrame) :
    (∃ e, ∀ record, ∃ rest, self.appendSealedFrame aead frame record = (.error e, self, rest)) ∨
    self.sequence ≠ maxSequence ∧ frame.Accepted ∧
      ∃ ciphertext tag, self.encrypted aead frame = some (ciphertext, tag) ∧
        ∀ record, self.appendSealedFrame aead frame record =
          (.ok (), { self with sequence := self.sequence + 1 },
            record ++ (self.header frame ++ (ciphertext ++ tag))) := by
  by_cases hq : self.sequence = maxSequence
  · exact Or.inl ⟨_, fun record => ⟨_, appendSealedFrame_exhausted hq record⟩⟩
  by_cases hf : frame.Accepted
  · cases he : self.encrypted aead frame with
    | none =>
      refine Or.inl ⟨.authFailed, fun record => ?_⟩
      rw [appendSealedFrame_of_accepted hq hf, he]
      exact ⟨_, rfl⟩
    | some ct =>
      refine Or.inr ⟨hq, hf, ct.1, ct.2, rfl, fun record => ?_⟩
      rw [appendSealedFrame_of_accepted hq hf, he]
      simp only [List.append_assoc]
  · obtain ⟨error, he⟩ := appendSealedFrame_of_not_accepted hq hf
    exact Or.inl ⟨_, fun record => ⟨_, he record⟩⟩

/-- Seal frames one after the other, up to the first failure. -/
def sealFrames (aead : Aead) : KtpCryptoSeal → List KtpFrame →
    Except KtpCryptoError (List (List UInt8)) × KtpCryptoSeal
  | self, [] => (.ok [], self)
  | self, frame :: frames => match self.sealFrame aead frame with
    | (.error error, self') => (.error error, self')
    | (.ok record, self') => match sealFrames aead self' frames with
      | (.error error, self'') => (.error error, self'')
      | (.ok records, self'') => (.ok (record :: records), self'')

/-- **Appending a record is appending what `seal_frame` returns.** -/
theorem appendSealedFrame_of_ok {bytes : List UInt8} {self' : KtpCryptoSeal}
    (h : self.sealFrame aead frame = (.ok bytes, self')) (record : List UInt8) :
    self.appendSealedFrame aead frame record = (.ok (), self', record ++ bytes) := by
  unfold sealFrame sealFrameInto at h
  rcases appendSealedFrame_cases aead self frame with ⟨e, he⟩ | ⟨_, _, c, t, _, ho⟩
  · obtain ⟨rest, hr⟩ := he []
    rw [hr] at h
    cases h
  · rw [ho] at h
    cases h
    exact ho record

/-- A frame that `seal_frame` refuses is not appended either, and the seal is as before. -/
theorem appendSealedFrame_of_error {e : KtpCryptoError} {self' : KtpCryptoSeal}
    (h : self.sealFrame aead frame = (.error e, self')) (record : List UInt8) :
    self' = self ∧ ∃ rest, self.appendSealedFrame aead frame record = (.error e, self, rest) := by
  unfold sealFrame sealFrameInto at h
  rcases appendSealedFrame_cases aead self frame with ⟨e, he⟩ | ⟨_, _, c, t, _, ho⟩
  · obtain ⟨rest, hr⟩ := he []
    rw [hr] at h
    cases h
    exact ⟨rfl, he record⟩
  · rw [ho] at h
    cases h

/-- What a successful `seal_frame` returns. -/
theorem sealFrame_ok {record : List UInt8} {self' : KtpCryptoSeal}
    (h : self.sealFrame aead frame = (.ok record, self')) :
    self.sequence ≠ maxSequence ∧ frame.Accepted ∧
      self' = { self with sequence := self.sequence + 1 } ∧
      ∃ ciphertext tag, self.encrypted aead frame = some (ciphertext, tag) ∧
        record = self.header frame ++ (ciphertext ++ tag) := by
  unfold sealFrame sealFrameInto at h
  rcases appendSealedFrame_cases aead self frame with ⟨e, he⟩ | ⟨hq, hf, c, t, hct, ho⟩
  · obtain ⟨rest, hr⟩ := he []
    rw [hr] at h
    cases h
  · rw [ho] at h
    cases h
    exact ⟨hq, hf, rfl, c, t, hct, rfl⟩

/-- The length of a record. -/
theorem length_of_sealFrame {record : List UInt8} {self' : KtpCryptoSeal}
    (h : self.sealFrame aead frame = (.ok record, self')) :
    record.length = frame.payload.length + 64 := by
  obtain ⟨-, -, -, c, t, hct, rfl⟩ := sealFrame_ok h
  obtain ⟨hc, ht⟩ := aead.encrypt_length hct
  simp only [List.length_append, header, length_cryptoHeaderBytes, hc, ht, length_frameBytes,
    ktpCryptoHeaderLen, ktpHeaderLen]
  omega

/-- With a total cipher, every accepted frame is sealed before the sequence is exhausted. -/
theorem sealFrame_of_accepted (ht : aead.Total) (hq : self.sequence ≠ maxSequence)
    (hf : frame.Accepted) : ∃ record, self.sealFrame aead frame =
      (.ok record, { self with sequence := self.sequence + 1 }) := by
  have hlen : (frameBytes frame).length ≤ 64 * (2 ^ 32 - 1) := by
    have := hf.2
    rw [length_frameBytes]
    unfold ktpMaxPayloadLen at this
    unfold ktpHeaderLen
    omega
  obtain ⟨ct, hct⟩ := Option.isSome_iff_exists.mp
    (ht self.key (nonce self.direction self.sequence) (self.header frame) hlen)
  unfold sealFrame sealFrameInto
  rw [appendSealedFrame_of_accepted hq hf, show self.encrypted aead frame = some ct from hct]
  exact ⟨_, rfl⟩

/-- **Which failed seals change nothing.** A seal out of sequence numbers fails before the buffer
is touched. Otherwise the empty header is in the buffer when the frame is checked, and stays there
when the frame is refused. -/
theorem appendSealedFrame_error_iff (ht : aead.Total) (self : KtpCryptoSeal) (frame : KtpFrame)
    (record : List UInt8) :
    (∀ error self' record',
      self.appendSealedFrame aead frame record = (.error error, self', record') →
        self'.sequence = self.sequence ∧ record' = record) ↔
      self.sequence = maxSequence ∨ frame.Accepted := by
  constructor
  · intro h
    by_contra hc
    obtain ⟨hq, hf⟩ := not_or.mp hc
    obtain ⟨error, he⟩ : ∃ error, ∀ record, self.appendSealedFrame aead frame record =
        (.error (.ktp error), self, record ++ List.replicate ktpCryptoHeaderLen 0) :=
      appendSealedFrame_of_not_accepted hq hf
    obtain ⟨-, hgrown⟩ := h _ _ _ (he record)
    simp [ktpCryptoHeaderLen] at hgrown
  · intro h error self' record' he
    by_cases hq : self.sequence = maxSequence
    · rw [appendSealedFrame_exhausted hq] at he
      cases he
      exact ⟨rfl, rfl⟩
    · obtain ⟨bytes, hok⟩ := sealFrame_of_accepted ht hq (h.resolve_left hq)
      rw [appendSealedFrame_of_ok hok] at he
      cases he

/-- A seal that has used its last sequence number. -/
def exhausted : KtpCryptoSeal :=
  { new ⟨Vector.replicate 32 0⟩ .clientToRelay with sequence := maxSequence }

theorem appendSealedFrame_error_iff_exhausted :
    clearAead.Total ∧
      (exhausted.appendSealedFrame clearAead (.connection .sessionData []) [1, 2]).1 =
        .error .sequenceExhausted ∧
      ∀ error self' record',
        exhausted.appendSealedFrame clearAead (.connection .sessionData []) [1, 2] =
          (.error error, self', record') →
        self'.sequence = maxSequence ∧ record' = [1, 2] :=
  ⟨clearAead_total, rfl,
    (appendSealedFrame_error_iff clearAead_total exhausted _ _).mpr (Or.inl rfl)⟩

/-- A data frame without a session is refused, and 24 zero bytes are left in the buffer. -/
theorem refused_frame_grows_record :
    let sealer := new ⟨Vector.replicate 32 0⟩ .clientToRelay
    sealer.appendSealedFrame clearAead (.connection .sessionData []) [1, 2] =
      (.error (.ktp (.invalidLeg 0)), sealer, [1, 2] ++ List.replicate 24 0) := rfl

theorem sealFrames_cons {frames : List KtpFrame} {records : List (List UInt8)}
    {sealer : KtpCryptoSeal}
    (h : self.sealFrames aead (frame :: frames) = (.ok records, sealer)) :
    ∃ record self' records', self.sealFrame aead frame = (.ok record, self') ∧
      self'.sealFrames aead frames = (.ok records', sealer) ∧ records = record :: records' := by
  rw [sealFrames] at h
  rcases h₁ : self.sealFrame aead frame with ⟨_ | record, self'⟩
  · rw [h₁] at h; cases h
  rcases h₂ : self'.sealFrames aead frames with ⟨_ | records', sealer'⟩
  · simp only [h₁, h₂] at h; cases h
  simp only [h₁, h₂] at h
  cases h
  exact ⟨record, self', records', rfl, h₂, rfl⟩

theorem sealFrames_cons_error {frames : List KtpFrame} {e : KtpCryptoError}
    {sealer : KtpCryptoSeal} (h : self.sealFrames aead (frame :: frames) = (.error e, sealer)) :
    self.sealFrame aead frame = (.error e, sealer) ∨
    ∃ record self', self.sealFrame aead frame = (.ok record, self') ∧
      self'.sealFrames aead frames = (.error e, sealer) := by
  rw [sealFrames] at h
  rcases h₁ : self.sealFrame aead frame with ⟨e' | record, self'⟩
  · rw [h₁] at h
    cases h
    exact Or.inl rfl
  rcases h₂ : self'.sealFrames aead frames with ⟨e' | records', sealer'⟩
  · simp only [h₁, h₂] at h
    cases h
    exact Or.inr ⟨record, self', rfl, h₂⟩
  · simp only [h₁, h₂] at h
    cases h

theorem sealFrames_append {frames frames' : List KtpFrame} {records records' : List (List UInt8)}
    {sealer sealer' : KtpCryptoSeal} (h : self.sealFrames aead frames = (.ok records, sealer))
    (h' : sealer.sealFrames aead frames' = (.ok records', sealer')) :
    self.sealFrames aead (frames ++ frames') = (.ok (records ++ records'), sealer') := by
  induction frames generalizing self records with
  | nil => cases h; exact h'
  | cons frame frames ih =>
    obtain ⟨record, self', records₁, h₁, h₂, rfl⟩ := sealFrames_cons h
    rw [List.cons_append, sealFrames, h₁]
    simp only [ih h₂, List.cons_append]

/-- With a total cipher, accepted frames are all sealed, or the sequence is exhausted. -/
theorem sealFrames_error_of_accepted (ht : aead.Total) {frames : List KtpFrame}
    (hacc : ∀ frame ∈ frames, frame.Accepted) {e : KtpCryptoError} {sealer : KtpCryptoSeal}
    (h : self.sealFrames aead frames = (.error e, sealer)) : sealer.sequence = maxSequence := by
  induction frames generalizing self with
  | nil => cases h
  | cons frame frames ih =>
    obtain ⟨hf, hfs⟩ := List.forall_mem_cons.mp hacc
    rcases sealFrames_cons_error h with h₁ | ⟨record, self', -, h₂⟩
    · obtain ⟨rfl, -⟩ := appendSealedFrame_of_error h₁ []
      by_contra hq
      obtain ⟨record, hok⟩ := sealFrame_of_accepted ht hq hf
      rw [hok] at h₁
      cases h₁
    · exact ih hfs h₂

/-- Accepted frames are all sealed, while there are sequence numbers. -/
theorem sealFrames_of_accepted (ht : aead.Total) {frames : List KtpFrame}
    (hacc : ∀ frame ∈ frames, frame.Accepted)
    (hroom : self.sequence.toNat + frames.length < 2 ^ 64) :
    ∃ records sealer, self.sealFrames aead frames = (.ok records, sealer) ∧
      sealer.sequence.toNat = self.sequence.toNat + frames.length := by
  induction frames generalizing self with
  | nil => exact ⟨[], self, rfl, rfl⟩
  | cons frame frames ih =>
    obtain ⟨hf, hfs⟩ := List.forall_mem_cons.mp hacc
    rw [List.length_cons] at hroom
    have hq : self.sequence ≠ maxSequence := by
      rintro hq
      rw [hq, show maxSequence.toNat = 2 ^ 64 - 1 from rfl] at hroom
      omega
    have hnext := toNat_add_one_of_ne_max hq
    obtain ⟨record, hrecord⟩ := sealFrame_of_accepted ht hq hf
    obtain ⟨records, sealer, hrecords, hsequence⟩ :=
      @ih { self with sequence := self.sequence + 1 } hfs (by
        rw [hnext]
        omega)
    refine ⟨record :: records, sealer, ?_, ?_⟩
    · rw [sealFrames, hrecord]
      simp only [hrecords]
    · rw [hsequence, hnext, List.length_cons]
      omega

/-- What is sealed was accepted, and the lengths of the records are known. -/
theorem sealFrames_ok {frames : List KtpFrame} {records : List (List UInt8)}
    {sealer : KtpCryptoSeal} (h : self.sealFrames aead frames = (.ok records, sealer)) :
    (∀ frame ∈ frames, frame.Accepted) ∧
      records.map List.length = frames.map fun frame => frame.payload.length + 64 := by
  induction frames generalizing self records with
  | nil => cases h; exact ⟨List.forall_mem_nil _, rfl⟩
  | cons frame frames ih =>
    obtain ⟨record, self', records', h₁, h₂, rfl⟩ := sealFrames_cons h
    obtain ⟨i₁, i₂⟩ := ih h₂
    refine ⟨List.forall_mem_cons.mpr ⟨(sealFrame_ok h₁).2.1, i₁⟩, ?_⟩
    rw [List.map_cons, List.map_cons, i₂, length_of_sealFrame h₁]

end KtpCryptoSeal

/-! ## Opening -/

structure KtpCryptoOpen where
  key : KtpCryptoKey
  direction : KtpCryptoDirection
  maxPayloadLen : ℕ
  nextSequence : UInt64
  deriving DecidableEq

namespace KtpCryptoOpen

def new (key : KtpCryptoKey) (direction : KtpCryptoDirection) (maxPayloadLen : ℕ) :
    KtpCryptoOpen where
  key := key
  direction := direction
  maxPayloadLen := min maxPayloadLen ktpMaxPayloadLen
  nextSequence := 0

def openRecord (aead : Aead) (self : KtpCryptoOpen) (record : List UInt8) :
    Except KtpCryptoError KtpFrame × KtpCryptoOpen :=
  if self.nextSequence = maxSequence then (.error .sequenceExhausted, self)
  else match parseCryptoHeader record self.direction with
  | .error error => (.error error, self)
  | .ok header =>
    if header.sequence ≠ self.nextSequence then
      (.error (.sequenceMismatch self.nextSequence header.sequence), self)
    else
      let frameLen := ktpCryptoHeaderLen + header.ciphertextLen
      if record.length < frameLen then
        (.error (.malformedRecord "truncated crypto record"), self)
      else match aead.decrypt self.key (nonce self.direction header.sequence)
          (record.take ktpCryptoHeaderLen) (slice record ktpCryptoHeaderLen frameLen) with
      | none => (.error .authFailed, self)
      | some plaintext => match decodeFrame plaintext self.maxPayloadLen with
        | .error error => (.error (.ktp error), self)
        | .ok frame => (.ok frame, { self with nextSequence := self.nextSequence + 1 })

variable {aead : Aead} {self : KtpCryptoOpen}

/-- The two ways `openRecord` ends: the state is unchanged, or the record was authentic under the
expected sequence number, which then moves. -/
theorem openRecord_cases (aead : Aead) (self : KtpCryptoOpen) (record : List UInt8) :
    (∃ e, self.openRecord aead record = (.error e, self)) ∨
    ∃ frame aad ciphertext plaintext, self.nextSequence ≠ maxSequence ∧
      aead.decrypt self.key (nonce self.direction self.nextSequence) aad ciphertext =
        some plaintext ∧
      decodeFrame plaintext self.maxPayloadLen = .ok frame ∧
      self.openRecord aead record =
        (.ok frame, { self with nextSequence := self.nextSequence + 1 }) := by
  unfold openRecord
  split_ifs with hq
  · exact Or.inl ⟨_, rfl⟩
  cases hp : parseCryptoHeader record self.direction with
  | error e => exact Or.inl ⟨_, rfl⟩
  | ok hd =>
    simp only
    split_ifs with hs hl
    · exact Or.inl ⟨_, rfl⟩
    · exact Or.inl ⟨_, rfl⟩
    rw [not_not] at hs
    rw [hs]
    cases hd' : aead.decrypt self.key (nonce self.direction self.nextSequence)
        (record.take ktpCryptoHeaderLen)
        (slice record ktpCryptoHeaderLen (ktpCryptoHeaderLen + hd.ciphertextLen)) with
    | none => exact Or.inl ⟨_, rfl⟩
    | some plaintext =>
      simp only
      cases hf : decodeFrame plaintext self.maxPayloadLen with
      | error e => exact Or.inl ⟨_, rfl⟩
      | ok frame => exact Or.inr ⟨frame, _, _, plaintext, hq, hd', hf, rfl⟩

/-- **A failed open leaves the state as it was.** -/
theorem openRecord_error {record : List UInt8} {e : KtpCryptoError}
    (h : (self.openRecord aead record).1 = .error e) : (self.openRecord aead record).2 = self := by
  rcases openRecord_cases aead self record with ⟨e', he⟩ | ⟨_, _, _, _, _, _, _, ho⟩
  · rw [he]
  · rw [ho] at h; cases h

/-- An open that expects the next record of a seal. -/
structure Follows (opener : KtpCryptoOpen) (sealer : KtpCryptoSeal) : Prop where
  key : opener.key = sealer.key
  direction : opener.direction = sealer.direction
  sequence : opener.nextSequence = sealer.sequence

/-- **With a correct cipher the next record opens to its frame.** -/
theorem openRecord_sealFrame {sealer sealer' : KtpCryptoSeal} {frame : KtpFrame}
    {record : List UInt8} (hc : aead.Correct)
    (hs : sealer.sealFrame aead frame = (.ok record, sealer')) (hf : self.Follows sealer)
    (hm : frame.payload.length ≤ self.maxPayloadLen) :
    self.openRecord aead record =
      (.ok frame, { self with nextSequence := self.nextSequence + 1 }) := by
  have hlen := KtpCryptoSeal.length_of_sealFrame hs
  obtain ⟨hq, hacc, -, c, t, hct, rfl⟩ := KtpCryptoSeal.sealFrame_ok hs
  have hmax := hacc.2
  unfold ktpMaxPayloadLen at hmax
  have hparse : parseCryptoHeader (sealer.header frame ++ (c ++ t)) self.direction =
      .ok ⟨self.nextSequence, ktpHeaderLen + frame.payload.length + 16⟩ := by
    rw [hf.direction, hf.sequence]
    exact parseCryptoHeader_cryptoHeaderBytes _ _ (by unfold ktpHeaderLen; omega) _
  have hhead : (sealer.header frame).length = ktpCryptoHeaderLen := length_cryptoHeaderBytes _ _ _
  have htake : (sealer.header frame ++ (c ++ t)).take ktpCryptoHeaderLen = sealer.header frame := by
    rw [← hhead, List.take_left]
  have hfull : ktpCryptoHeaderLen + (ktpHeaderLen + frame.payload.length + 16) =
      (sealer.header frame ++ (c ++ t)).length := by
    rw [hlen]; unfold ktpCryptoHeaderLen ktpHeaderLen; omega
  have hslice : slice (sealer.header frame ++ (c ++ t)) ktpCryptoHeaderLen
      (sealer.header frame ++ (c ++ t)).length = c ++ t := by
    rw [slice, ← hhead, List.drop_left, List.length_append, Nat.add_sub_cancel_left,
      List.take_length]
  have hdec : decodeFrame (frameBytes frame) self.maxPayloadLen = .ok frame := by
    rw [← List.append_nil (frameBytes frame), decodeFrame_frameBytes [] hacc hm]
  unfold openRecord
  rw [if_neg (by rw [hf.sequence]; exact hq), hparse]
  have hdecrypt : aead.decrypt self.key (nonce self.direction self.nextSequence)
      (sealer.header frame) (c ++ t) = some (frameBytes frame) := by
    rw [hf.key, hf.direction, hf.sequence]
    exact hc hct
  simp only [ne_eq, not_true_eq_false, if_false, hfull, hslice, htake, lt_irrefl, hdecrypt, hdec]

end KtpCryptoOpen

end KeliAgent
