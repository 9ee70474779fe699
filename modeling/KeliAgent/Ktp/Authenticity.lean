import KeliAgent.Ktp.Crypto

/-!
# Authenticity of the record layer

Two seals of the two directions share a key, and an attacker feeds byte strings to an open of
direction `d`. The cipher is ideal: it may depend on all encryptions made so far, and decrypts
only what was encrypted.

* `Encryption`, `Encryption.ofSeal_answered`: the calls of the cipher, read off the sealed bytes.
* `Channel.step`: one call, a seal of either direction or an open of attacker bytes.
* `Channel.Inv`: log, counters and the frames sealed and accepted so far; `Inv.sealFrame`,
  `Inv.openRecord`.
* **`accepted_isPrefix_sealed`**: the accepted frames are a prefix of the frames sealed in
  direction `d`, and no nonce is used twice.
-/

namespace KeliAgent

open Wire

/-- One successful call of the cipher's encryption; the tag is part of the ciphertext. -/
structure Encryption where
  key : KtpCryptoKey
  nonce : List UInt8
  aad : List UInt8
  ciphertext : List UInt8
  plaintext : List UInt8
  deriving DecidableEq

/-- Decryption succeeds only on the output of an earlier encryption, and returns its plaintext. -/
def Ideal (cipher : List Encryption → Aead) : Prop :=
  ∀ log key nonce aad ciphertext plaintext,
    (cipher log).decrypt key nonce aad ciphertext = some plaintext →
      ⟨key, nonce, aad, ciphertext, plaintext⟩ ∈ log

/-- The encryption behind a successful seal, read off the bytes it appended to the buffer. -/
def Encryption.ofSeal (sealer : KtpCryptoSeal) (frame : KtpFrame) (before after : List UInt8) :
    Encryption where
  key := sealer.key
  nonce := KeliAgent.nonce sealer.direction sealer.sequence
  aad := slice after before.length (before.length + ktpCryptoHeaderLen)
  ciphertext := after.drop (before.length + ktpCryptoHeaderLen)
  plaintext := frameBytes frame

/-- The cipher was called with these inputs and gave this ciphertext. -/
def Encryption.Answered (aead : Aead) (e : Encryption) : Prop :=
  ∃ ciphertext tag, e.ciphertext = ciphertext ++ tag ∧
    aead.encryptInPlaceDetached e.key e.nonce e.aad e.plaintext = some (ciphertext, tag)

/-- The encryption read off the buffer is the call the cipher answered. -/
theorem Encryption.ofSeal_answered {aead : Aead} {sealer : KtpCryptoSeal} {frame : KtpFrame}
    {record : List UInt8} (h : (sealer.appendSealedFrame aead frame record).1 = .ok ()) :
    (Encryption.ofSeal sealer frame record
      (sealer.appendSealedFrame aead frame record).2.2).Answered aead := by
  rcases KtpCryptoSeal.appendSealedFrame_cases aead sealer frame with
    ⟨e, he⟩ | ⟨-, -, c, t, hct, ho⟩
  · obtain ⟨rest, hr⟩ := he record
    rw [hr] at h
    cases h
  have hh : (sealer.header frame).length = ktpCryptoHeaderLen := length_cryptoHeaderBytes _ _ _
  have hlen : (record ++ sealer.header frame).length = record.length + ktpCryptoHeaderLen := by
    rw [List.length_append, hh]
  refine ⟨c, t, ?_, ?_⟩
  · simp only [ho, Encryption.ofSeal]
    rw [← hlen, ← List.append_assoc, List.drop_left]
  · have haad : slice (record ++ (sealer.header frame ++ (c ++ t))) record.length
        (record.length + ktpCryptoHeaderLen) = sealer.header frame := by
      rw [slice, List.drop_left, Nat.add_sub_cancel_left, ← hh, List.take_left]
    simp only [ho, Encryption.ofSeal, haad]
    exact hct

/-- The state of a run: the two seals, the open, and what has happened so far. -/
structure Channel where
  sealers : KtpCryptoDirection → KtpCryptoSeal
  opener : KtpCryptoOpen
  /-- All encryptions made so far. -/
  log : List Encryption
  /-- The frames sealed successfully, by direction. -/
  sealed : KtpCryptoDirection → List KtpFrame
  /-- The frames `open_record` has accepted. -/
  accepted : List KtpFrame

namespace Channel

/-- Two seals and an open of direction `d` with the same key. -/
def start (key : KtpCryptoKey) (d : KtpCryptoDirection) (maxPayloadLen : ℕ) : Channel where
  sealers := .new key
  opener := .new key d maxPayloadLen
  log := []
  sealed := fun _ => []
  accepted := []

/-- A call: seal a frame into a buffer, or open bytes of the attacker's choice. -/
inductive Event where
  | sealFrame (direction : KtpCryptoDirection) (frame : KtpFrame) (record : List UInt8)
  | openRecord (bytes : List UInt8)

def step (cipher : List Encryption → Aead) (s : Channel) : Event → Channel
  | .sealFrame d frame record =>
    match (s.sealers d).appendSealedFrame (cipher s.log) frame record with
    | (.error _, sealer, _) => { s with sealers := Function.update s.sealers d sealer }
    | (.ok (), sealer, record') =>
      { s with
        sealers := Function.update s.sealers d sealer
        log := s.log ++ [.ofSeal (s.sealers d) frame record record']
        sealed := Function.update s.sealed d (s.sealed d ++ [frame]) }
  | .openRecord bytes => match s.opener.openRecord (cipher s.log) bytes with
    | (.error _, opener) => { s with opener := opener }
    | (.ok frame, opener) => { s with opener := opener, accepted := s.accepted ++ [frame] }

/-- A whole run. -/
def run (cipher : List Encryption → Aead) (s : Channel) (events : List Event) : Channel :=
  events.foldl (step cipher) s

/-- `e` is the direction and `k` the number of a successful seal. -/
def Sealed (s : Channel) (e : KtpCryptoDirection) (k : ℕ) (frame : KtpFrame) : Prop :=
  (s.sealed e)[k]? = some frame

/-- The number of frames sealed. -/
def sealedCount (s : Channel) : ℕ :=
  (s.sealed .clientToRelay).length + (s.sealed .relayToClient).length

/-- Every encryption in the log was a call of the cipher at that point of the run. -/
def Answered (cipher : List Encryption → Aead) (log : List Encryption) : Prop :=
  ∀ before e after, log = before ++ e :: after → e.Answered (cipher before)

/-- The invariant of a run. Sequence numbers count the frames sealed and accepted; every encryption
belongs to a frame sealed under its direction and number. -/
structure Inv (cipher : List Encryption → Aead) (d : KtpCryptoDirection) (s : Channel) : Prop where
  direction : ∀ e, (s.sealers e).direction = e
  sequence : ∀ e, (s.sealers e).sequence.toNat = (s.sealed e).length
  frames : ∀ e, ∀ frame ∈ s.sealed e, frame.Accepted
  log : ∀ x ∈ s.log, ∃ e k frame, s.Sealed e k frame ∧ x.nonce = nonce e (UInt64.ofNat k) ∧
    x.plaintext = frameBytes frame
  nodup : (s.log.map (·.nonce)).Nodup
  counted : s.log.length = s.sealedCount
  answered : Answered cipher s.log
  openDirection : s.opener.direction = d
  openSequence : s.opener.nextSequence.toNat ≤ (s.sealed d).length
  accepted : s.accepted = (s.sealed d).take s.opener.nextSequence.toNat

theorem inv_start (cipher : List Encryption → Aead) (key : KtpCryptoKey) (d : KtpCryptoDirection)
    (m : ℕ) : (start key d m).Inv cipher d where
  direction _ := rfl
  sequence _ := rfl
  frames _ _ h := nomatch h
  log _ h := nomatch h
  nodup := List.nodup_nil
  counted := rfl
  answered _ _ _ h := absurd h.symm (List.append_ne_nil_of_right_ne_nil _ (List.cons_ne_nil _ _))
  openDirection := rfl
  openSequence := le_rfl
  accepted := rfl

/-- A frame sealed before stays sealed under its number. -/
theorem Sealed.append {s : Channel} {e : KtpCryptoDirection} {k : ℕ} {frame : KtpFrame}
    (h : s.Sealed e k frame) (d : KtpCryptoDirection) (frame' : KtpFrame) :
    (Function.update s.sealed d (s.sealed d ++ [frame']) e)[k]? = some frame := by
  unfold Sealed at h
  by_cases hd : e = d
  · subst hd
    rw [Function.update_self, List.getElem?_append_left (List.getElem?_eq_some_iff.mp h).1, h]
  · rw [Function.update_of_ne hd, h]

theorem Inv.lt_sequence {cipher : List Encryption → Aead} {s : Channel} {d e : KtpCryptoDirection}
    {k : ℕ} {frame : KtpFrame} (h : s.Inv cipher d) (hs : s.Sealed e k frame) :
    k < (s.sealers e).sequence.toNat := by
  rw [h.sequence]
  exact (List.getElem?_eq_some_iff.mp hs).1

/-- The number of a sealed frame survives the conversion to 64 bits. -/
theorem Inv.toNat_ofNat {cipher : List Encryption → Aead} {s : Channel} {d e : KtpCryptoDirection}
    {k : ℕ} {frame : KtpFrame} (h : s.Inv cipher d) (hs : s.Sealed e k frame) :
    (UInt64.ofNat k).toNat = k :=
  UInt64.toNat_ofNat_of_lt' ((h.lt_sequence hs).trans (UInt64.toNat_lt _))

/-- A nonce used before is not the one the next seal will use. -/
theorem Inv.nonce_fresh {cipher : List Encryption → Aead} {s : Channel} {d : KtpCryptoDirection}
    (h : s.Inv cipher d) (e : KtpCryptoDirection) :
    nonce (s.sealers e).direction (s.sealers e).sequence ∉ s.log.map (·.nonce) := by
  intro hmem
  obtain ⟨x, hx, hnonce⟩ := List.mem_map.mp hmem
  obtain ⟨e', k, frame, hs, hn, -⟩ := h.log x hx
  rw [hnonce, h.direction] at hn
  obtain ⟨rfl, hq⟩ := nonce_injective hn
  have hlt := h.lt_sequence hs
  rw [hq, h.toNat_ofNat hs] at hlt
  exact lt_irrefl _ hlt

theorem Answered.concat {cipher : List Encryption → Aead} {log : List Encryption} {e : Encryption}
    (h : Answered cipher log) (he : e.Answered (cipher log)) : Answered cipher (log ++ [e]) := by
  intro before x after heq
  rcases List.eq_nil_or_concat after with rfl | ⟨after, last, rfl⟩
  · obtain ⟨rfl, hx⟩ := List.append_inj' heq rfl
    cases hx
    exact he
  · rw [List.concat_eq_append, ← List.cons_append, ← List.append_assoc] at heq
    exact h before x after (List.append_inj' heq rfl).1

theorem sealedCount_update (s : Channel) (e : KtpCryptoDirection) (frame : KtpFrame) :
    sealedCount { s with sealed := Function.update s.sealed e (s.sealed e ++ [frame]) } =
      s.sealedCount + 1 := by
  cases e <;> simp [sealedCount] <;> omega

/-- **A seal keeps the invariant.** -/
theorem Inv.sealFrame {cipher : List Encryption → Aead} {s : Channel} {d : KtpCryptoDirection}
    (h : s.Inv cipher d) (e : KtpCryptoDirection) (frame : KtpFrame) (record : List UInt8) :
    (s.step cipher (.sealFrame e frame record)).Inv cipher d := by
  rcases KtpCryptoSeal.appendSealedFrame_cases (cipher s.log) (s.sealers e) frame with
    ⟨error, he⟩ | ⟨hq, hacc, c, t, -, ho⟩
  · obtain ⟨rest, hr⟩ := he record
    simp only [step, hr, Function.update_eq_self]
    exact h
  have hnew : (Function.update s.sealed e (s.sealed e ++ [frame]) e)[(s.sealed e).length]? =
      some frame := by
    rw [Function.update_self, List.getElem?_concat_length]
  have hnum : (s.sealers e).sequence = UInt64.ofNat (s.sealed e).length := by
    rw [← h.sequence, UInt64.ofNat_toNat]
  have hle : s.opener.nextSequence.toNat ≤
      (Function.update s.sealed e (s.sealed e ++ [frame]) d).length ∧
      (Function.update s.sealed e (s.sealed e ++ [frame]) d).take s.opener.nextSequence.toNat =
        (s.sealed d).take s.opener.nextSequence.toNat := by
    have hb := h.openSequence
    by_cases hd : d = e
    · subst hd
      rw [Function.update_self, List.take_append_of_le_length hb, List.length_append]
      exact ⟨by omega, rfl⟩
    · rw [Function.update_of_ne hd]
      exact ⟨hb, rfl⟩
  have hcall : (Encryption.ofSeal (s.sealers e) frame record _).Answered (cipher s.log) :=
    Encryption.ofSeal_answered (by rw [ho])
  rw [ho] at hcall
  simp only [step, ho]
  refine ⟨fun e' => ?_, fun e' => ?_, fun e' f hf => ?_, fun x hx => ?_, ?_, ?_,
    h.answered.concat hcall, h.openDirection, hle.1, h.accepted.trans hle.2.symm⟩
  · by_cases hd : e' = e
    · subst hd; simp only [Function.update_self, h.direction]
    · simp only [Function.update_of_ne hd, h.direction]
  · by_cases hd : e' = e
    · subst hd
      simp only [Function.update_self]
      rw [toNat_add_one_of_ne_max hq, h.sequence, List.length_append, List.length_singleton]
    · simp only [Function.update_of_ne hd]; exact h.sequence e'
  · by_cases hd : e' = e
    · subst hd
      simp only [Function.update_self, List.mem_append, List.mem_singleton] at hf
      rcases hf with hf | rfl
      · exact h.frames e' f hf
      · exact hacc
    · simp only [Function.update_of_ne hd] at hf; exact h.frames e' f hf
  · rw [List.mem_append, List.mem_singleton] at hx
    rcases hx with hx | rfl
    · obtain ⟨e', k, f, hs, hn, hp⟩ := h.log x hx
      exact ⟨e', k, f, hs.append e frame, hn, hp⟩
    · refine ⟨e, (s.sealed e).length, frame, hnew, ?_, rfl⟩
      rw [Encryption.ofSeal, h.direction, hnum]
  · rw [List.map_append, List.map_singleton, ← List.concat_eq_append, List.nodup_concat]
    exact ⟨h.nonce_fresh e, h.nodup⟩
  · rw [List.length_append, List.length_singleton, h.counted]
    exact (s.sealedCount_update e frame).symm

/-- **An open of any bytes keeps the invariant**: what the ideal cipher decrypts under the expected
nonce is the frame sealed under the expected number. -/
theorem Inv.openRecord {cipher : List Encryption → Aead} {s : Channel} {d : KtpCryptoDirection}
    (h : s.Inv cipher d) (hi : Ideal cipher) (bytes : List UInt8) :
    (s.step cipher (.openRecord bytes)).Inv cipher d := by
  rcases KtpCryptoOpen.openRecord_cases (cipher s.log) s.opener bytes with
    ⟨e, he⟩ | ⟨frame, aad, ciphertext, plaintext, hq, hdec, hframe, ho⟩
  · simp only [step, he]
    exact h
  obtain ⟨e, k, frame', hs, hn, hp⟩ := h.log _ (hi _ _ _ _ _ _ hdec)
  simp only [h.openDirection] at hn
  obtain ⟨rfl, hk⟩ := nonce_injective hn
  have hnum : s.opener.nextSequence.toNat = k := by rw [hk, h.toNat_ofNat hs]
  have hget : (s.sealed d)[s.opener.nextSequence.toNat]? = some frame' := by rw [hnum]; exact hs
  obtain ⟨hlt, -⟩ := List.getElem?_eq_some_iff.mp hget
  have hacc := h.frames d frame' (List.mem_of_getElem? hget)
  have hff : frame = frame' := by
    simp only at hp
    rw [hp, ← List.append_nil (frameBytes frame')] at hframe
    exact eq_of_decodeFrame_frameBytes [] hacc hframe
  simp only [step, ho]
  refine ⟨h.direction, h.sequence, h.frames, h.log, h.nodup, h.counted, h.answered,
    h.openDirection, ?_, ?_⟩
  · simp only [toNat_add_one_of_ne_max hq]
    exact hlt
  · simp only [toNat_add_one_of_ne_max hq]
    rw [List.take_add_one, hget, h.accepted, hff, Option.toList_some]

theorem inv_run {cipher : List Encryption → Aead} {s : Channel} {d : KtpCryptoDirection}
    (h : s.Inv cipher d) (hi : Ideal cipher) (events : List Event) :
    (s.run cipher events).Inv cipher d := by
  induction events generalizing s with
  | nil => exact h
  | cons event events ih =>
    cases event with
    | sealFrame e frame record => exact ih (h.sealFrame e frame record)
    | openRecord bytes => exact ih (h.openRecord hi bytes)

end Channel

/-- **Authenticity and order under an active attacker.** Whatever is sealed in either direction and
whatever bytes are opened in between, the frames accepted in direction `d` are a prefix of the
frames sealed in direction `d`. Each successful seal is one call of the cipher, and no two of these
calls use the same nonce. -/
theorem accepted_isPrefix_sealed {cipher : List Encryption → Aead} (hi : Ideal cipher)
    (key : KtpCryptoKey) (d : KtpCryptoDirection) (maxPayloadLen : ℕ)
    (events : List Channel.Event) :
    let s := (Channel.start key d maxPayloadLen).run cipher events
    s.accepted <+: s.sealed d ∧ (s.log.map (·.nonce)).Nodup ∧
      s.log.length = (s.sealed .clientToRelay).length + (s.sealed .relayToClient).length ∧
      ∀ before e after, s.log = before ++ e :: after → ∃ ciphertext tag,
        e.ciphertext = ciphertext ++ tag ∧ (cipher before).encryptInPlaceDetached e.key e.nonce
          e.aad e.plaintext = some (ciphertext, tag) := by
  have h := Channel.inv_run (Channel.inv_start cipher key d maxPayloadLen) hi events
  refine ⟨?_, h.nodup, h.counted, h.answered⟩
  rw [h.accepted]
  exact List.take_prefix _ _

/-- A cipher that leaves the text readable and accepts exactly what is in the log. -/
def logCipher (log : List Encryption) : Aead where
  encryptInPlaceDetached _ _ _ message := some (message, List.replicate 16 0)
  decrypt key nonce aad ciphertext :=
    let plaintext := ciphertext.take (ciphertext.length - 16)
    if ⟨key, nonce, aad, ciphertext, plaintext⟩ ∈ log then some plaintext else none
  encrypt_length := @clearAead.encrypt_length

theorem ideal_logCipher : Ideal logCipher := by
  intro log key nonce aad ciphertext plaintext h
  simp only [logCipher] at h
  split_ifs at h with hm
  cases h
  exact hm

def sealedPing : KtpFrame := .connection .ping [7]

def replayRecord (d : KtpCryptoDirection) : List UInt8 :=
  cryptoHeaderBytes d 0 41 ++ frameBytes sealedPing ++ List.replicate 16 0

/-- Both directions seal the ping. The record of the other direction is opened, and twice the own
one. -/
def replayedRecord : List Channel.Event :=
  [.sealFrame .relayToClient sealedPing [], .sealFrame .clientToRelay sealedPing [],
    .openRecord (replayRecord .relayToClient), .openRecord (replayRecord .clientToRelay),
    .openRecord (replayRecord .clientToRelay)]

/-- A record is opened once; its replay and the other direction's record are refused. -/
theorem accepted_isPrefix_sealed_replay :
    let s := (Channel.start ⟨Vector.replicate 32 0⟩ .clientToRelay 16).run logCipher replayedRecord
    (s.accepted <+: s.sealed .clientToRelay ∧ (s.log.map (·.nonce)).Nodup) ∧
      s.accepted = [sealedPing] ∧ s.log.length = 2 := by
  obtain ⟨haccepted, hnodup, -⟩ := accepted_isPrefix_sealed ideal_logCipher
    ⟨Vector.replicate 32 0⟩ .clientToRelay 16 replayedRecord
  exact ⟨⟨haccepted, hnodup⟩, by decide +kernel⟩

end KeliAgent
