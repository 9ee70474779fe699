import KeliAgent.Ktp.StreamCodec
import KeliAgent.Ktp.Crypto

/-!
# The incremental record decoder

`KtpCryptoRecordCodec` of `ktp_transport.rs`: the encrypted counterpart of the frame decoder, with
the same cursor and an open that is moved by every record.

* `recordParser`, `recordCodec`: the codec as an incremental parser whose state is the open.
* `parseAll_sealed`: sealed records parse to their frames.
* **`recordCodec_round_trip`**: sealed frames come out of the codec, however the records are cut;
  and on any bytes an error stays and changes nothing.
-/

namespace KeliAgent

open Wire

structure KtpCryptoRecordCodec extends Cursor UInt8 where
  opener : KtpCryptoOpen
  maxBufferLen : ℕ
  deriving DecidableEq

namespace KtpCryptoRecordCodec

def new (key : KtpCryptoKey) (direction : KtpCryptoDirection) (maxPayloadLen maxBufferLen : ℕ) :
    KtpCryptoRecordCodec where
  buffer := []
  readOffset := 0
  opener := .new key direction maxPayloadLen
  maxBufferLen := maxBufferLen

def push (self : KtpCryptoRecordCodec) (chunk : List UInt8) :
    Except KtpCryptoError Unit × KtpCryptoRecordCodec :=
  let attempted := self.unreadLen + chunk.length
  if self.maxBufferLen < attempted then
    (.error (.bufferLimit attempted self.maxBufferLen), self)
  else (.ok (), { self with toCursor := self.toCursor.push self.maxBufferLen chunk })

def nextFrame (aead : Aead) (self : KtpCryptoRecordCodec) :
    Except KtpCryptoError (Option KtpFrame) × KtpCryptoRecordCodec :=
  let unread := self.unread
  if unread.length < ktpCryptoHeaderLen then (.ok none, self)
  else match parseCryptoHeader unread self.opener.direction with
  | .error error => (.error error, self)
  | .ok header =>
    let recordLen := ktpCryptoHeaderLen + header.ciphertextLen
    if self.maxBufferLen < recordLen then
      (.error (.bufferLimit recordLen self.maxBufferLen), self)
    else if unread.length < recordLen then (.ok none, self)
    else
      let recordStart := self.readOffset
      let recordEnd := recordStart + recordLen
      match self.opener.openRecord aead (slice self.buffer recordStart recordEnd) with
      | (.error error, opener) => (.error error, { self with opener := opener })
      | (.ok frame, opener) =>
        (.ok (some frame),
          { self with
            toCursor := self.toCursor.consume ktpCodecCompactMinPrefix recordLen
            opener := opener })

/-- The loop of `next_frames_into`, with `remaining` frames to go. -/
def nextFramesLoop (aead : Aead) : ℕ → KtpCryptoRecordCodec → List KtpFrame →
    Except KtpCryptoError ℕ × List KtpFrame × KtpCryptoRecordCodec
  | 0, self, frames => (.ok frames.length, frames, self)
  | remaining + 1, self, frames => match self.nextFrame aead with
    | (.error error, self') => (.error error, frames, self')
    | (.ok none, self') => (.ok frames.length, frames, self')
    | (.ok (some frame), self') => nextFramesLoop aead remaining self' (frames ++ [frame])

/-- `next_frames_into`: the result, and the caller's vector and the codec after the call. -/
def nextFramesInto (aead : Aead) (self : KtpCryptoRecordCodec) (maxFrames : ℕ) :
    Except KtpCryptoError ℕ × List KtpFrame × KtpCryptoRecordCodec :=
  nextFramesLoop aead maxFrames self []

end KtpCryptoRecordCodec

/-! ## The codec as a parser -/

/-- One poll, as a function of the open and the unread bytes. -/
def recordNext (aead : Aead) (b : ℕ) (opener : KtpCryptoOpen) (bytes : List UInt8) :
    Poll KtpCryptoOpen KtpFrame KtpCryptoError :=
  if bytes.length < ktpCryptoHeaderLen then .more
  else match parseCryptoHeader bytes opener.direction with
  | .error error => .fail error
  | .ok header =>
    let recordLen := ktpCryptoHeaderLen + header.ciphertextLen
    if b < recordLen then .fail (.bufferLimit recordLen b)
    else if bytes.length < recordLen then .more
    else match opener.openRecord aead (bytes.take recordLen) with
    | (.error error, _) => .fail error
    | (.ok frame, opener') => .emit frame recordLen opener'

/-- A poll that does not ask for more is not changed by further bytes. -/
theorem recordNext_append {aead : Aead} {b : ℕ} {o : KtpCryptoOpen} {bs : List UInt8}
    (hm : recordNext aead b o bs ≠ .more) (cs : List UInt8) :
    recordNext aead b o (bs ++ cs) = recordNext aead b o bs := by
  unfold recordNext at hm ⊢
  split_ifs at hm with hl
  · exact absurd rfl hm
  have hl' : ¬ (bs ++ cs).length < ktpCryptoHeaderLen := by rw [List.length_append]; omega
  rw [if_neg hl', if_neg hl, parseCryptoHeader_append (Nat.not_lt.mp hl)]
  cases hh : parseCryptoHeader bs o.direction with
  | error e => rfl
  | ok h =>
    simp only [hh] at hm ⊢
    split_ifs at hm with hb hp
    · rw [if_pos hb, if_pos hb]
    · exact absurd rfl hm
    · have hp' : ¬ (bs ++ cs).length < ktpCryptoHeaderLen + h.ciphertextLen := by
        rw [List.length_append]; omega
      rw [if_neg hb, if_neg hb, if_neg hp, if_neg hp',
        List.take_append_of_le_length (Nat.not_lt.mp hp)]

/-- What a poll that emits a frame has checked; the same poll succeeds under any larger limit. -/
theorem recordNext_emit {aead : Aead} {b : ℕ} {o o' : KtpCryptoOpen} {bs : List UInt8}
    {f : KtpFrame} {n : ℕ} (h : recordNext aead b o bs = .emit f n o') :
    ktpCryptoHeaderLen ≤ n ∧ n ≤ bs.length ∧ n ≤ b ∧
      ∀ b', b ≤ b' → recordNext aead b' o bs = .emit f n o' := by
  unfold recordNext at h ⊢
  split_ifs at h ⊢ with hl
  cases hh : parseCryptoHeader bs o.direction with
  | error e => simp only [hh] at h; cases h
  | ok hd =>
    simp only [hh] at h ⊢
    split_ifs at h with hb hp
    rcases hq : o.openRecord aead (bs.take (ktpCryptoHeaderLen + hd.ciphertextLen)) with ⟨r, o''⟩
    rw [hq] at h
    cases r with
    | error e => cases h
    | ok frame =>
      cases h
      refine ⟨Nat.le_add_right _ _, Nat.not_lt.mp hp, Nat.not_lt.mp hb, fun b' hb' => ?_⟩
      rw [if_neg (by omega), if_neg hp]

/-- The record parser with record limit `b`. -/
def recordParser (aead : Aead) (b : ℕ) : Parser KtpCryptoOpen UInt8 KtpFrame KtpCryptoError where
  next := recordNext aead b
  emit_len h := by
    obtain ⟨h₁, h₂, -⟩ := recordNext_emit h
    exact ⟨lt_of_lt_of_le (by decide) h₁, h₂⟩
  emit_append cs h := by rw [recordNext_append (by rw [h]; simp), h]
  fail_append cs h := by rw [recordNext_append (by rw [h]; simp), h]

/-- A codec with record limit `b` whose cursor is within it. -/
structure KtpCryptoRecordCodec.Wf (b : ℕ) (c : KtpCryptoRecordCodec) : Prop where
  maxBufferLen : c.maxBufferLen = b
  bounded : c.toCursor.Bounded b

theorem KtpCryptoRecordCodec.wf_new (key : KtpCryptoKey) (d : KtpCryptoDirection) (m b : ℕ) :
    (KtpCryptoRecordCodec.new key d m b).Wf b :=
  ⟨rfl, Nat.zero_le _, Nat.zero_le _⟩

/-- **A poll is the parser applied to the unread bytes.** -/
theorem KtpCryptoRecordCodec.nextFrame_eq {aead : Aead} {b : ℕ} {c : KtpCryptoRecordCodec}
    (hc : c.Wf b) :
    c.nextFrame aead = match recordNext aead b c.opener c.unread with
      | .more => (.ok none, c)
      | .fail e => (.error e, c)
      | .emit f n o => (.ok (some f),
          { c with toCursor := c.toCursor.consume ktpCodecCompactMinPrefix n, opener := o }) := by
  have hslice : ∀ n, slice c.buffer c.readOffset (c.readOffset + n) = c.unread.take n := by
    intro n
    rw [slice, Nat.add_sub_cancel_left]
    rfl
  obtain ⟨rfl, -⟩ := hc
  unfold KtpCryptoRecordCodec.nextFrame recordNext
  simp only [hslice]
  split_ifs with hl
  · rfl
  cases hh : parseCryptoHeader c.unread c.opener.direction with
  | error e => rfl
  | ok h =>
    simp only
    split_ifs with hb hp
    · rfl
    · rfl
    rcases KtpCryptoOpen.openRecord_cases aead c.opener
        (c.unread.take (ktpCryptoHeaderLen + h.ciphertextLen)) with ⟨e, he⟩ | ⟨_, _, _, _, _, _, _, ho⟩
    · simp only [he]
    · simp only [ho]

/-- The decoder `KtpCryptoRecordCodec` over the record parser. -/
def recordCodec (aead : Aead) (b : ℕ) : Codec (recordParser aead b) KtpCryptoRecordCodec where
  push := KtpCryptoRecordCodec.push
  nextItem := KtpCryptoRecordCodec.nextFrame aead
  unread c := c.unread
  state c := c.opener
  Inv := KtpCryptoRecordCodec.Wf b
  push_ok {c chunk} hc h := by
    obtain ⟨rfl, hbd⟩ := hc
    unfold KtpCryptoRecordCodec.push at h ⊢
    simp only at h ⊢
    split_ifs at h ⊢ with hfit
    exact ⟨⟨rfl, Cursor.bounded_push hbd (Nat.not_lt.mp hfit)⟩, Cursor.unread_push hbd chunk, rfl⟩
  push_error {c chunk e} h := by
    unfold KtpCryptoRecordCodec.push at h ⊢
    simp only at h ⊢
    split_ifs at h ⊢
    rfl
  next_more hc h := by
    rw [KtpCryptoRecordCodec.nextFrame_eq hc, show recordNext aead b _ _ = _ from h]
  next_fail hc h := by
    rw [KtpCryptoRecordCodec.nextFrame_eq hc, show recordNext aead b _ _ = _ from h]
  next_emit {c f n s} hc h := by
    rw [KtpCryptoRecordCodec.nextFrame_eq hc, show recordNext aead b _ _ = _ from h]
    exact ⟨rfl, ⟨hc.maxBufferLen, Cursor.bounded_consume _ hc.bounded (recordNext_emit h).2.1⟩,
      Cursor.unread_consume _ _ _, rfl⟩

/-! ## Sealed records -/

section Sealed

variable {aead : Aead} {b : ℕ}

/-- A record at the front of the bytes, as its open sees it. -/
theorem recordNext_sealed {sealer sealer' : KtpCryptoSeal} {o : KtpCryptoOpen} {frame : KtpFrame}
    {record : List UInt8} (hc : aead.Correct)
    (hs : sealer.sealFrame aead frame = (.ok record, sealer')) (hf : o.Follows sealer)
    (hm : frame.payload.length ≤ o.maxPayloadLen) (hb : record.length ≤ b) (rest : List UInt8) :
    recordNext aead b o (record ++ rest) =
      .emit frame record.length { o with nextSequence := o.nextSequence + 1 } := by
  have hopen := KtpCryptoOpen.openRecord_sealFrame hc hs hf hm
  have hlen := KtpCryptoSeal.length_of_sealFrame hs
  obtain ⟨-, hacc, -, c, t, -, rfl⟩ := KtpCryptoSeal.sealFrame_ok hs
  have hmax := hacc.2
  unfold ktpMaxPayloadLen at hmax
  have hparse : parseCryptoHeader (sealer.header frame ++ (c ++ t)) o.direction =
      .ok ⟨o.nextSequence, ktpHeaderLen + frame.payload.length + 16⟩ := by
    rw [hf.direction, hf.sequence]
    exact parseCryptoHeader_cryptoHeaderBytes _ _ (by unfold ktpHeaderLen; omega) _
  have hfull : ktpCryptoHeaderLen + (ktpHeaderLen + frame.payload.length + 16) =
      (sealer.header frame ++ (c ++ t)).length := by
    rw [hlen]; unfold ktpCryptoHeaderLen ktpHeaderLen; omega
  have hne : recordNext aead b o (sealer.header frame ++ (c ++ t)) =
      .emit frame (sealer.header frame ++ (c ++ t)).length
        { o with nextSequence := o.nextSequence + 1 } := by
    unfold recordNext
    rw [if_neg (by omega), hparse]
    simp only [hfull, if_neg (Nat.not_lt.mpr hb), lt_irrefl, if_false, List.take_length, hopen]
  rw [recordNext_append (by rw [hne]; simp), hne]

/-- **Sealed records parse to their frames**, up to whatever follows them. -/
theorem parseAll_sealed (hc : aead.Correct) {sealer sealer' : KtpCryptoSeal} {o : KtpCryptoOpen}
    {frames : List KtpFrame} {records : List (List UInt8)}
    (hs : sealer.sealFrames aead frames = (.ok records, sealer')) (hf : o.Follows sealer)
    (hm : ∀ frame ∈ frames, frame.payload.length ≤ o.maxPayloadLen)
    (hb : ∀ record ∈ records, record.length ≤ b) (rest : List UInt8) :
    (recordParser aead b).parseAll o (records.flatten ++ rest) =
      ((recordParser aead b).parseAll { o with nextSequence := sealer'.sequence } rest).prepend
        frames := by
  induction frames generalizing sealer o records with
  | nil =>
    cases hs
    rw [← hf.sequence]
    rfl
  | cons frame frames ih =>
    obtain ⟨record, sealer₁, records', h₁, h₂, rfl⟩ := KtpCryptoSeal.sealFrames_cons hs
    obtain ⟨-, -, hseal, -⟩ := KtpCryptoSeal.sealFrame_ok h₁
    have hnext := recordNext_sealed hc h₁ hf (hm _ (List.mem_cons_self ..))
      (hb _ (List.mem_cons_self ..)) (records'.flatten ++ rest)
    have hf' : KtpCryptoOpen.Follows { o with nextSequence := o.nextSequence + 1 } sealer₁ := by
      rw [hseal]
      exact ⟨hf.key, hf.direction, by rw [hf.sequence]⟩
    rw [List.flatten_cons, List.append_assoc, (recordParser aead b).parseAll_emit hnext,
      List.drop_left, ih h₂ hf' (fun f hmem => hm f (List.mem_cons_of_mem _ hmem))
        (fun r hmem => hb r (List.mem_cons_of_mem _ hmem)), Parsed.prepend_prepend]
    rfl

/-- Sealed records alone parse to their frames, and nothing is left. -/
theorem parseAll_sealed_eq (hc : aead.Correct) {sealer sealer' : KtpCryptoSeal} {o : KtpCryptoOpen}
    {frames : List KtpFrame} {records : List (List UInt8)}
    (hs : sealer.sealFrames aead frames = (.ok records, sealer')) (hf : o.Follows sealer)
    (hm : ∀ frame ∈ frames, frame.payload.length ≤ o.maxPayloadLen)
    (hb : ∀ record ∈ records, record.length ≤ b) :
    (recordParser aead b).parseAll o records.flatten =
      ⟨frames, { o with nextSequence := sealer'.sequence }, [], none⟩ := by
  have hparse := parseAll_sealed hc hs hf hm hb []
  have hnil : (recordParser aead b).next { o with nextSequence := sealer'.sequence } [] = .more :=
    rfl
  rw [List.append_nil, (recordParser aead b).parseAll_more hnil] at hparse
  rw [hparse, Parsed.prepend, List.append_nil]

end Sealed

/-- **Round trip under any chunking.** With a correct cipher, the frames sealed by a
`KtpCryptoSeal` come out of a `KtpCryptoRecordCodec` of the same key and direction in order,
however the records are cut into accepted pushes and whenever the codec is polled, and nothing is
left; and after any calls on any bytes, a failing poll changes nothing and every later poll fails
in the same way. -/
theorem recordCodec_round_trip {aead : Aead} (hc : aead.Correct) (key : KtpCryptoKey)
    (d : KtpCryptoDirection) (m b : ℕ) :
    (∀ frames records, ((KtpCryptoSeal.new key d).sealFrames aead frames).1 = .ok records →
      (∀ frame ∈ frames, frame.payload.length ≤ m) → (∀ record ∈ records, record.length ≤ b) →
      ∀ ops, Op.chunks ops = records.flatten → (recordCodec aead b).Accepts (.new key d m b) ops →
      (∀ f, (((recordCodec aead b).after (.new key d m b) ops).nextFrame aead).1 ≠ .ok (some f)) →
      (recordCodec aead b).emitted (.new key d m b) ops = frames ∧
        (((recordCodec aead b).after (.new key d m b) ops).nextFrame aead).1 = .ok none ∧
        ((recordCodec aead b).after (.new key d m b) ops).unread = []) ∧
    (∀ ops e, let c := (recordCodec aead b).after (.new key d m b) ops
      (c.nextFrame aead).1 = .error e → (c.nextFrame aead).2 = c ∧
        ∀ ops', (((recordCodec aead b).after c ops').nextFrame aead).1 = .error e ∧
          ((recordCodec aead b).after c ops').opener = c.opener ∧
          (recordCodec aead b).emitted c ops' = []) := by
  have hnew := KtpCryptoRecordCodec.wf_new key d m b
  refine ⟨fun frames records hs hm hb ops hops ha hlast => ?_, fun ops e => ?_⟩
  · rcases hs' : (KtpCryptoSeal.new key d).sealFrames aead frames with ⟨r, sealer⟩
    rw [hs'] at hs
    cases hs
    have hacc := (KtpCryptoSeal.sealFrames_ok hs').1
    have hparse := parseAll_sealed_eq hc hs' (o := .new key d m) ⟨rfl, rfl, rfl⟩
      (fun f hf => le_min (hm f hf) (hacc f hf).2) hb
    have hdrained := Codec.parseAll_eq_of_drained (k := recordCodec aead b) hnew ops ha hlast
    rw [hops, show (recordCodec aead b).unread _ ++ records.flatten = records.flatten from rfl,
      show (recordCodec aead b).state _ = KtpCryptoOpen.new key d m from rfl, hparse] at hdrained
    obtain ⟨h₁, -, h₃, h₄⟩ := Parsed.mk.injEq .. ▸ hdrained
    exact ⟨h₁.symm, pollError_none h₄.symm hlast, h₃.symm⟩
  · intro c he
    have hwf : (recordCodec aead b).Inv c := Codec.inv_after hnew ops
    refine ⟨?_, fun ops' => Codec.error_sticky hwf he ops'⟩
    exact (Codec.nextItem_of_error hwf he).2

/-- Two pings of 66 bytes each, cut after 100 bytes. -/
theorem recordCodec_round_trip_pings :
    let key : KtpCryptoKey := ⟨Vector.replicate 32 0⟩
    let pings := [KtpFrame.connection .ping [1, 2], .connection .ping [3, 4]]
    let bytes := cryptoHeaderBytes .clientToRelay 0 42 ++ frameBytes (.connection .ping [1, 2]) ++
      List.replicate 16 0 ++ (cryptoHeaderBytes .clientToRelay 1 42 ++
      frameBytes (.connection .ping [3, 4]) ++ List.replicate 16 0)
    let ops := [Op.push (bytes.take 100), .next, .push (bytes.drop 100), .next, .next]
    (recordCodec clearAead 200).emitted (.new key .clientToRelay 16 200) ops = pings ∧
      (((recordCodec clearAead 200).after (.new key .clientToRelay 16 200) ops).nextFrame
        clearAead).1 = .ok none ∧
      ((recordCodec clearAead 200).after (.new key .clientToRelay 16 200) ops).unread = [] := by
  intro key pings bytes ops
  have hlast : (((recordCodec clearAead 200).after (.new key .clientToRelay 16 200) ops).nextFrame
      clearAead).1 = .ok none := by decide +kernel
  exact (recordCodec_round_trip clearAead_correct key .clientToRelay 16 200).1 pings
    [bytes.take 66, bytes.drop 66] (by decide +kernel) (by decide) (by decide +kernel) ops
    (by decide +kernel) (by decide +kernel) (fun f => by rw [hlast]; simp)

end KeliAgent
