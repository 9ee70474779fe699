import KeliAgent.Lib.Cursor
import KeliAgent.Lib.Parser
import KeliAgent.Ktp.Frame

/-!
# The incremental frame decoder

`KtpStreamCodec` of `ktp_transport.rs`: chunks are pushed into a buffer with a read offset, frames
are taken out of it as soon as they are complete.

* `decodeWhole`: apply `decodeFrame` again and again to a whole byte string.
* `streamParser`, `streamCodec`: the codec as an incremental parser with a cursor.
* **`streamCodec_decodes_whole`**: however a byte string is cut and whenever the codec is polled,
  its frames and its final status are those of `decodeWhole`.
-/

namespace KeliAgent

open Wire

inductive KtpStreamCodecError where
  | ktp (error : KtpError)
  | bufferLimit (attempted limit : ℕ)
  deriving DecidableEq, Repr

def ktpCodecCompactMinPrefix : ℕ := 64 * 1024

structure KtpStreamCodec extends Cursor UInt8 where
  maxPayloadLen : ℕ
  maxBufferLen : ℕ
  deriving DecidableEq, Repr

namespace KtpStreamCodec

def new (maxPayloadLen maxBufferLen : ℕ) : KtpStreamCodec where
  buffer := []
  readOffset := 0
  maxPayloadLen := min maxPayloadLen ktpMaxPayloadLen
  maxBufferLen := maxBufferLen

def push (self : KtpStreamCodec) (chunk : List UInt8) :
    Except KtpStreamCodecError Unit × KtpStreamCodec :=
  let attempted := self.unreadLen + chunk.length
  if self.maxBufferLen < attempted then
    (.error (.bufferLimit attempted self.maxBufferLen), self)
  else (.ok (), { self with toCursor := self.toCursor.push self.maxBufferLen chunk })

/-- The error for which `next_frame` gives up on a header alone: any but a missing payload. -/
def headerError (header : List UInt8) (maxPayloadLen : ℕ) : Option KtpError :=
  match decodeFrame header maxPayloadLen with
  | .error error => if error ≠ .truncatedPayload then some error else none
  | .ok _ => none

def nextFrame (self : KtpStreamCodec) :
    Except KtpStreamCodecError (Option KtpFrame) × KtpStreamCodec :=
  let unread := self.unread
  if unread.length < ktpHeaderLen then (.ok none, self)
  else match headerError (unread.take ktpHeaderLen) self.maxPayloadLen with
  | some error => (.error (.ktp error), self)
  | none =>
    let payloadLen := ofBe (slice unread 16 20)
    if self.maxPayloadLen < payloadLen then
      (.error (.ktp (.payloadTooLarge payloadLen)), self)
    else
      let frameLen := ktpHeaderLen + payloadLen
      if self.maxBufferLen < frameLen then
        (.error (.bufferLimit frameLen self.maxBufferLen), self)
      else if unread.length < frameLen then (.ok none, self)
      else match decodeFrame (unread.take frameLen) self.maxPayloadLen with
      | .error error => (.error (.ktp error), self)
      | .ok frame =>
        (.ok (some frame),
          { self with toCursor := self.toCursor.consume ktpCodecCompactMinPrefix frameLen })

end KtpStreamCodec

/-! ## The one-shot parser -/

/-- How a byte string ends after its last complete frame. -/
inductive StreamStatus where
  | needsMoreBytes
  | failed (error : KtpStreamCodecError)
  deriving DecidableEq, Repr

/-- Apply `decodeFrame` at most `fuel` times; a frame longer than `b` bytes is an error. -/
def decodeRepeatedly (m b : ℕ) : ℕ → List UInt8 → List KtpFrame × StreamStatus
  | 0, _ => ([], .needsMoreBytes)
  | fuel + 1, bytes => match decodeFrame bytes m with
    | .error .truncatedHeader => ([], .needsMoreBytes)
    | .error .truncatedPayload =>
      if b < ktpHeaderLen + ofBe (slice bytes 16 20) then
        ([], .failed (.bufferLimit (ktpHeaderLen + ofBe (slice bytes 16 20)) b))
      else ([], .needsMoreBytes)
    | .error error => ([], .failed (.ktp error))
    | .ok frame =>
      if b < ktpHeaderLen + frame.payload.length then
        ([], .failed (.bufferLimit (ktpHeaderLen + frame.payload.length) b))
      else
        let r := decodeRepeatedly m b fuel (bytes.drop (ktpHeaderLen + frame.payload.length))
        (frame :: r.1, r.2)

/-- Apply `decodeFrame` to a byte string as often as it goes. -/
def decodeWhole (m b : ℕ) (bytes : List UInt8) : List KtpFrame × StreamStatus :=
  decodeRepeatedly m b (bytes.length + 1) bytes

/-! ## The codec as a parser -/

/-- One poll, as a function of the unread bytes. -/
def streamNext (m b : ℕ) (bytes : List UInt8) : Poll Unit KtpFrame KtpStreamCodecError :=
  if bytes.length < ktpHeaderLen then .more
  else match frameHeader bytes m with
  | .error error => .fail (.ktp error)
  | .ok h =>
    if b < ktpHeaderLen + h.payloadLen then .fail (.bufferLimit (ktpHeaderLen + h.payloadLen) b)
    else if bytes.length < ktpHeaderLen + h.payloadLen then .more
    else match framePayload h bytes with
    | .error error => .fail (.ktp error)
    | .ok frame => .emit frame (ktpHeaderLen + h.payloadLen) ()

theorem framePayload_append {h : FrameHeader} {bs : List UInt8}
    (hl : ktpHeaderLen + h.payloadLen ≤ bs.length) (cs : List UInt8) :
    framePayload h (bs ++ cs) = framePayload h bs := by
  have hl' : ktpHeaderLen + h.payloadLen ≤ (bs ++ cs).length := by
    rw [List.length_append]; omega
  unfold framePayload
  rw [if_neg (Nat.not_lt.mpr hl), if_neg (Nat.not_lt.mpr hl'), slice_append bs cs hl]

/-- A poll that does not ask for more is not changed by further bytes. -/
theorem streamNext_append {m b : ℕ} {bs : List UInt8} (hm : streamNext m b bs ≠ .more)
    (cs : List UInt8) : streamNext m b (bs ++ cs) = streamNext m b bs := by
  unfold streamNext at hm ⊢
  split_ifs at hm with hl
  · exact absurd rfl hm
  have hl' : ¬ (bs ++ cs).length < ktpHeaderLen := by rw [List.length_append]; omega
  rw [if_neg hl', if_neg hl, frameHeader_append (Nat.not_lt.mp hl)]
  cases hh : frameHeader bs m with
  | error e => rfl
  | ok h =>
    simp only [hh] at hm ⊢
    split_ifs at hm with hb hp
    · rw [if_pos hb, if_pos hb]
    · exact absurd rfl hm
    · have hp' : ¬ (bs ++ cs).length < ktpHeaderLen + h.payloadLen := by
        rw [List.length_append]; omega
      rw [if_neg hb, if_neg hb, if_neg hp, if_neg hp', framePayload_append (Nat.not_lt.mp hp)]

theorem streamNext_emit {m b : ℕ} {bs : List UInt8} {f : KtpFrame} {n : ℕ} {u : Unit}
    (h : streamNext m b bs = .emit f n u) : ktpHeaderLen ≤ n ∧ n ≤ bs.length := by
  unfold streamNext at h
  split_ifs at h with hl
  cases hh : frameHeader bs m with
  | error e => simp only [hh] at h; cases h
  | ok hd =>
    simp only [hh] at h
    split_ifs at h with hb hp
    cases hq : framePayload hd bs with
    | error e => simp only [hq] at h; cases h
    | ok frame =>
      simp only [hq] at h
      cases h
      omega

/-- The frame parser with payload limit `m` and frame limit `b`. -/
def streamParser (m b : ℕ) : Parser Unit UInt8 KtpFrame KtpStreamCodecError where
  next _ := streamNext m b
  emit_len h := by
    obtain ⟨h₁, h₂⟩ := streamNext_emit h
    exact ⟨lt_of_lt_of_le (by decide) h₁, h₂⟩
  emit_append cs h := by rw [streamNext_append (by rw [h]; simp), h]
  fail_append cs h := by rw [streamNext_append (by rw [h]; simp), h]

theorem frameHeader_min (bs : List UInt8) (m : ℕ) :
    frameHeader bs (min m ktpMaxPayloadLen) = frameHeader bs m := by
  unfold frameHeader
  simp only [min_assoc, min_self]

theorem frameHeader_take {bs : List UInt8} {n : ℕ} (hn : ktpHeaderLen ≤ n) (hl : n ≤ bs.length)
    (m : ℕ) : frameHeader (bs.take n) m = frameHeader bs m := by
  have h : ktpHeaderLen ≤ (bs.take n).length := by rw [List.length_take]; omega
  rw [← frameHeader_append h (bs.drop n), List.take_append_drop]

theorem framePayload_take {h : FrameHeader} {bs : List UInt8} {n : ℕ}
    (hn : ktpHeaderLen + h.payloadLen ≤ n) (hl : n ≤ bs.length) :
    framePayload h (bs.take n) = framePayload h bs := by
  have h' : ktpHeaderLen + h.payloadLen ≤ (bs.take n).length := by rw [List.length_take]; omega
  rw [← framePayload_append h' (bs.drop n), List.take_append_drop]

theorem framePayload_of_short {h : FrameHeader} {bs : List UInt8}
    (hl : bs.length < ktpHeaderLen + h.payloadLen) :
    framePayload h bs = .error .truncatedPayload := by
  rw [framePayload, if_pos hl]

/-- A complete payload is only refused by the checks on leg and session id. -/
theorem framePayload_error {h : FrameHeader} {bs : List UInt8} {e : KtpError}
    (hl : ktpHeaderLen + h.payloadLen ≤ bs.length) (hf : framePayload h bs = .error e) :
    e ≠ .truncatedHeader ∧ e ≠ .truncatedPayload := by
  unfold framePayload at hf
  rw [if_neg (Nat.not_lt.mpr hl)] at hf
  cases hv : validateFrame (h.frame (slice bs ktpHeaderLen (ktpHeaderLen + h.payloadLen))) with
  | error e' => rw [hv] at hf; cases hf; exact validateFrame_error hv
  | ok u => rw [hv] at hf; cases hf

theorem framePayload_ok {h : FrameHeader} {bs : List UInt8} {frame : KtpFrame}
    (hf : framePayload h bs = .ok frame) :
    frame.payload.length = h.payloadLen ∧ ktpHeaderLen + h.payloadLen ≤ bs.length := by
  unfold framePayload at hf
  split_ifs at hf with hl
  cases hv : validateFrame (h.frame (slice bs ktpHeaderLen (ktpHeaderLen + h.payloadLen))) with
  | error e => rw [hv] at hf; cases hf
  | ok u =>
    rw [hv] at hf
    cases hf
    refine ⟨?_, Nat.not_lt.mp hl⟩
    simp only [FrameHeader.frame, length_slice]
    omega

/-- What the header check of `next_frame` sees in a header that parses. -/
theorem headerError_of_ok {bs : List UInt8} {m : ℕ} {h : FrameHeader}
    (hh : frameHeader bs m = .ok h) :
    KtpStreamCodec.headerError (bs.take ktpHeaderLen) (min m ktpMaxPayloadLen) =
      if h.payloadLen = 0 then
        match framePayload h bs with
        | .error error => some error
        | .ok _ => none
      else none := by
  have hl := (frameHeader_ok hh).1
  unfold KtpStreamCodec.headerError
  rw [decodeFrame_eq, frameHeader_take le_rfl hl, frameHeader_min, hh]
  simp only
  split_ifs with h0
  · rw [framePayload_take (by omega) hl]
    cases hp : framePayload h bs with
    | ok frame => rfl
    | error e => simp only [if_pos (framePayload_error (by omega) hp).2]
  · rw [framePayload_of_short (by rw [List.length_take]; omega)]
    rfl

theorem headerError_of_error {bs : List UInt8} {m : ℕ} {e : KtpError}
    (hh : frameHeader bs m = .error e) (hl : ktpHeaderLen ≤ bs.length) :
    KtpStreamCodec.headerError (bs.take ktpHeaderLen) (min m ktpMaxPayloadLen) = some e := by
  unfold KtpStreamCodec.headerError
  rw [decodeFrame_eq, frameHeader_take le_rfl hl, frameHeader_min, hh]
  exact if_pos (frameHeader_error hh).1

/-- A codec with the given limits whose cursor is within them. -/
structure KtpStreamCodec.Wf (m b : ℕ) (c : KtpStreamCodec) : Prop where
  maxPayloadLen : c.maxPayloadLen = min m ktpMaxPayloadLen
  maxBufferLen : c.maxBufferLen = b
  bounded : c.toCursor.Bounded b

theorem KtpStreamCodec.wf_new (m b : ℕ) : (KtpStreamCodec.new m b).Wf m b :=
  ⟨rfl, rfl, Nat.zero_le _, Nat.zero_le _⟩

theorem KtpStreamCodec.Wf.unread_length_le {m b : ℕ} {c : KtpStreamCodec} (hc : c.Wf m b) :
    c.unread.length ≤ b := by
  rw [Cursor.length_unread, Cursor.unreadLen]
  exact (Nat.sub_le _ _).trans hc.bounded.2

/-- **A poll is the parser applied to the unread bytes.** -/
theorem KtpStreamCodec.nextFrame_eq {m b : ℕ} {c : KtpStreamCodec} (hc : c.Wf m b) :
    c.nextFrame = match streamNext m b c.unread with
      | .more => (.ok none, c)
      | .fail e => (.error e, c)
      | .emit f n _ => (.ok (some f),
          { c with toCursor := c.toCursor.consume ktpCodecCompactMinPrefix n }) := by
  have hub := hc.unread_length_le
  obtain ⟨hm, hb, hbd⟩ := hc
  unfold KtpStreamCodec.nextFrame streamNext
  simp only [hm, hb]
  by_cases hl : c.unread.length < ktpHeaderLen
  · rw [if_pos hl, if_pos hl]
  rw [if_neg hl, if_neg hl]
  have hl' := Nat.not_lt.mp hl
  cases hh : frameHeader c.unread m with
  | error e => rw [headerError_of_error hh hl']
  | ok h =>
    obtain ⟨-, hpl, hle⟩ := frameHeader_ok hh
    rw [headerError_of_ok hh, ← hpl]
    have hdec : ktpHeaderLen + h.payloadLen ≤ c.unread.length →
        decodeFrame (c.unread.take (ktpHeaderLen + h.payloadLen)) (min m ktpMaxPayloadLen) =
          framePayload h c.unread := by
      intro hfl
      rw [decodeFrame_eq, frameHeader_take (Nat.le_add_right _ _) hfl, frameHeader_min, hh]
      exact framePayload_take le_rfl hfl
    -- a frame without payload is checked with its header, any other one when it is complete
    by_cases h0 : h.payloadLen = 0
    · have hfl : ktpHeaderLen + h.payloadLen ≤ c.unread.length := by omega
      simp only [if_pos h0, if_neg (show ¬ b < ktpHeaderLen + h.payloadLen by omega),
        if_neg (Nat.not_lt.mpr hfl), if_neg (Nat.not_lt.mpr hle), hdec hfl]
      cases framePayload h c.unread <;> rfl
    · simp only [if_neg h0, if_neg (Nat.not_lt.mpr hle)]
      split_ifs with hb' hfl
      · rfl
      · rfl
      · rw [hdec (Nat.not_lt.mp hfl)]
        cases framePayload h c.unread <;> rfl

theorem KtpStreamCodec.push_eq {m b : ℕ} {c : KtpStreamCodec} (hc : c.Wf m b)
    (chunk : List UInt8) :
    c.push chunk = if b < c.unread.length + chunk.length then
        (.error (.bufferLimit (c.unread.length + chunk.length) b), c)
      else (.ok (), { c with toCursor := c.toCursor.push b chunk }) := by
  simp only [KtpStreamCodec.push, hc.maxBufferLen, Cursor.length_unread]

/-- The decoder `KtpStreamCodec` over the frame parser. -/
def streamCodec (m b : ℕ) : Codec (streamParser m b) KtpStreamCodec where
  push := KtpStreamCodec.push
  nextItem := KtpStreamCodec.nextFrame
  unread c := c.unread
  state _ := ()
  Inv := KtpStreamCodec.Wf m b
  push_ok {c chunk} hc h := by
    rw [KtpStreamCodec.push_eq hc] at h ⊢
    split_ifs at h ⊢ with hfit
    rw [Cursor.length_unread] at hfit
    exact ⟨⟨hc.maxPayloadLen, hc.maxBufferLen, Cursor.bounded_push hc.bounded (Nat.not_lt.mp hfit)⟩,
      Cursor.unread_push hc.bounded chunk, rfl⟩
  push_error {c chunk e} h := by
    unfold KtpStreamCodec.push at h ⊢
    simp only at h ⊢
    split_ifs at h ⊢
    rfl
  next_more hc h := by
    rw [KtpStreamCodec.nextFrame_eq hc, show streamNext m b _ = _ from h]
  next_fail hc h := by
    rw [KtpStreamCodec.nextFrame_eq hc, show streamNext m b _ = _ from h]
  next_emit {c f n s} hc h := by
    rw [KtpStreamCodec.nextFrame_eq hc, show streamNext m b _ = _ from h]
    have hle := (streamNext_emit h).2
    exact ⟨rfl, ⟨hc.maxPayloadLen, hc.maxBufferLen, Cursor.bounded_consume _ hc.bounded hle⟩,
      Cursor.unread_consume _ _ _, rfl⟩

/-- The status a poll without a frame reports. -/
def StreamStatus.ofError : Option KtpStreamCodecError → StreamStatus
  | none => .needsMoreBytes
  | some e => .failed e

/-- Repeated decoding is parsing, as long as no more than `b` bytes are left over. Past `b` bytes a
complete frame could also be refused for its leg, which the parser never looks at. -/
theorem decodeRepeatedly_eq (m b fuel : ℕ) (bs : List UInt8)
    (hrest : ((streamParser m b).parse fuel () bs).rest.length ≤ b) :
    decodeRepeatedly m b fuel bs = (((streamParser m b).parse fuel () bs).items,
      StreamStatus.ofError ((streamParser m b).parse fuel () bs).error) := by
  induction fuel generalizing bs with
  | zero => rfl
  | succ fuel ih =>
    have hnext : (streamParser m b).next () bs = streamNext m b bs := rfl
    unfold decodeRepeatedly
    unfold Parser.parse at hrest ⊢
    rw [hnext] at hrest ⊢
    unfold streamNext at hrest ⊢
    by_cases hl : bs.length < ktpHeaderLen
    · have hd : decodeFrame bs m = .error .truncatedHeader := by
        simp only [decodeFrame, if_pos hl]
      rw [hd, if_pos hl]
      rfl
    rw [if_neg hl] at hrest ⊢
    rw [decodeFrame_eq]
    cases hh : frameHeader bs m with
    | error e =>
      obtain ⟨h₁, h₂⟩ := frameHeader_error hh
      have h₃ := h₂ (Nat.not_lt.mp hl)
      cases e <;> simp_all [StreamStatus.ofError]
    | ok h =>
      obtain ⟨-, hpl, -⟩ := frameHeader_ok hh
      simp only [hh] at hrest ⊢
      by_cases hb : b < ktpHeaderLen + h.payloadLen
      · rw [if_pos hb] at hrest ⊢
        have hlen : bs.length ≤ b := hrest
        rw [framePayload_of_short (by omega)]
        simp only [← hpl, if_pos hb]
        rfl
      rw [if_neg hb] at hrest ⊢
      by_cases hs : bs.length < ktpHeaderLen + h.payloadLen
      · rw [if_pos hs, framePayload_of_short hs]
        simp only [← hpl, if_neg hb]
        rfl
      rw [if_neg hs] at hrest ⊢
      cases hp : framePayload h bs with
      | error e =>
        obtain ⟨h₁, h₂⟩ := framePayload_error (Nat.not_lt.mp hs) hp
        cases e <;> simp_all [StreamStatus.ofError]
      | ok frame =>
        simp only [hp] at hrest ⊢
        rw [(framePayload_ok hp).1, if_neg hb, ih _ hrest]
        rfl

/-- **The codec decodes the concatenation of its chunks**, for all limits `m` and `b`. After any
calls in which every push is accepted, up to a poll that returns no frame, the frames and the
status are those of `decodeWhole` (and polling does reach such a poll). An error stays. The read
offset and the buffer stay within their bounds, and a refused push changes nothing. -/
theorem streamCodec_decodes_whole (m b : ℕ) :
    (∀ ops, (streamCodec m b).Accepts (.new m b) ops →
      (∀ f, ((streamCodec m b).after (.new m b) ops).nextFrame.1 ≠ .ok (some f)) →
      ((streamCodec m b).emitted (.new m b) ops,
        StreamStatus.ofError (pollError ((streamCodec m b).after (.new m b) ops).nextFrame.1)) =
          decodeWhole m b (Op.chunks ops)) ∧
    (∀ ops, ∃ n, ∀ f, ((streamCodec m b).after (.new m b)
      (ops ++ List.replicate n .next)).nextFrame.1 ≠ .ok (some f)) ∧
    (∀ ops e, ((streamCodec m b).after (.new m b) ops).nextFrame.1 = .error e → ∀ ops',
      ((streamCodec m b).after (.new m b) (ops ++ ops')).nextFrame.1 = .error e ∧
        (streamCodec m b).emitted (.new m b) (ops ++ ops') =
          (streamCodec m b).emitted (.new m b) ops) ∧
    (∀ ops, let c := (streamCodec m b).after (.new m b) ops
      c.maxBufferLen = b ∧ c.readOffset ≤ c.buffer.length ∧ c.buffer.length ≤ c.maxBufferLen ∧
        ∀ chunk e, (c.push chunk).1 = .error e → (c.push chunk).2 = c) := by
  have hnew := KtpStreamCodec.wf_new m b
  have hwf : ∀ ops, ((streamCodec m b).after (.new m b) ops).Wf m b :=
    fun ops => Codec.inv_after (k := streamCodec m b) hnew ops
  refine ⟨fun ops ha hlast => ?_, fun ops => ?_, fun ops e he ops' => ?_, fun ops => ?_⟩
  · have hp := Codec.parseAll_eq_of_drained (k := streamCodec m b) hnew ops ha hlast
    have hp' : (streamParser m b).parseAll () (Op.chunks ops) = _ := hp
    rw [Parser.parseAll] at hp'
    have hrest := (hwf ops).unread_length_le
    rw [decodeWhole, decodeRepeatedly_eq m b _ _ (by rw [hp']; exact hrest), hp']
    rfl
  · obtain ⟨n, hn⟩ := Codec.exists_drained (k := streamCodec m b) (hwf ops)
    exact ⟨n, fun f => by rw [Codec.after_append]; exact hn f⟩
  · obtain ⟨h₁, -, h₃⟩ := Codec.error_sticky (k := streamCodec m b) (hwf ops) he ops'
    rw [Codec.after_append, Codec.emitted_append, h₃, List.append_nil]
    exact ⟨h₁, rfl⟩
  · have hb := (hwf ops).maxBufferLen
    exact ⟨hb, (hwf ops).bounded.1, by rw [hb]; exact (hwf ops).bounded.2,
      fun chunk e h => (streamCodec m b).push_error h⟩

/-- A ping in two chunks, then a wrong magic: one frame, and the error that decoding all 50 bytes
gives. -/
theorem streamCodec_decodes_whole_ping :
    let ping := frameBytes (.connection .ping [7, 9])
    let ops := [.push (ping.take 11), .next, .push (ping.drop 11 ++ List.replicate 24 0), .next]
    ((streamCodec 16 64).emitted (.new 16 64) ops,
      StreamStatus.ofError (pollError ((streamCodec 16 64).after (.new 16 64) ops).nextFrame.1)) =
        decodeWhole 16 64 (Op.chunks ops) ∧
    decodeWhole 16 64 (Op.chunks ops) =
      ([.connection .ping [7, 9]], .failed (.ktp .wrongMagic)) := by
  refine ⟨(streamCodec_decodes_whole 16 64).1 _ ⟨rfl, rfl, trivial⟩ ?_, by decide +kernel⟩
  intro f h
  cases h

end KeliAgent
