import KeliAgent.Lib.Bytes

/-!
# KTP frames

The frame format of `ktp.rs`: a header of 24 bytes (magic, version, type, leg, flags, session id,
payload length, reserved) and the payload.

* `appendFrameBytes`, `encodeFrame`, `decodeFrame`, `validateFrame`;
* `decodeFrame_eq`: the decoder in two phases, `frameHeader` and `framePayload`;
* **`decodeFrame_frameBytes`**: an accepted frame is decoded back from its bytes;
* **`frameBytes_of_decodeFrame`**: a decoded frame is accepted, and its bytes are what was read;
* **`decodeFrame_iff_encodeFrame`**: the two together, the decoder in terms of the encoder.
-/

namespace KeliAgent

open Wire

/-- `KTP_MAGIC`, the bytes of `KTP1`. -/
def ktpMagic : List UInt8 := [0x4B, 0x54, 0x50, 0x31]

def ktpVersion : UInt8 := 1

def ktpHeaderLen : ℕ := 24

def ktpMaxPayloadLen : ℕ := 1024 * 1024

inductive FrameType where
  | hello | helloAck | ready | sessionOpen | sessionAccept | sessionData | sessionWindow
  | sessionClose | sessionError | ping | pong | stats
  deriving DecidableEq, Repr

inductive FrameLeg where
  | connection | ingress | egress
  deriving DecidableEq, Repr

structure KtpFrame where
  frameType : FrameType
  leg : FrameLeg
  flags : UInt8
  sessionId : UInt64
  payload : List UInt8
  deriving DecidableEq, Repr

inductive KtpError where
  | wrongMagic
  | unsupportedVersion (version : UInt8)
  | unknownFrameType (frameType : UInt8)
  | invalidLeg (leg : UInt8)
  | invalidSessionId
  | truncatedHeader
  | truncatedPayload
  | payloadTooLarge (size : ℕ)
  | reservedNonZero (value : ℕ)
  deriving DecidableEq, Repr

/-- The two lower-case hexadecimal digits of a byte, as `{:#04x}` prints it. -/
def hexByte (b : UInt8) : String :=
  String.ofList ['0', 'x', Nat.digitChar (b.toNat / 16), Nat.digitChar (b.toNat % 16)]

/-- The `Display` text of an error. -/
def KtpError.display : KtpError → String
  | .wrongMagic => "wrong KTP magic"
  | .unsupportedVersion version => "unsupported KTP version " ++ toString version.toNat
  | .unknownFrameType frameType => "unknown KTP frame type " ++ hexByte frameType
  | .invalidLeg leg => "invalid KTP frame leg " ++ toString leg.toNat
  | .invalidSessionId => "invalid KTP session id"
  | .truncatedHeader => "truncated KTP header"
  | .truncatedPayload => "truncated KTP payload"
  | .payloadTooLarge size => "KTP payload too large: " ++ toString size ++ " bytes"
  | .reservedNonZero value => "KTP reserved header field is non-zero: " ++ toString value

/-- The discriminant of a frame type (`frame_type as u8`). -/
def FrameType.toU8 : FrameType → UInt8
  | .hello => 0x01
  | .helloAck => 0x02
  | .ready => 0x03
  | .sessionOpen => 0x10
  | .sessionAccept => 0x11
  | .sessionData => 0x12
  | .sessionWindow => 0x13
  | .sessionClose => 0x14
  | .sessionError => 0x15
  | .ping => 0x20
  | .pong => 0x21
  | .stats => 0x30

def FrameType.fromU8 (value : UInt8) : Except KtpError FrameType :=
  match value with
  | 0x01 => .ok .hello
  | 0x02 => .ok .helloAck
  | 0x03 => .ok .ready
  | 0x10 => .ok .sessionOpen
  | 0x11 => .ok .sessionAccept
  | 0x12 => .ok .sessionData
  | 0x13 => .ok .sessionWindow
  | 0x14 => .ok .sessionClose
  | 0x15 => .ok .sessionError
  | 0x20 => .ok .ping
  | 0x21 => .ok .pong
  | 0x30 => .ok .stats
  | other => .error (.unknownFrameType other)

def FrameType.isConnectionLevel : FrameType → Bool
  | .hello | .helloAck | .ready | .ping | .pong | .stats => true
  | _ => false

/-- The discriminant of a leg (`leg as u8`). -/
def FrameLeg.toU8 : FrameLeg → UInt8
  | .connection => 0
  | .ingress => 1
  | .egress => 2

def FrameLeg.fromU8 (value : UInt8) : Except KtpError FrameLeg :=
  match value with
  | 0 => .ok .connection
  | 1 => .ok .ingress
  | 2 => .ok .egress
  | other => .error (.invalidLeg other)

@[simp] theorem FrameType.fromU8_toU8 (t : FrameType) : FrameType.fromU8 t.toU8 = .ok t := by
  cases t <;> rfl

@[simp] theorem FrameLeg.fromU8_toU8 (l : FrameLeg) : FrameLeg.fromU8 l.toU8 = .ok l := by
  cases l <;> rfl

theorem FrameType.toU8_of_fromU8 {b : UInt8} {t : FrameType} (h : FrameType.fromU8 b = .ok t) :
    t.toU8 = b := by
  unfold FrameType.fromU8 at h
  split at h <;> cases h <;> rfl

theorem FrameLeg.toU8_of_fromU8 {b : UInt8} {l : FrameLeg} (h : FrameLeg.fromU8 b = .ok l) :
    l.toU8 = b := by
  unfold FrameLeg.fromU8 at h
  split at h <;> cases h <;> rfl

/-- `KtpFrame::connection`: a frame of the connection itself. -/
def KtpFrame.connection (frameType : FrameType) (payload : List UInt8) : KtpFrame where
  frameType := frameType
  leg := .connection
  flags := 0
  sessionId := 0
  payload := payload

def validateFrame (frame : KtpFrame) : Except KtpError Unit :=
  if frame.frameType.isConnectionLevel then
    if frame.leg ≠ .connection then .error (.invalidLeg frame.leg.toU8)
    else if frame.sessionId ≠ 0 then .error .invalidSessionId
    else .ok ()
  else
    if frame.leg = .connection then .error (.invalidLeg frame.leg.toU8)
    else if frame.sessionId = 0 then .error .invalidSessionId
    else .ok ()

/-- The bytes of a frame: header, then payload. -/
def frameBytes (frame : KtpFrame) : List UInt8 :=
  ktpMagic ++ [ktpVersion, frame.frameType.toU8, frame.leg.toU8, frame.flags] ++
    toBe 8 frame.sessionId.toNat ++ toBe 4 frame.payload.length ++ toBe 4 0 ++ frame.payload

/-- `append_frame_bytes`: the result, and the output buffer after the call. A refused frame leaves
the buffer as it was. -/
def appendFrameBytes (frame : KtpFrame) (bytes : List UInt8) :
    Except KtpError Unit × List UInt8 :=
  match validateFrame frame with
  | .error error => (.error error, bytes)
  | .ok () =>
    if ktpMaxPayloadLen < frame.payload.length then
      (.error (.payloadTooLarge frame.payload.length), bytes)
    else (.ok (), bytes ++ frameBytes frame)

def encodeFrameInto (frame : KtpFrame) (_bytes : List UInt8) : Except KtpError Unit × List UInt8 :=
  appendFrameBytes frame []

def encodeFrame (frame : KtpFrame) : Except KtpError (List UInt8) :=
  match encodeFrameInto frame [] with
  | (.error error, _) => .error error
  | (.ok (), bytes) => .ok bytes

def decodeFrame (bytes : List UInt8) (maxPayloadLen : ℕ) : Except KtpError KtpFrame :=
  let effectiveMaxPayloadLen := min maxPayloadLen ktpMaxPayloadLen
  if bytes.length < ktpHeaderLen then .error .truncatedHeader
  else if slice bytes 0 4 ≠ ktpMagic then .error .wrongMagic
  else if bytes.getD 4 0 ≠ ktpVersion then .error (.unsupportedVersion (bytes.getD 4 0))
  else match FrameType.fromU8 (bytes.getD 5 0) with
  | .error error => .error error
  | .ok frameType => match FrameLeg.fromU8 (bytes.getD 6 0) with
  | .error error => .error error
  | .ok leg =>
    let sessionId := UInt64.ofNat (ofBe (slice bytes 8 16))
    let payloadLen := ofBe (slice bytes 16 20)
    let reserved := ofBe (slice bytes 20 24)
    if reserved ≠ 0 then .error (.reservedNonZero reserved)
    else if effectiveMaxPayloadLen < payloadLen then .error (.payloadTooLarge payloadLen)
    else if bytes.length < ktpHeaderLen + payloadLen then .error .truncatedPayload
    else
      let frame : KtpFrame :=
        { frameType, leg, flags := bytes.getD 7 0, sessionId,
          payload := slice bytes ktpHeaderLen (ktpHeaderLen + payloadLen) }
      match validateFrame frame with
      | .error error => .error error
      | .ok () => .ok frame

/-- A frame the encoder accepts. -/
def KtpFrame.Accepted (frame : KtpFrame) : Prop :=
  validateFrame frame = .ok () ∧ frame.payload.length ≤ ktpMaxPayloadLen

instance (frame : KtpFrame) : Decidable frame.Accepted :=
  inferInstanceAs (Decidable (validateFrame frame = .ok () ∧ _))

/-! ## The encoder -/

theorem length_frameBytes (frame : KtpFrame) :
    (frameBytes frame).length = ktpHeaderLen + frame.payload.length := by
  simp only [frameBytes, ktpMagic, ktpHeaderLen, List.length_append, List.length_cons,
    List.length_nil, length_toBe]

theorem appendFrameBytes_of_accepted {frame : KtpFrame} (h : frame.Accepted)
    (bytes : List UInt8) : appendFrameBytes frame bytes = (.ok (), bytes ++ frameBytes frame) := by
  rw [appendFrameBytes, h.1]
  exact if_neg (Nat.not_lt.mpr h.2)

/-- **A refused frame is not written.** -/
theorem appendFrameBytes_of_not_accepted {frame : KtpFrame} (h : ¬ frame.Accepted) :
    ∃ error, ∀ bytes, appendFrameBytes frame bytes = (.error error, bytes) := by
  unfold appendFrameBytes
  cases hv : validateFrame frame with
  | error error => exact ⟨error, fun _ => rfl⟩
  | ok u =>
    have hlt : ktpMaxPayloadLen < frame.payload.length := by
      by_contra hc
      exact h ⟨hv, Nat.not_lt.mp hc⟩
    exact ⟨_, fun _ => if_pos hlt⟩

theorem encodeFrame_of_accepted {frame : KtpFrame} (h : frame.Accepted) :
    encodeFrame frame = .ok (frameBytes frame) := by
  rw [encodeFrame, encodeFrameInto, appendFrameBytes_of_accepted h, List.nil_append]

/-- **The encoder writes exactly the accepted frames.** -/
theorem encodeFrame_eq_ok {frame : KtpFrame} {bytes : List UInt8} :
    encodeFrame frame = .ok bytes ↔ frame.Accepted ∧ bytes = frameBytes frame := by
  constructor
  · intro h
    by_cases hf : frame.Accepted
    · rw [encodeFrame_of_accepted hf] at h
      exact ⟨hf, (Except.ok.inj h).symm⟩
    · obtain ⟨error, he⟩ := appendFrameBytes_of_not_accepted hf
      rw [encodeFrame, encodeFrameInto, he] at h
      cases h
  · rintro ⟨hf, rfl⟩
    exact encodeFrame_of_accepted hf

/-! ## The decoder in two phases -/

/-- The fields of a header. -/
structure FrameHeader where
  frameType : FrameType
  leg : FrameLeg
  flags : UInt8
  sessionId : UInt64
  payloadLen : ℕ

/-- The frame with a given header and payload. -/
def FrameHeader.frame (h : FrameHeader) (payload : List UInt8) : KtpFrame where
  frameType := h.frameType
  leg := h.leg
  flags := h.flags
  sessionId := h.sessionId
  payload := payload

/-- The part of `decodeFrame` that only reads the header. -/
def frameHeader (bytes : List UInt8) (maxPayloadLen : ℕ) : Except KtpError FrameHeader :=
  if bytes.length < ktpHeaderLen then .error .truncatedHeader
  else if slice bytes 0 4 ≠ ktpMagic then .error .wrongMagic
  else if bytes.getD 4 0 ≠ ktpVersion then .error (.unsupportedVersion (bytes.getD 4 0))
  else match FrameType.fromU8 (bytes.getD 5 0) with
  | .error error => .error error
  | .ok frameType => match FrameLeg.fromU8 (bytes.getD 6 0) with
  | .error error => .error error
  | .ok leg =>
    if ofBe (slice bytes 20 24) ≠ 0 then .error (.reservedNonZero (ofBe (slice bytes 20 24)))
    else if min maxPayloadLen ktpMaxPayloadLen < ofBe (slice bytes 16 20) then
      .error (.payloadTooLarge (ofBe (slice bytes 16 20)))
    else .ok
      { frameType, leg, flags := bytes.getD 7 0,
        sessionId := UInt64.ofNat (ofBe (slice bytes 8 16)), payloadLen := ofBe (slice bytes 16 20) }

/-- The part of `decodeFrame` that reads the payload. -/
def framePayload (h : FrameHeader) (bytes : List UInt8) : Except KtpError KtpFrame :=
  if bytes.length < ktpHeaderLen + h.payloadLen then .error .truncatedPayload
  else match validateFrame (h.frame (slice bytes ktpHeaderLen (ktpHeaderLen + h.payloadLen))) with
  | .error error => .error error
  | .ok () => .ok (h.frame (slice bytes ktpHeaderLen (ktpHeaderLen + h.payloadLen)))

theorem decodeFrame_eq (bytes : List UInt8) (m : ℕ) : decodeFrame bytes m =
    match frameHeader bytes m with
    | .error error => .error error
    | .ok h => framePayload h bytes := by
  simp only [decodeFrame, frameHeader]
  cases FrameType.fromU8 (bytes.getD 5 0) with
  | error error => simp only; split_ifs <;> rfl
  | ok frameType =>
    cases FrameLeg.fromU8 (bytes.getD 6 0) with
    | error error => simp only; split_ifs <;> rfl
    | ok leg =>
      simp only
      split_ifs with h₁ h₂ h₃ h₄ h₅ h₆
      · rfl
      · rfl
      · rfl
      · rfl
      · rfl
      · exact (if_pos h₆).symm
      · exact (if_neg h₆).symm

theorem frameHeader_append {bs : List UInt8} (h : ktpHeaderLen ≤ bs.length) (cs : List UInt8)
    (m : ℕ) : frameHeader (bs ++ cs) m = frameHeader bs m := by
  have hl : ¬ (bs ++ cs).length < ktpHeaderLen := by rw [List.length_append]; omega
  have h24 : 24 ≤ bs.length := h
  unfold frameHeader
  rw [if_neg hl, if_neg (Nat.not_lt.mpr h)]
  simp only [slice_append bs cs (show 4 ≤ bs.length by omega),
    slice_append bs cs (show 16 ≤ bs.length by omega),
    slice_append bs cs (show 20 ≤ bs.length by omega), slice_append bs cs h24,
    getD_append_left bs cs _ (show 4 < bs.length by omega),
    getD_append_left bs cs _ (show 5 < bs.length by omega),
    getD_append_left bs cs _ (show 6 < bs.length by omega),
    getD_append_left bs cs _ (show 7 < bs.length by omega)]

theorem frameHeader_ok {bs : List UInt8} {m : ℕ} {h : FrameHeader} (hh : frameHeader bs m = .ok h) :
    ktpHeaderLen ≤ bs.length ∧ h.payloadLen = ofBe (slice bs 16 20) ∧
      h.payloadLen ≤ min m ktpMaxPayloadLen := by
  unfold frameHeader at hh
  cases ht : FrameType.fromU8 (bs.getD 5 0) with
  | error error => simp only [ht] at hh; split_ifs at hh
  | ok frameType =>
    cases hg : FrameLeg.fromU8 (bs.getD 6 0) with
    | error error => simp only [ht, hg] at hh; split_ifs at hh
    | ok leg =>
      simp only [ht, hg] at hh
      split_ifs at hh with h₁ h₂ h₃ h₄ h₅
      cases hh
      exact ⟨Nat.not_lt.mp h₁, rfl, Nat.not_lt.mp h₅⟩

theorem FrameType.fromU8_error {b : UInt8} {e : KtpError} (h : FrameType.fromU8 b = .error e) :
    e = .unknownFrameType b := by
  unfold FrameType.fromU8 at h
  split at h <;> cases h
  rfl

theorem FrameLeg.fromU8_error {b : UInt8} {e : KtpError} (h : FrameLeg.fromU8 b = .error e) :
    e = .invalidLeg b := by
  unfold FrameLeg.fromU8 at h
  split at h <;> cases h
  rfl

/-- The header check never reports a missing payload, and a complete header is not reported as
truncated. -/
theorem frameHeader_error {bs : List UInt8} {m : ℕ} {e : KtpError}
    (hh : frameHeader bs m = .error e) :
    e ≠ .truncatedPayload ∧ (ktpHeaderLen ≤ bs.length → e ≠ .truncatedHeader) := by
  unfold frameHeader at hh
  cases ht : FrameType.fromU8 (bs.getD 5 0) with
  | error error =>
    have := FrameType.fromU8_error ht
    simp only [ht] at hh
    split_ifs at hh <;> cases hh <;> simp [this]
    omega
  | ok frameType =>
    cases hg : FrameLeg.fromU8 (bs.getD 6 0) with
    | error error =>
      have := FrameLeg.fromU8_error hg
      simp only [ht, hg] at hh
      split_ifs at hh <;> cases hh <;> simp [this]
      omega
    | ok leg =>
      simp only [ht, hg] at hh
      split_ifs at hh <;> cases hh <;> simp
      omega

theorem validateFrame_error {frame : KtpFrame} {e : KtpError}
    (h : validateFrame frame = .error e) : e ≠ .truncatedHeader ∧ e ≠ .truncatedPayload := by
  unfold validateFrame at h
  split_ifs at h <;> cases h <;> simp

/-! ## Decoding encoded frames -/

section Encoded

variable (frame : KtpFrame) (cs : List UInt8)

theorem slice_magic : slice (frameBytes frame ++ cs) 0 4 = ktpMagic := rfl

theorem slice_sessionId :
    slice (frameBytes frame ++ cs) 8 16 = toBe 8 frame.sessionId.toNat := rfl

theorem slice_payloadLen :
    slice (frameBytes frame ++ cs) 16 20 = toBe 4 frame.payload.length := rfl

theorem slice_reserved : slice (frameBytes frame ++ cs) 20 24 = toBe 4 0 := rfl

theorem slice_payload : slice (frameBytes frame ++ cs) ktpHeaderLen
    (ktpHeaderLen + frame.payload.length) = frame.payload := by
  rw [slice, Nat.add_sub_cancel_left]
  exact List.take_left

variable {frame}

theorem ofBe_payloadLen (h : frame.payload.length ≤ ktpMaxPayloadLen) :
    ofBe (toBe 4 frame.payload.length) = frame.payload.length := by
  rw [ofBe_toBe]
  unfold ktpMaxPayloadLen at h
  exact Nat.mod_eq_of_lt (by omega)

/-- The header of an encoded frame. -/
theorem frameHeader_frameBytes (hf : frame.payload.length ≤ ktpMaxPayloadLen) (m : ℕ) :
    frameHeader (frameBytes frame ++ cs) m =
      if min m ktpMaxPayloadLen < frame.payload.length then
        .error (.payloadTooLarge frame.payload.length)
      else .ok ⟨frame.frameType, frame.leg, frame.flags, frame.sessionId, frame.payload.length⟩ := by
  have hl : ¬ (frameBytes frame ++ cs).length < ktpHeaderLen := by
    rw [List.length_append, length_frameBytes]; omega
  have h4 : (frameBytes frame ++ cs).getD 4 0 = ktpVersion := rfl
  have h5 : (frameBytes frame ++ cs).getD 5 0 = frame.frameType.toU8 := rfl
  have h6 : (frameBytes frame ++ cs).getD 6 0 = frame.leg.toU8 := rfl
  have h7 : (frameBytes frame ++ cs).getD 7 0 = frame.flags := rfl
  unfold frameHeader
  rw [if_neg hl, if_neg (not_not.mpr (slice_magic frame cs)), if_neg (not_not.mpr h4), h5, h6, h7,
    slice_sessionId, slice_payloadLen, slice_reserved, ofBe_payloadLen hf, u64_ofBe_toBe]
  simp only [FrameType.fromU8_toU8, FrameLeg.fromU8_toU8]
  exact if_neg (not_not.mpr rfl)

/-- **An accepted frame is decoded back**, whatever follows its bytes. -/
theorem decodeFrame_frameBytes (hf : frame.Accepted) {m : ℕ} (hm : frame.payload.length ≤ m) :
    decodeFrame (frameBytes frame ++ cs) m = .ok frame := by
  have hl : ¬ (frameBytes frame ++ cs).length < ktpHeaderLen + frame.payload.length := by
    rw [List.length_append, length_frameBytes]; omega
  rw [decodeFrame_eq, frameHeader_frameBytes cs hf.2, if_neg (by have := hf.2; omega)]
  simp only [framePayload, if_neg hl, slice_payload, FrameHeader.frame]
  rw [show validateFrame _ = .ok () from hf.1]

/-- Whatever an accepted frame's bytes are decoded to is that frame. -/
theorem eq_of_decodeFrame_frameBytes (hf : frame.Accepted) {m : ℕ} {frame' : KtpFrame}
    (h : decodeFrame (frameBytes frame ++ cs) m = .ok frame') : frame' = frame := by
  rcases Nat.lt_or_ge m frame.payload.length with hm | hm
  · rw [decodeFrame_eq, frameHeader_frameBytes cs hf.2, if_pos (by omega)] at h
    cases h
  · rw [decodeFrame_frameBytes cs hf hm] at h
    exact (Except.ok.inj h).symm

end Encoded

/-! ## Encoding decoded frames -/

/-- The bytes of a header, as the encoder writes them. -/
def FrameHeader.bytes (h : FrameHeader) : List UInt8 :=
  ktpMagic ++ [ktpVersion, h.frameType.toU8, h.leg.toU8, h.flags] ++
    toBe 8 h.sessionId.toNat ++ toBe 4 h.payloadLen ++ toBe 4 0

theorem frameBytes_frame {h : FrameHeader} {payload : List UInt8}
    (hp : payload.length = h.payloadLen) : frameBytes (h.frame payload) = h.bytes ++ payload := by
  rw [FrameHeader.bytes, ← hp]
  rfl

theorem toBe_sessionId {bs : List UInt8} (h : 16 ≤ bs.length) :
    toBe 8 (UInt64.ofNat (ofBe (slice bs 8 16))).toNat = slice bs 8 16 := by
  have hlt : ofBe (slice bs 8 16) < 256 ^ 8 := by
    have := ofBe_lt (slice bs 8 16)
    rwa [length_slice, show min (16 - 8) (bs.length - 8) = 8 by omega] at this
  rw [UInt64.toNat_ofNat_of_lt' (by simpa using hlt)]
  exact toBe_ofBe_slice bs rfl h

/-- An accepted header stands at the start of what was read. -/
theorem bytes_of_frameHeader {bs : List UInt8} {m : ℕ} {h : FrameHeader}
    (hh : frameHeader bs m = .ok h) : h.bytes ++ bs.drop ktpHeaderLen = bs := by
  unfold frameHeader at hh
  cases ht : FrameType.fromU8 (bs.getD 5 0) with
  | error error => simp only [ht] at hh; split_ifs at hh
  | ok frameType =>
    cases hg : FrameLeg.fromU8 (bs.getD 6 0) with
    | error error => simp only [ht, hg] at hh; split_ifs at hh
    | ok leg =>
      simp only [ht, hg] at hh
      split_ifs at hh with hlen hmagic hversion hreserved hlarge
      cases hh
      have h24 : 24 ≤ bs.length := Nat.not_lt.mp hlen
      have hpayloadLen : toBe 4 (ofBe (slice bs 16 20)) = slice bs 16 20 :=
        toBe_ofBe_slice bs rfl (by omega)
      have hzero : toBe 4 0 = slice bs 20 24 := by
        rw [← not_not.mp hreserved]
        exact toBe_ofBe_slice bs rfl h24
      -- Each field is the slice it was read from; the slices make up the header.
      simp only [FrameHeader.bytes, FrameType.toU8_of_fromU8 ht, FrameLeg.toU8_of_fromU8 hg,
        toBe_sessionId (show 16 ≤ bs.length by omega), hpayloadLen, hzero,
        ← not_not.mp hmagic, ← not_not.mp hversion, List.append_assoc, List.cons_append,
        List.nil_append, ktpHeaderLen]
      rw [slice_append_drop bs (by omega), slice_append_drop bs (by omega),
        slice_append_drop bs (by omega), getD_cons_drop bs 0 (by omega),
        getD_cons_drop bs 0 (by omega), getD_cons_drop bs 0 (by omega),
        getD_cons_drop bs 0 (by omega), slice_append_drop bs (by omega), List.drop_zero]

/-- **A decoded frame is accepted, and its bytes are what was read.** -/
theorem frameBytes_of_decodeFrame {bs : List UInt8} {m : ℕ} {frame : KtpFrame}
    (h : decodeFrame bs m = .ok frame) : frame.Accepted ∧
      frame.payload.length ≤ min m ktpMaxPayloadLen ∧ frameBytes frame <+: bs := by
  rw [decodeFrame_eq] at h
  cases hh : frameHeader bs m with
  | error error => rw [hh] at h; cases h
  | ok header =>
    simp only [hh, framePayload] at h
    obtain ⟨-, -, hmax⟩ := frameHeader_ok hh
    split_ifs at h with hlen
    split at h
    · cases h
    · rename_i hvalid
      cases h
      set payload := slice bs ktpHeaderLen (ktpHeaderLen + header.payloadLen) with hpayload
      have hpl : payload.length = header.payloadLen := by rw [hpayload, length_slice]; omega
      have hmax' : payload.length ≤ min m ktpMaxPayloadLen := hpl ▸ hmax
      refine ⟨⟨hvalid, by simpa [FrameHeader.frame] using hmax'.trans (min_le_right _ _)⟩, hmax',
        bs.drop (ktpHeaderLen + header.payloadLen), ?_⟩
      rw [frameBytes_frame hpl, List.append_assoc, slice_append_drop bs (by omega),
        bytes_of_frameHeader hh]

/-- **The frame codec is a bijection.** The decoder returns a frame exactly when the encoder
accepts it, its payload is within both limits, and its encoding is at the start of the input. So
decoding undoes encoding, encoding a decoded frame gives back the bytes it was read from, and
different frames have different encodings. -/
theorem decodeFrame_iff_encodeFrame :
    (∀ bytes m frame, decodeFrame bytes m = .ok frame ↔
      ∃ encoded, encodeFrame frame = .ok encoded ∧
        frame.payload.length ≤ min m ktpMaxPayloadLen ∧ encoded <+: bytes) ∧
    (∀ frame encoded m, encodeFrame frame = .ok encoded → frame.payload.length ≤ m →
      decodeFrame encoded m = .ok frame) ∧
    (∀ bytes m frame, decodeFrame bytes m = .ok frame →
      encodeFrame frame = .ok (bytes.take (ktpHeaderLen + frame.payload.length))) ∧
    ∀ frame frame' encoded, encodeFrame frame = .ok encoded →
      encodeFrame frame' = .ok encoded → frame = frame' := by
  refine ⟨fun bytes m frame => ⟨fun h => ?_, ?_⟩, ?_, fun bytes m frame h => ?_, ?_⟩
  · obtain ⟨hf, hm, hpre⟩ := frameBytes_of_decodeFrame h
    exact ⟨_, encodeFrame_of_accepted hf, hm, hpre⟩
  · rintro ⟨encoded, he, hm, rest, rfl⟩
    obtain ⟨hf, rfl⟩ := encodeFrame_eq_ok.mp he
    exact decodeFrame_frameBytes rest hf (hm.trans (min_le_left _ _))
  · intro frame encoded m he hm
    obtain ⟨hf, rfl⟩ := encodeFrame_eq_ok.mp he
    simpa using decodeFrame_frameBytes [] hf hm
  · obtain ⟨hf, -, hpre⟩ := frameBytes_of_decodeFrame h
    rw [encodeFrame_of_accepted hf, ← length_frameBytes, ← List.prefix_iff_eq_take.mp hpre]
  · intro frame frame' encoded he he'
    obtain ⟨hf, rfl⟩ := encodeFrame_eq_ok.mp he
    obtain ⟨hf', hb⟩ := encodeFrame_eq_ok.mp he'
    have hd := decodeFrame_frameBytes [] hf le_rfl
    rw [hb] at hd
    exact eq_of_decodeFrame_frameBytes [] hf' hd

end KeliAgent
