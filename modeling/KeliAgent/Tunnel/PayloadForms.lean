import KeliAgent.Lib.Format
import KeliAgent.Lib.Utf8
import KeliAgent.Tunnel.Payload

/-!
# Forms of session payloads

* `appends_writeString`; `reads_readString`, `exact_readString` and the same for integers: every
  field has one form, which its reader recovers and which is all that it accepts.
* `reads_string`: reading a string, for any readers of its length and its bytes.
* **`session_payloads_canonical`**: the decoders and the encoders of all three payloads are inverse
  to each other.
-/

namespace KeliAgent

open Wire

/-! ## Forms of the fields -/

/-- The form of a string: the number of its bytes, and the bytes. -/
def stringForm (value : String) : List UInt8 := toBe 2 value.utf8ByteSize ++ value.toUTF8.toList

/-- The number of bytes of the string fits into two bytes. -/
def StringFits (value : String) : Prop := value.utf8ByteSize < 2 ^ 16

theorem appends_writeString (field : String) :
    Appends (fun bytes value => writeString bytes field value) stringForm StringFits := by
  refine ⟨fun output value h => ?_, fun output value h => ?_⟩
  · rw [stringForm, ← List.append_assoc]
    exact if_pos h
  · exact ⟨.stringTooLong field, if_neg h⟩

namespace PayloadCursor

/-- What the cursor has not read yet. -/
def unread (cursor : PayloadCursor) : List UInt8 := cursor.bytes.drop cursor.offset

/-- The cursor stands inside its bytes or at their end. -/
def Sound (cursor : PayloadCursor) : Prop := cursor.offset ≤ cursor.bytes.length

theorem length_unread (cursor : PayloadCursor) :
    cursor.unread.length = cursor.bytes.length - cursor.offset := List.length_drop

theorem sound_new (bytes : List UInt8) : (new bytes).Sound := Nat.zero_le _

theorem unread_new (bytes : List UInt8) : (new bytes).unread = bytes := List.drop_zero

/-- **A read takes a range that lies in the bytes, or fails.** -/
theorem readBytes_eq_range? (cursor : PayloadCursor) (field : String) (len : ℕ) :
    cursor.readBytes field len =
      match range? cursor.bytes cursor.offset (cursor.offset + len) with
      | none => .error (.truncated field)
      | some bytes => .ok (bytes, { cursor with offset := cursor.offset + len }) := by
  unfold readBytes range?
  by_cases h : cursor.bytes.length < cursor.offset + len
  · rw [if_pos h, if_neg (by omega)]
  · rw [if_neg h, if_pos ⟨Nat.le_add_right _ _, not_lt.mp h⟩]

theorem reads_readBytes (field : String) (len : ℕ) :
    Reads unread Sound (readBytes · field len) id (·.length = len) := by
  rintro cursor bytes rest hsound rfl hunread
  have hdrop : cursor.bytes.drop cursor.offset = bytes ++ rest := hunread
  have hlen := congrArg List.length hunread
  rw [length_unread, List.length_append, id_eq] at hlen
  have hend : cursor.offset + bytes.length ≤ cursor.bytes.length := by
    unfold Sound at hsound
    omega
  refine ⟨{ cursor with offset := cursor.offset + bytes.length }, ?_, hend, ?_⟩
  · show cursor.readBytes field bytes.length = _
    rw [readBytes, if_neg (not_lt.mpr hend), slice_eq_of_drop_eq hdrop]
  · show cursor.bytes.drop (cursor.offset + bytes.length) = rest
    rw [← List.drop_drop, hdrop, List.drop_left]

theorem exact_readBytes (field : String) (len : ℕ) :
    Exact unread Sound (readBytes · field len) id (·.length = len) := by
  intro cursor bytes cursor' _ hread
  simp only [readBytes] at hread
  split_ifs at hread with hlen
  cases hread
  refine ⟨?_, not_lt.mp hlen, (slice_append_drop cursor.bytes (Nat.le_add_right _ _)).symm⟩
  show (slice _ _ _).length = len
  rw [length_slice]
  omega

theorem reads_readU64 (field : String) :
    Reads unread Sound (readU64 · field) (fun value => toBe 8 value.toNat) fun _ => True :=
  (reads_readBytes field 8).map (fun bytes => UInt64.ofNat (ofBe bytes))
    (fun value => toBe 8 value.toNat) fun value _ =>
      ⟨length_toBe _ _, u64_ofBe_toBe value⟩

theorem exact_readU64 (field : String) :
    Exact unread Sound (readU64 · field) (fun value => toBe 8 value.toNat) fun _ => True :=
  (exact_readBytes field 8).map (fun bytes => UInt64.ofNat (ofBe bytes))
    (fun value => toBe 8 value.toNat) fun _ hlen =>
      ⟨trivial, toBe_u64_ofBe hlen⟩

theorem reads_readU16 (field : String) :
    Reads unread Sound (readU16 · field) (fun value => toBe 2 value.toNat) fun _ => True :=
  (reads_readBytes field 2).map (fun bytes => UInt16.ofNat (ofBe bytes))
    (fun value => toBe 2 value.toNat) fun value _ =>
      ⟨length_toBe _ _, u16_ofBe_toBe value⟩

theorem exact_readU16 (field : String) :
    Exact unread Sound (readU16 · field) (fun value => toBe 2 value.toNat) fun _ => True :=
  (exact_readBytes field 2).map (fun bytes => UInt16.ofNat (ofBe bytes))
    (fun value => toBe 2 value.toNat) fun _ hlen =>
      ⟨trivial, toBe_u16_ofBe hlen⟩

theorem toNat_u16_ofNat {n : ℕ} (h : n < 2 ^ 16) : (UInt16.ofNat n).toNat = n := by
  rw [UInt16.toNat_ofNat', Nat.mod_eq_of_lt h]

/-- **A string is read by its length and its bytes**, with whatever errors. -/
theorem reads_string {ε : Type} (invalidUtf8 : ε)
    {lengthReader : PayloadCursor → Except ε (UInt16 × PayloadCursor)}
    {bytesReader : PayloadCursor → ℕ → Except ε (List UInt8 × PayloadCursor)}
    (hlength : Reads unread Sound lengthReader (fun value => toBe 2 value.toNat) fun _ => True)
    (hbytes : ∀ len, Reads unread Sound (bytesReader · len) id (·.length = len)) :
    Reads unread Sound (fun cursor => do
        let (len, cursor) ← lengthReader cursor
        let (bytes, cursor) ← bytesReader cursor len.toNat
        match String.fromUTF8? ⟨bytes.toArray⟩ with
        | some value => return (value, cursor)
        | none => throw invalidUtf8)
      stringForm StringFits := by
  intro cursor value rest hsound hfits hunread
  have hlen := toNat_u16_ofNat hfits
  rw [stringForm, List.append_assoc, ← hlen] at hunread
  obtain ⟨cursor₁, hread₁, hsound₁, hunread₁⟩ := hlength hsound trivial hunread
  obtain ⟨cursor₂, hread₂, hsound₂, hunread₂⟩ := hbytes value.utf8ByteSize hsound₁
    (Text.length_toUTF8 value) hunread₁
  refine ⟨cursor₂, ?_, hsound₂, hunread₂⟩
  simp only [hread₁, hread₂, hlen, ok_bind, Text.fromUTF8?_eq_some_iff.mpr rfl]
  rfl

theorem reads_readString (field : String) :
    Reads unread Sound (readString · field) stringForm StringFits :=
  reads_string (TunnelSessionPayloadError.invalidUtf8 field) (reads_readU16 field)
    (reads_readBytes field)

theorem exact_readString (field : String) :
    Exact unread Sound (readString · field) stringForm StringFits := by
  intro cursor value cursor' hsound hread
  obtain ⟨⟨len, cursor₁⟩, hread₁, hread⟩ := bind_eq_ok hread
  obtain ⟨⟨bytes, cursor₂⟩, hread₂, hread⟩ := bind_eq_ok hread
  obtain ⟨-, hsound₁, hunread₁⟩ := exact_readU16 field hsound hread₁
  obtain ⟨hlen, hsound₂, hunread₂⟩ := exact_readBytes field len.toNat hsound₁ hread₂
  simp only at hread
  split at hread
  · rename_i value' hvalue
    cases hread
    obtain rfl := Text.fromUTF8?_eq_some_iff.mp hvalue
    rw [Text.length_toUTF8] at hlen
    refine ⟨?_, hsound₂, ?_⟩
    · rw [StringFits, hlen]
      exact len.toNat_lt
    · rw [stringForm, hlen, List.append_assoc, hunread₁, hunread₂]
      rfl
  · cases hread

theorem expectEnd_eq_ok_iff {cursor : PayloadCursor} :
    cursor.expectEnd = .ok () ↔ cursor.unread = [] := by
  rw [← List.length_eq_zero_iff, length_unread, expectEnd]
  split_ifs with h
  · exact ⟨nofun, fun h' => absurd h' h⟩
  · exact ⟨fun _ => not_not.mp h, fun _ => rfl⟩

end PayloadCursor

/-! ## Payloads -/

section Payloads

open PayloadCursor

def TunnelSessionOpenPayload.form (payload : TunnelSessionOpenPayload) : List UInt8 :=
  toBe 8 payload.ruleId.toNat ++ (stringForm payload.listenHost ++
    (toBe 2 payload.listenPort.toNat ++ stringForm payload.sourceAddr))

def TunnelSessionOpenPayload.Fits (payload : TunnelSessionOpenPayload) : Prop :=
  StringFits payload.listenHost ∧ StringFits payload.sourceAddr

def TunnelSessionErrorPayload.form (payload : TunnelSessionErrorPayload) : List UInt8 :=
  toBe 8 payload.ruleId.toNat ++ (stringForm payload.code ++ stringForm payload.message)

def TunnelSessionErrorPayload.Fits (payload : TunnelSessionErrorPayload) : Prop :=
  StringFits payload.code ∧ StringFits payload.message

theorem appends_openPayload :
    Appends (fun output (payload : TunnelSessionOpenPayload) => do
        let output ← .ok (output ++ toBe 8 payload.ruleId.toNat)
        let output ← writeString output "listen_host" payload.listenHost
        let output ← .ok (output ++ toBe 2 payload.listenPort.toNat)
        writeString output "source_addr" payload.sourceAddr)
      TunnelSessionOpenPayload.form TunnelSessionOpenPayload.Fits := by
  have h := (Appends.always fun payload : TunnelSessionOpenPayload =>
      toBe 8 payload.ruleId.toNat).comp
    (((appends_writeString "listen_host").part TunnelSessionOpenPayload.listenHost).comp
      ((Appends.always fun payload : TunnelSessionOpenPayload =>
          toBe 2 payload.listenPort.toNat).comp
        ((appends_writeString "source_addr").part TunnelSessionOpenPayload.sourceAddr)))
  refine h.congr fun payload => ?_
  rw [true_and, true_and, TunnelSessionOpenPayload.Fits]

theorem appends_errorPayload :
    Appends (fun output (payload : TunnelSessionErrorPayload) => do
        let output ← .ok (output ++ toBe 8 payload.ruleId.toNat)
        let output ← writeString output "code" payload.code
        writeString output "message" payload.message)
      TunnelSessionErrorPayload.form TunnelSessionErrorPayload.Fits := by
  have h := (Appends.always fun payload : TunnelSessionErrorPayload =>
      toBe 8 payload.ruleId.toNat).comp
    (((appends_writeString "code").part TunnelSessionErrorPayload.code).comp
      ((appends_writeString "message").part TunnelSessionErrorPayload.message))
  exact h.congr fun payload => (true_and payload.Fits).symm.to_iff

theorem decodeSessionOpenPayload_form {payload : TunnelSessionOpenPayload} (h : payload.Fits) :
    decodeSessionOpenPayload payload.form = .ok payload := by
  obtain ⟨hhost, haddr⟩ := h
  obtain ⟨c₁, hread₁, hs₁, hu₁⟩ := reads_readU64 "rule_id" (a := payload.ruleId) (sound_new _)
    trivial (unread_new payload.form)
  obtain ⟨c₂, hread₂, hs₂, hu₂⟩ := reads_readString "listen_host" hs₁ hhost hu₁
  obtain ⟨c₃, hread₃, hs₃, hu₃⟩ := reads_readU16 "listen_port" (a := payload.listenPort) hs₂ trivial
    hu₂
  obtain ⟨c₄, hread₄, -, hu₄⟩ := reads_readString "source_addr" hs₃ haddr
    (hu₃.trans (List.append_nil _).symm)
  simp only [decodeSessionOpenPayload, hread₁, hread₂, hread₃, hread₄, ok_bind,
    expectEnd_eq_ok_iff.mpr hu₄]
  rfl

theorem eq_form_of_decodeSessionOpenPayload {bytes : List UInt8}
    {payload : TunnelSessionOpenPayload} (h : decodeSessionOpenPayload bytes = .ok payload) :
    payload.Fits ∧ bytes = payload.form := by
  obtain ⟨⟨ruleId, c₁⟩, hread₁, h⟩ := bind_eq_ok h
  obtain ⟨⟨listenHost, c₂⟩, hread₂, h⟩ := bind_eq_ok h
  obtain ⟨⟨listenPort, c₃⟩, hread₃, h⟩ := bind_eq_ok h
  obtain ⟨⟨sourceAddr, c₄⟩, hread₄, h⟩ := bind_eq_ok h
  obtain ⟨⟨⟩, hend, h⟩ := bind_eq_ok h
  cases h
  obtain ⟨-, hs₁, hu₁⟩ := exact_readU64 _ (sound_new _) hread₁
  obtain ⟨hhost, hs₂, hu₂⟩ := exact_readString _ hs₁ hread₂
  obtain ⟨-, hs₃, hu₃⟩ := exact_readU16 _ hs₂ hread₃
  obtain ⟨haddr, hs₄, hu₄⟩ := exact_readString _ hs₃ hread₄
  refine ⟨⟨hhost, haddr⟩, ?_⟩
  rw [unread_new, hu₂, hu₃, hu₄, expectEnd_eq_ok_iff.mp hend, List.append_nil] at hu₁
  exact hu₁

theorem decodeSessionAcceptPayload_form (ruleId : UInt64) :
    decodeSessionAcceptPayload (toBe 8 ruleId.toNat) = .ok ruleId := by
  obtain ⟨c₁, hread₁, -, hu₁⟩ := reads_readU64 "rule_id" (a := ruleId) (sound_new _) trivial
    ((unread_new _).trans (List.append_nil _).symm)
  simp only [decodeSessionAcceptPayload, hread₁, ok_bind, expectEnd_eq_ok_iff.mpr hu₁]
  rfl

theorem eq_form_of_decodeSessionAcceptPayload {bytes : List UInt8} {ruleId : UInt64}
    (h : decodeSessionAcceptPayload bytes = .ok ruleId) : bytes = toBe 8 ruleId.toNat := by
  obtain ⟨⟨ruleId, c₁⟩, hread₁, h⟩ := bind_eq_ok h
  obtain ⟨⟨⟩, hend, h⟩ := bind_eq_ok h
  cases h
  obtain ⟨-, -, hu₁⟩ := exact_readU64 _ (sound_new _) hread₁
  rwa [unread_new, expectEnd_eq_ok_iff.mp hend, List.append_nil] at hu₁

theorem decodeSessionErrorPayload_form {payload : TunnelSessionErrorPayload} (h : payload.Fits) :
    decodeSessionErrorPayload payload.form = .ok payload := by
  obtain ⟨hcode, hmessage⟩ := h
  obtain ⟨c₁, hread₁, hs₁, hu₁⟩ := reads_readU64 "rule_id" (a := payload.ruleId) (sound_new _)
    trivial (unread_new payload.form)
  obtain ⟨c₂, hread₂, hs₂, hu₂⟩ := reads_readString "code" hs₁ hcode hu₁
  obtain ⟨c₃, hread₃, -, hu₃⟩ := reads_readString "message" hs₂ hmessage
    (hu₂.trans (List.append_nil _).symm)
  simp only [decodeSessionErrorPayload, hread₁, hread₂, hread₃, ok_bind,
    expectEnd_eq_ok_iff.mpr hu₃]
  rfl

theorem eq_form_of_decodeSessionErrorPayload {bytes : List UInt8}
    {payload : TunnelSessionErrorPayload} (h : decodeSessionErrorPayload bytes = .ok payload) :
    payload.Fits ∧ bytes = payload.form := by
  obtain ⟨⟨ruleId, c₁⟩, hread₁, h⟩ := bind_eq_ok h
  obtain ⟨⟨code, c₂⟩, hread₂, h⟩ := bind_eq_ok h
  obtain ⟨⟨message, c₃⟩, hread₃, h⟩ := bind_eq_ok h
  obtain ⟨⟨⟩, hend, h⟩ := bind_eq_ok h
  cases h
  obtain ⟨-, hs₁, hu₁⟩ := exact_readU64 _ (sound_new _) hread₁
  obtain ⟨hcode, hs₂, hu₂⟩ := exact_readString _ hs₁ hread₂
  obtain ⟨hmessage, hs₃, hu₃⟩ := exact_readString _ hs₂ hread₃
  refine ⟨⟨hcode, hmessage⟩, ?_⟩
  rw [unread_new, hu₂, hu₃, expectEnd_eq_ok_iff.mp hend, List.append_nil] at hu₁
  exact hu₁

/-- **The payloads have one encoding each.** An encoder fails exactly on a string of more than 65535
bytes; the bytes that decode to a payload are those that encode it; and a read either takes a range
that lies in the bytes or fails. -/
theorem session_payloads_canonical :
    (∀ payload : TunnelSessionOpenPayload,
      (∃ error, encodeSessionOpenPayload payload = .error error) ↔
        65535 < payload.listenHost.utf8ByteSize ∨ 65535 < payload.sourceAddr.utf8ByteSize) ∧
    (∀ payload : TunnelSessionErrorPayload,
      (∃ error, encodeSessionErrorPayload payload = .error error) ↔
        65535 < payload.code.utf8ByteSize ∨ 65535 < payload.message.utf8ByteSize) ∧
    (∀ payload bytes, decodeSessionOpenPayload bytes = .ok payload ↔
      encodeSessionOpenPayload payload = .ok bytes) ∧
    (∀ ruleId bytes, decodeSessionAcceptPayload bytes = .ok ruleId ↔
      encodeSessionAcceptPayload ruleId = bytes) ∧
    (∀ payload bytes, decodeSessionErrorPayload bytes = .ok payload ↔
      encodeSessionErrorPayload payload = .ok bytes) ∧
    ∀ (cursor : PayloadCursor) (field : String) (len : ℕ), cursor.readBytes field len =
      match range? cursor.bytes cursor.offset (cursor.offset + len) with
      | none => .error (.truncated field)
      | some bytes => .ok (bytes, { cursor with offset := cursor.offset + len }) := by
  have hfits : ∀ s : String, StringFits s ↔ ¬ 65535 < s.utf8ByteSize := by
    intro s
    rw [StringFits]
    omega
  refine ⟨fun payload => ?_, fun payload => ?_, fun payload bytes => ⟨fun h => ?_, fun h => ?_⟩,
    fun ruleId bytes => ⟨fun h => ?_, fun h => ?_⟩, fun payload bytes => ⟨fun h => ?_, fun h => ?_⟩,
    readBytes_eq_range?⟩
  · refine (appends_openPayload.error_iff [] payload).trans ?_
    rw [TunnelSessionOpenPayload.Fits, hfits, hfits]
    tauto
  · refine (appends_errorPayload.error_iff [] payload).trans ?_
    rw [TunnelSessionErrorPayload.Fits, hfits, hfits]
    tauto
  · obtain ⟨hpayload, rfl⟩ := eq_form_of_decodeSessionOpenPayload h
    exact appends_openPayload.ok [] hpayload
  · obtain ⟨hpayload, rfl⟩ := appends_openPayload.eq_of_ok [] (a := payload) h
    exact decodeSessionOpenPayload_form hpayload
  · exact (eq_form_of_decodeSessionAcceptPayload h).symm
  · subst h
    exact decodeSessionAcceptPayload_form ruleId
  · obtain ⟨hpayload, rfl⟩ := eq_form_of_decodeSessionErrorPayload h
    exact appends_errorPayload.ok [] hpayload
  · obtain ⟨hpayload, rfl⟩ := appends_errorPayload.eq_of_ok [] (a := payload) h
    exact decodeSessionErrorPayload_form hpayload

end Payloads

end KeliAgent
