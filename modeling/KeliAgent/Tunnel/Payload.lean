import KeliAgent.Lib.Bytes

/-!
# Payloads of tunnel session frames

The encoders and decoders of `tunnel_session.rs`. A session opens with the rule, the listener it
was accepted on and its source address; an accept carries the rule; an error carries the rule, a
code and a message.
-/

namespace KeliAgent

open Wire

structure TunnelSessionOpenPayload where
  ruleId : UInt64
  listenHost : String
  listenPort : UInt16
  sourceAddr : String
  deriving DecidableEq, Repr

structure TunnelSessionErrorPayload where
  ruleId : UInt64
  code : String
  message : String
  deriving DecidableEq, Repr

inductive TunnelSessionPayloadError where
  | truncated (field : String)
  | stringTooLong (field : String)
  | invalidUtf8 (field : String)
  | trailingBytes (count : ℕ)
  deriving DecidableEq, Repr

def TunnelSessionPayloadError.display : TunnelSessionPayloadError → String
  | .truncated field => "truncated tunnel session payload field: " ++ field
  | .stringTooLong field => "tunnel session payload string too long: " ++ field
  | .invalidUtf8 field => "invalid utf-8 tunnel session field: " ++ field
  | .trailingBytes count =>
    "tunnel session payload has " ++ toString count ++ " trailing bytes"

/-! ## Encoding -/

/-- `write_string`: a length of two bytes and the bytes of the string, appended to `bytes`. -/
def writeString (bytes : List UInt8) (field value : String) :
    Except TunnelSessionPayloadError (List UInt8) :=
  if value.utf8ByteSize < 2 ^ 16 then
    .ok (bytes ++ toBe 2 value.utf8ByteSize ++ value.toUTF8.toList)
  else .error (.stringTooLong field)

def encodeSessionOpenPayload (payload : TunnelSessionOpenPayload) :
    Except TunnelSessionPayloadError (List UInt8) := do
  let bytes := toBe 8 payload.ruleId.toNat
  let bytes ← writeString bytes "listen_host" payload.listenHost
  let bytes := bytes ++ toBe 2 payload.listenPort.toNat
  writeString bytes "source_addr" payload.sourceAddr

def encodeSessionAcceptPayload (ruleId : UInt64) : List UInt8 := toBe 8 ruleId.toNat

def encodeSessionErrorPayload (payload : TunnelSessionErrorPayload) :
    Except TunnelSessionPayloadError (List UInt8) := do
  let bytes := toBe 8 payload.ruleId.toNat
  let bytes ← writeString bytes "code" payload.code
  writeString bytes "message" payload.message

/-! ## Decoding -/

structure PayloadCursor where
  bytes : List UInt8
  offset : ℕ
  deriving DecidableEq, Repr

namespace PayloadCursor

def new (bytes : List UInt8) : PayloadCursor := ⟨bytes, 0⟩

/-- The next `len` bytes, which both integer reads and the string read take in the same way. -/
def readBytes (cursor : PayloadCursor) (field : String) (len : ℕ) :
    Except TunnelSessionPayloadError (List UInt8 × PayloadCursor) :=
  if cursor.bytes.length < cursor.offset + len then .error (.truncated field)
  else .ok (slice cursor.bytes cursor.offset (cursor.offset + len),
    { cursor with offset := cursor.offset + len })

def readU64 (cursor : PayloadCursor) (field : String) :
    Except TunnelSessionPayloadError (UInt64 × PayloadCursor) := do
  let (bytes, cursor) ← cursor.readBytes field 8
  return (UInt64.ofNat (ofBe bytes), cursor)

def readU16 (cursor : PayloadCursor) (field : String) :
    Except TunnelSessionPayloadError (UInt16 × PayloadCursor) := do
  let (bytes, cursor) ← cursor.readBytes field 2
  return (UInt16.ofNat (ofBe bytes), cursor)

def readString (cursor : PayloadCursor) (field : String) :
    Except TunnelSessionPayloadError (String × PayloadCursor) := do
  let (len, cursor) ← cursor.readU16 field
  let (bytes, cursor) ← cursor.readBytes field len.toNat
  match String.fromUTF8? ⟨bytes.toArray⟩ with
  | some value => return (value, cursor)
  | none => throw (.invalidUtf8 field)

def expectEnd (cursor : PayloadCursor) : Except TunnelSessionPayloadError Unit :=
  let trailing := cursor.bytes.length - cursor.offset
  if trailing ≠ 0 then .error (.trailingBytes trailing) else .ok ()

end PayloadCursor

def decodeSessionOpenPayload (bytes : List UInt8) :
    Except TunnelSessionPayloadError TunnelSessionOpenPayload := do
  let cursor := PayloadCursor.new bytes
  let (ruleId, cursor) ← cursor.readU64 "rule_id"
  let (listenHost, cursor) ← cursor.readString "listen_host"
  let (listenPort, cursor) ← cursor.readU16 "listen_port"
  let (sourceAddr, cursor) ← cursor.readString "source_addr"
  cursor.expectEnd
  return { ruleId, listenHost, listenPort, sourceAddr }

def decodeSessionAcceptPayload (bytes : List UInt8) : Except TunnelSessionPayloadError UInt64 := do
  let cursor := PayloadCursor.new bytes
  let (ruleId, cursor) ← cursor.readU64 "rule_id"
  cursor.expectEnd
  return ruleId

def decodeSessionErrorPayload (bytes : List UInt8) :
    Except TunnelSessionPayloadError TunnelSessionErrorPayload := do
  let cursor := PayloadCursor.new bytes
  let (ruleId, cursor) ← cursor.readU64 "rule_id"
  let (code, cursor) ← cursor.readString "code"
  let (message, cursor) ← cursor.readString "message"
  cursor.expectEnd
  return { ruleId, code, message }

end KeliAgent
