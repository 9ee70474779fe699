import KeliAgent.Ktp.Authenticity
import KeliAgent.Ktp.EncryptedStream
import KeliAgent.Transport

/-!
# Reconnects of the tunnel data transport

`KtpEncryptedTcpTunnelDataTransport` of `tunnel_data.rs`: it connects, sends a preface with a random
nonce, and derives the key of the connection from its token and that nonce; or it has a static key
for all connections. The hash functions and the answers of the network are parameters.

* `connectTunnelData` and the operations of a socket; `Connections.run` for any number of connects
  and operations on the sockets.
* `encryptions_eq`, `encryptions_answered`: a seal encrypts under consecutive sequence numbers, with
  one call of the cipher for each.
* **`noReuse_iff`**: no two records are encrypted under the same key and nonce, in every run whose
  random nonces are distinct, if and only if the transport was made with a token.
-/

namespace KeliAgent

open Wire

/-! ## Keys -/

/-- SHA-256, and HMAC-SHA-256 of a key and a message. -/
structure KtpHashes where
  sha256 : List UInt8 → Vector UInt8 32
  hmacSha256 : List UInt8 → List UInt8 → Vector UInt8 32

inductive KtpTcpAuthVersion where
  | v1 | v2
  deriving DecidableEq, Repr

/-- The bytes of `KTA1` and of `KTA2`. -/
def KtpTcpAuthVersion.magic : KtpTcpAuthVersion → List UInt8
  | .v1 => [0x4B, 0x54, 0x41, 0x31]
  | .v2 => [0x4B, 0x54, 0x41, 0x32]

abbrev AuthNonce := Vector UInt8 16

def utf8 (s : String) : List UInt8 := s.toUTF8.toList

namespace KtpHashes

variable (hashes : KtpHashes)

def ktpTcpAuthV2Prk (token : String) (nonce : AuthNonce) : Vector UInt8 32 :=
  hashes.hmacSha256 nonce.toList (utf8 (Text.trim token))

def ktpTcpAuthTag (token : String) (nonce : AuthNonce) (fingerprint : Vector UInt8 32) :
    KtpTcpAuthVersion → Vector UInt8 32
  | .v1 => hashes.hmacSha256 (utf8 token)
      (utf8 "kelicloud ktp tcp auth v1" ++ nonce.toList ++ fingerprint.toList)
  | .v2 => hashes.hmacSha256 (hashes.ktpTcpAuthV2Prk token nonce).toList
      (utf8 "kelicloud ktp tcp auth v2" ++ nonce.toList ++ fingerprint.toList)

def buildKtpTcpAuthPrefaceWithVersion (token : String) (nonce : AuthNonce)
    (version : KtpTcpAuthVersion) : Except TransportError (List UInt8) :=
  let token := Text.trim token
  if token = "" then .error .emptyToken
  else
    let fingerprint := hashes.sha256 (utf8 token)
    .ok (version.magic ++ nonce.toList ++ fingerprint.toList ++
      (hashes.ktpTcpAuthTag token nonce fingerprint version).toList)

def deriveKtpTcpCryptoKeyV1 (token : String) (nonce : AuthNonce) : KtpCryptoKey :=
  ⟨hashes.sha256 (utf8 "kelicloud ktp tcp data v1" ++ utf8 (Text.trim token) ++ nonce.toList)⟩

def deriveKtpTcpCryptoKeyV2 (token : String) (nonce : AuthNonce) : KtpCryptoKey :=
  ⟨hashes.hmacSha256 (hashes.ktpTcpAuthV2Prk token nonce).toList
    (utf8 "kelicloud ktp tcp data v2 key" ++ [1])⟩

def deriveKtpTcpCryptoKeyWithVersion (token : String) (nonce : AuthNonce) :
    KtpTcpAuthVersion → KtpCryptoKey
  | .v1 => hashes.deriveKtpTcpCryptoKeyV1 token nonce
  | .v2 => hashes.deriveKtpTcpCryptoKeyV2 token nonce

/-- The hash functions tell apart the inputs that the derivations of one token give them. -/
structure TellApart : Prop where
  data : ∀ token : List UInt8, Function.Injective fun nonce : AuthNonce =>
    hashes.sha256 (utf8 "kelicloud ktp tcp data v1" ++ token ++ nonce.toList)
  prk : ∀ message, Function.Injective fun nonce : AuthNonce =>
    hashes.hmacSha256 nonce.toList message
  key : ∀ message, Function.Injective fun prk : Vector UInt8 32 =>
    hashes.hmacSha256 prk.toList message

variable {hashes}

/-- **Different nonces give different keys.** -/
theorem TellApart.derive_injective (h : hashes.TellApart) (token : String)
    (version : KtpTcpAuthVersion) :
    Function.Injective fun nonce =>
      hashes.deriveKtpTcpCryptoKeyWithVersion token nonce version := by
  intro nonce nonce' heq
  have hbytes := congrArg KtpCryptoKey.bytes heq
  cases version with
  | v1 => exact h.data _ hbytes
  | v2 => exact h.prk _ (h.key _ hbytes)

end KtpHashes

/-! ## Endpoints -/

inductive KtpTunnelDataCarrier where
  | tcp | tls
  deriving DecidableEq, Repr

structure KtpTunnelDataEndpoint where
  carrier : KtpTunnelDataCarrier
  address : String
  tlsServerName : String
  deriving DecidableEq, Repr

def parseKtpTunnelDataAuthority (rest : String) : Except TransportError String :=
  let address := Text.trim ((Text.split rest fun c => c == '/' || c == '?' || c == '#').headD "")
  if address = "" then .error .emptyEndpoint else .ok address

def ktpTunnelDataQueryValue (rest key : String) : Option String := do
  let (_, query) ← Text.splitOnce rest "?"
  let query := (Text.split query (· == '#')).headD ""
  (Text.split query (· == '&')).findSome? fun item => do
    let (name, value) ← Text.splitOnce item "="
    if Text.eqIgnoreAsciiCase name key && Text.trim value != "" then some (Text.trim value)
    else none

def ktpTunnelDataAuthorityHost (address : String) : String :=
  let address := Text.trim address
  match Text.stripStart address "[" with
  | some rest => (Text.split rest (· == ']')).headD ""
  | none =>
    match Text.rsplitOnce address ':' with
    | some (host, _) => if Text.contains host ":" then address else host
    | none => address

def ktpTlsServerName (rest address : String) : Except TransportError String :=
  let serverName := ((ktpTunnelDataQueryValue rest "server_name").or
    (ktpTunnelDataQueryValue rest "sni")).getD (ktpTunnelDataAuthorityHost address)
  if Text.trim serverName = "" then .error .emptyEndpoint else .ok serverName

def tunnelDataSchemes : List (String × KtpTunnelDataCarrier) :=
  [("ktp+tcp://", .tcp), ("tcp://", .tcp), ("ktp+tls://", .tls), ("tls://", .tls)]

def parseKtpTunnelDataEndpoint (url : String) : Except TransportError KtpTunnelDataEndpoint :=
  let trimmed := Text.trim url
  match tunnelDataSchemes.findSome? fun (scheme, carrier) =>
    (Text.stripStart trimmed scheme).map (carrier, ·) with
  | none => .error (.unsupportedScheme trimmed)
  | some (carrier, rest) => do
    let address ← parseKtpTunnelDataAuthority rest
    let tlsServerName ← if carrier = .tls then ktpTlsServerName rest address else .ok ""
    return ⟨carrier, address, tlsServerName⟩

/-! ## Connecting -/

inductive KtpEncryptedTcpTunnelDataAuth where
  | staticKey (key : KtpCryptoKey)
  | token (token : String) (version : KtpTcpAuthVersion)
  deriving DecidableEq

structure KtpEncryptedTcpTunnelDataTransport where
  auth : KtpEncryptedTcpTunnelDataAuth
  maxPayloadLen : ℕ
  maxBufferLen : ℕ
  tlsServerName : Option String

/-- What the system answers while a connection is made: the texts of errors, and the random nonce.
The answers of `tls_connect` and of `ServerName::try_from` depend on the name. -/
structure ConnectOutcome where
  runtimeInit : Option String
  tcpConnect : String → Option String
  serverName : String → Option String
  tlsConnect : String → Option String
  random : Except String AuthNonce
  authWrite : Option String
  /-- What the socket will read. -/
  incoming : List ReadResult

structure KtpEncryptedTcpTunnelDataSocket where
  stream : KtpEncryptedStream
  maxPayloadLen : ℕ

def ktpTcpRequestFailed (code detail : String) : TransportError :=
  .requestFailed ("ktp_tcp_error code=" ++ code ++ " detail=" ++ detail)

/-- An answer of the system as a result. -/
def answered (code : String) : Option String → Except TransportError Unit
  | none => .ok ()
  | some detail => .error (ktpTcpRequestFailed code detail)

namespace KtpEncryptedTcpTunnelDataTransport

def new (key : KtpCryptoKey) : KtpEncryptedTcpTunnelDataTransport where
  auth := .staticKey key
  maxPayloadLen := ktpMaxPayloadLen
  maxBufferLen := 1024 * 1024
  tlsServerName := none

def newWithTokenAuthVersion (token : String) (version : KtpTcpAuthVersion) :
    KtpEncryptedTcpTunnelDataTransport where
  auth := .token (Text.trim token) version
  maxPayloadLen := ktpMaxPayloadLen
  maxBufferLen := 1024 * 1024
  tlsServerName := none

def newWithToken (token : String) : KtpEncryptedTcpTunnelDataTransport :=
  newWithTokenAuthVersion token .v1

variable (hashes : KtpHashes) (self : KtpEncryptedTcpTunnelDataTransport)

/-- `apply_ktp_tunnel_data_auth`: the key of the connection, and the nonces that were drawn. -/
def applyKtpTunnelDataAuth (outcome : ConnectOutcome) (writeErrorCode : String) :
    KtpEncryptedTcpTunnelDataAuth → Except TransportError KtpCryptoKey × List AuthNonce
  | .staticKey key => (.ok key, [])
  | .token token version =>
    match outcome.random with
    | .error error => (.error (.requestFailed error), [])
    | .ok nonce =>
      match hashes.buildKtpTcpAuthPrefaceWithVersion token nonce version with
      | .error error => (.error error, [nonce])
      | .ok _ =>
        match answered writeErrorCode outcome.authWrite with
        | .error error => (.error error, [nonce])
        | .ok () => (.ok (hashes.deriveKtpTcpCryptoKeyWithVersion token nonce version), [nonce])

/-- The name that a TLS connection asks for. -/
def tlsName (endpoint : KtpTunnelDataEndpoint) : String :=
  (self.tlsServerName.filter fun value => Text.trim value != "").getD endpoint.tlsServerName

/-- What comes before the authentication: the endpoint, and the code of an error in writing the
preface. -/
def openCarrier (url : String) (outcome : ConnectOutcome) : Except TransportError String := do
  let endpoint ← parseKtpTunnelDataEndpoint url
  answered "ktp_tcp_runtime_init_failed" outcome.runtimeInit
  answered "ktp_tcp_connect_failed" (outcome.tcpConnect endpoint.address)
  match endpoint.carrier with
  | .tcp => return "ktp_tcp_auth_write_failed"
  | .tls => do
    answered "ktp_tls_server_name_invalid" (outcome.serverName (self.tlsName endpoint))
    answered "ktp_tls_connect_failed" (outcome.tlsConnect (self.tlsName endpoint))
    return "ktp_tls_auth_write_failed"

/-- The socket, and the nonces that were drawn. -/
def connectTunnelData (url : String) (outcome : ConnectOutcome) :
    Except TransportError KtpEncryptedTcpTunnelDataSocket × List AuthNonce :=
  match self.openCarrier url outcome with
  | .error error => (.error error, [])
  | .ok writeErrorCode =>
    match applyKtpTunnelDataAuth hashes outcome writeErrorCode self.auth with
    | (.error error, drawn) => (.error error, drawn)
    | (.ok key, drawn) =>
      (.ok ⟨.fromIo outcome.incoming key .clientToRelay .relayToClient self.maxPayloadLen
        self.maxBufferLen, self.maxPayloadLen⟩, drawn)

end KtpEncryptedTcpTunnelDataTransport

/-! ## Operations on a socket -/

/-- `Display` of the error; an error of the stream has its own text. -/
def KtpTcpTransportError.display (ioText : String) : KtpTcpTransportError → String
  | .io => ioText
  | .crypto error => error.display
  | .closed => "KTP encrypted TCP stream closed"

def ktpTcpTransportErrorToTransport (ioText : String) : KtpTcpTransportError → TransportError
  | .closed => .socketClosed
  | other => ktpTcpRequestFailed other.code (other.display ioText)

namespace KtpEncryptedTcpTunnelDataSocket

variable (aead : Aead) (self : KtpEncryptedTcpTunnelDataSocket)

/-- The result of an operation of the stream, and the socket with that stream. -/
def withStream {α : Type} (ioText : String) :
    Except KtpTcpTransportError α × KtpEncryptedStream →
      Except TransportError α × KtpEncryptedTcpTunnelDataSocket
  | (result, stream) =>
    (result.mapError (ktpTcpTransportErrorToTransport ioText), { self with stream })

def sendKtpFrame (frame : KtpFrame) (outcome : WriteOutcome) (ioText : String) :
    Except TransportError Unit × KtpEncryptedTcpTunnelDataSocket :=
  self.withStream ioText (self.stream.sendFrame aead frame outcome)

def sendFrame (bytes : List UInt8) (outcome : WriteOutcome) (ioText : String) :
    Except TransportError Unit × KtpEncryptedTcpTunnelDataSocket :=
  match decodeFrame bytes self.maxPayloadLen with
  | .error error => (.error (.requestFailed error.display), self)
  | .ok frame => self.sendKtpFrame aead frame outcome ioText

def sendKtpFrameBatch (frames : List KtpFrame) (outcome : WriteOutcome) (ioText : String) :
    Except TransportError Unit × KtpEncryptedTcpTunnelDataSocket :=
  self.withStream ioText (self.stream.sendFrames aead frames outcome)

def readFrame (ioText : String) :
    Except TransportError (List UInt8) × KtpEncryptedTcpTunnelDataSocket :=
  match self.withStream ioText (self.stream.nextFrame aead) with
  | (.error error, self) => (.error error, self)
  | (.ok frame, self) =>
    ((encodeFrame frame).mapError fun error => .requestFailed error.display, self)

end KtpEncryptedTcpTunnelDataSocket

/-! ## Runs -/

/-- The operations of a socket. `text` is that of an error of the stream. -/
inductive SocketCall where
  | sendFrame (bytes : List UInt8) (outcome : WriteOutcome) (text : String)
  | sendKtpFrame (frame : KtpFrame) (outcome : WriteOutcome) (text : String)
  | sendKtpFrameBatch (frames : List KtpFrame) (outcome : WriteOutcome) (text : String)
  | readFrame (text : String)

namespace SocketCall

def apply (aead : Aead) (socket : KtpEncryptedTcpTunnelDataSocket) :
    SocketCall → KtpEncryptedTcpTunnelDataSocket
  | .sendFrame bytes outcome text => (socket.sendFrame aead bytes outcome text).2
  | .sendKtpFrame frame outcome text => (socket.sendKtpFrame aead frame outcome text).2
  | .sendKtpFrameBatch frames outcome text => (socket.sendKtpFrameBatch aead frames outcome text).2
  | .readFrame text => (socket.readFrame aead text).2

/-- The frames that the call gives to the seal, one after the other, up to the first failure. -/
def frames (socket : KtpEncryptedTcpTunnelDataSocket) : SocketCall → List KtpFrame
  | .sendFrame bytes _ _ =>
    match decodeFrame bytes socket.maxPayloadLen with
    | .error _ => []
    | .ok frame => [frame]
  | .sendKtpFrame frame _ _ => [frame]
  | .sendKtpFrameBatch frames _ _ => frames
  | .readFrame _ => []

end SocketCall

/-- Key and nonce of an encryption. -/
abbrev KeyNonce := KtpCryptoKey × List UInt8

def Encryption.keyNonce (e : Encryption) : KeyNonce := (e.key, e.nonce)

/-- The encryptions that succeed while frames are sealed one after the other, up to the first
failure. -/
def KtpCryptoSeal.encryptions (aead : Aead) : KtpCryptoSeal → List KtpFrame → List Encryption
  | _, [] => []
  | self, frame :: frames =>
    match self.appendSealedFrame aead frame [] with
    | (.error _, _, _) => []
    | (.ok (), self', record) => .ofSeal self frame [] record :: encryptions aead self' frames

/-- A connect, or a call on the socket with that number. -/
inductive TransportOperation where
  | connect (url : String) (outcome : ConnectOutcome)
  | call (socket : ℕ) (call : SocketCall)

/-- All sockets that a transport connected, and what has happened so far. -/
structure Connections where
  sockets : List KtpEncryptedTcpTunnelDataSocket
  /-- The random nonces of all connects. -/
  drawn : List AuthNonce
  /-- All encryptions. -/
  encrypted : List Encryption

namespace Connections

def start : Connections := ⟨[], [], []⟩

variable (hashes : KtpHashes) (aead : Aead) (transport : KtpEncryptedTcpTunnelDataTransport)

/-- After a connect. -/
def connected (s : Connections) :
    Except TransportError KtpEncryptedTcpTunnelDataSocket × List AuthNonce → Connections
  | (.error _, drawn) => { s with drawn := s.drawn ++ drawn }
  | (.ok socket, drawn) => { s with sockets := s.sockets ++ [socket], drawn := s.drawn ++ drawn }

/-- After a call on a socket, if there is such a socket. -/
def called (s : Connections) (id : ℕ) (call : SocketCall) :
    Option KtpEncryptedTcpTunnelDataSocket → Connections
  | none => s
  | some socket =>
    { s with
      sockets := s.sockets.set id (call.apply aead socket)
      encrypted := s.encrypted ++ socket.stream.sealer.encryptions aead (call.frames socket) }

def step (s : Connections) : TransportOperation → Connections
  | .connect url outcome => s.connected (transport.connectTunnelData hashes url outcome)
  | .call id call => s.called aead id call s.sockets[id]?

def run (operations : List TransportOperation) : Connections :=
  operations.foldl (step hashes aead transport) start

end Connections

/-! ## One seal -/

section Seals

variable {aead : Aead}

open KtpEncryptedStream (appendSealedFrames)

/-- **A seal encrypts under consecutive sequence numbers**, as many as it has moved. -/
theorem encryptions_eq (frames : List KtpFrame) (sealer : KtpCryptoSeal) (buffer : List UInt8) :
    ∃ n, (appendSealedFrames aead frames sealer buffer).2.1.key = sealer.key ∧
      (appendSealedFrames aead frames sealer buffer).2.1.direction = sealer.direction ∧
      (appendSealedFrames aead frames sealer buffer).2.1.sequence.toNat =
        sealer.sequence.toNat + n ∧
      (sealer.encryptions aead frames).map Encryption.keyNonce =
        (List.range' sealer.sequence.toNat n).map fun q =>
          (sealer.key, nonce sealer.direction (UInt64.ofNat q)) := by
  induction frames generalizing sealer buffer with
  | nil => exact ⟨0, rfl, rfl, rfl, rfl⟩
  | cons frame frames ih =>
    rcases KtpCryptoSeal.appendSealedFrame_cases aead sealer frame with
      ⟨e, he⟩ | ⟨hq, -, ciphertext, tag, -, hsealed⟩
    · obtain ⟨rest, hrest⟩ := he buffer
      obtain ⟨rest', hrest'⟩ := he []
      refine ⟨0, ?_⟩
      simp only [appendSealedFrames, KtpCryptoSeal.encryptions, hrest, hrest']
      exact ⟨trivial, trivial, rfl, rfl⟩
    · obtain ⟨n, hkey, hdirection, hsequence, hpairs⟩ :=
        ih { sealer with sequence := sealer.sequence + 1 }
          (buffer ++ (sealer.header frame ++ (ciphertext ++ tag)))
      have hnext := toNat_add_one_of_ne_max hq
      refine ⟨n + 1, ?_⟩
      simp only [appendSealedFrames, KtpCryptoSeal.encryptions, hsealed]
      refine ⟨hkey, hdirection, ?_, ?_⟩
      · rw [hsequence, hnext]
        omega
      · rw [List.map_cons, hpairs, List.range'_succ, List.map_cons, UInt64.ofNat_toNat, hnext]
        rfl

/-- **Every encryption is a call of the cipher.** -/
theorem encryptions_answered (frames : List KtpFrame) (sealer : KtpCryptoSeal) :
    ∀ e ∈ sealer.encryptions aead frames, e.Answered aead := by
  induction frames generalizing sealer with
  | nil => exact nofun
  | cons frame frames ih =>
    rw [KtpCryptoSeal.encryptions]
    rcases hsealed : sealer.appendSealedFrame aead frame [] with ⟨_ | ⟨⟩, sealer', record⟩
    · exact nofun
    · refine List.forall_mem_cons.mpr ⟨?_, ih sealer'⟩
      have hanswered := @Encryption.ofSeal_answered aead sealer frame [] (by rw [hsealed])
      rwa [hsealed] at hanswered

theorem sealer_writeAll (st : KtpEncryptedStream) (outcome : WriteOutcome) :
    (st.writeAll outcome).2.sealer = st.sealer := by
  cases outcome <;> rfl

theorem sealer_sendFrame (st : KtpEncryptedStream) (frame : KtpFrame) (outcome : WriteOutcome) :
    (st.sendFrame aead frame outcome).2.sealer =
      (appendSealedFrames aead [frame] st.sealer []).2.1 := by
  rw [KtpEncryptedStream.sendFrame, KtpCryptoSeal.sealFrameInto, appendSealedFrames]
  rcases st.sealer.appendSealedFrame aead frame [] with ⟨_ | _, sealer, buffer⟩
  · rfl
  · exact sealer_writeAll _ outcome

theorem sealer_sendFrames (st : KtpEncryptedStream) (frames : List KtpFrame)
    (outcome : WriteOutcome) :
    (st.sendFrames aead frames outcome).2.sealer =
      (appendSealedFrames aead frames st.sealer []).2.1 := by
  rw [KtpEncryptedStream.sendFrames]
  split_ifs with hempty
  · rw [List.isEmpty_iff.mp hempty]
    rfl
  · rcases appendSealedFrames aead frames st.sealer [] with ⟨_ | _, sealer, buffer⟩
    · rfl
    · exact sealer_writeAll _ outcome

/-- A call leaves the seal as sealing its frames does. -/
theorem SocketCall.sealer_apply (call : SocketCall) (socket : KtpEncryptedTcpTunnelDataSocket) :
    (call.apply aead socket).stream.sealer =
      (appendSealedFrames aead (call.frames socket) socket.stream.sealer []).2.1 := by
  cases call with
  | sendFrame bytes outcome text =>
    rw [apply, frames, KtpEncryptedTcpTunnelDataSocket.sendFrame]
    cases decodeFrame bytes socket.maxPayloadLen with
    | error error => rfl
    | ok frame => exact sealer_sendFrame socket.stream frame outcome
  | sendKtpFrame frame outcome text => exact sealer_sendFrame socket.stream frame outcome
  | sendKtpFrameBatch frames outcome text => exact sealer_sendFrames socket.stream frames outcome
  | readFrame text =>
    have hsealer : (socket.withStream text (socket.stream.nextFrame aead)).2.stream.sealer =
        socket.stream.sealer := rfl
    rw [apply, KtpEncryptedTcpTunnelDataSocket.readFrame]
    rcases hread : socket.withStream text (socket.stream.nextFrame aead) with ⟨_ | _, socket'⟩ <;>
    · rw [hread] at hsealer
      exact hsealer

end Seals

/-! ## All connections -/

namespace Connections

variable {hashes : KtpHashes} {aead : Aead} {transport : KtpEncryptedTcpTunnelDataTransport}
  {s : Connections}

/-- The keys of the sockets. -/
def keys (s : Connections) : List KtpCryptoKey :=
  s.sockets.map fun socket => socket.stream.sealer.key

/-- The sequence numbers that the sockets have used. -/
def used (s : Connections) : ℕ :=
  (s.sockets.map fun socket => socket.stream.sealer.sequence.toNat).sum

/-- Every encryption is a call of the cipher for a socket under a sequence number before its own,
and there is one for each number; and none is repeated if all sockets have different keys. -/
structure Inv (aead : Aead) (s : Connections) : Prop where
  direction : ∀ socket ∈ s.sockets, socket.stream.sealer.direction = .clientToRelay
  owned : ∀ e ∈ s.encrypted, ∃ (id : ℕ) (socket : _) (q : ℕ), s.sockets[id]? = some socket ∧
    q < socket.stream.sealer.sequence.toNat ∧
    e.keyNonce = (socket.stream.sealer.key, nonce .clientToRelay (UInt64.ofNat q))
  nodup : s.keys.Nodup → (s.encrypted.map Encryption.keyNonce).Nodup
  counted : s.encrypted.length = s.used
  answered : ∀ e ∈ s.encrypted, e.Answered aead

/-- What a call does to its socket, and what it encrypts. -/
theorem call_spec (call : SocketCall) {socket : KtpEncryptedTcpTunnelDataSocket}
    (hdirection : socket.stream.sealer.direction = .clientToRelay) :
    ∃ n, (call.apply aead socket).stream.sealer.key = socket.stream.sealer.key ∧
      (call.apply aead socket).stream.sealer.direction = .clientToRelay ∧
      (call.apply aead socket).stream.sealer.sequence.toNat =
        socket.stream.sealer.sequence.toNat + n ∧
      (socket.stream.sealer.encryptions aead (call.frames socket)).map Encryption.keyNonce =
        (List.range' socket.stream.sealer.sequence.toNat n).map fun q =>
          (socket.stream.sealer.key, nonce .clientToRelay (UInt64.ofNat q)) := by
  obtain ⟨n, hkey, hdir, hsequence, hpairs⟩ :=
    @encryptions_eq aead (call.frames socket) socket.stream.sealer []
  rw [← call.sealer_apply] at hkey hdir hsequence
  rw [hdirection] at hdir hpairs
  exact ⟨n, hkey, hdir, hsequence, hpairs⟩

theorem inv_start : start.Inv aead := ⟨nofun, nofun, fun _ => List.nodup_nil, rfl, nofun⟩

/-- The socket of a connect is new, and has the key of the authentication. -/
theorem connect_ok {url : String} {outcome : ConnectOutcome}
    {socket : KtpEncryptedTcpTunnelDataSocket} {drawn : List AuthNonce}
    (h : transport.connectTunnelData hashes url outcome = (.ok socket, drawn)) :
    ∃ code key, KtpEncryptedTcpTunnelDataTransport.applyKtpTunnelDataAuth hashes outcome code
        transport.auth = (.ok key, drawn) ∧
      socket.stream.sealer = .new key .clientToRelay := by
  unfold KtpEncryptedTcpTunnelDataTransport.connectTunnelData at h
  cases hcarrier : transport.openCarrier url outcome with
  | error error =>
    rw [hcarrier] at h
    cases h
  | ok code =>
    rw [hcarrier] at h
    rcases hauth : KtpEncryptedTcpTunnelDataTransport.applyKtpTunnelDataAuth hashes outcome code
      transport.auth with ⟨_ | key, drawn'⟩
    · simp only [hauth] at h
      cases h
    · simp only [hauth] at h
      cases h
      exact ⟨code, key, hauth, rfl⟩

theorem Inv.of_connected (h : s.Inv aead) {socket : KtpEncryptedTcpTunnelDataSocket}
    {drawn : List AuthNonce} {key : KtpCryptoKey}
    (hsealer : socket.stream.sealer = .new key .clientToRelay) :
    (s.connected (.ok socket, drawn)).Inv aead where
  direction := by
    intro other hmem
    rcases List.mem_append.mp hmem with hmem | hmem
    · exact h.direction other hmem
    · rw [List.mem_singleton.mp hmem, hsealer]
      rfl
  owned := by
    intro pair hmem
    obtain ⟨id, other, q, hid, hq, hpair⟩ := h.owned pair hmem
    refine ⟨id, other, q, ?_, hq, hpair⟩
    rw [connected, List.getElem?_append_left (List.getElem?_eq_some_iff.mp hid).1, hid]
  nodup := by
    intro hkeys
    refine h.nodup (List.Nodup.sublist ?_ hkeys)
    exact (List.sublist_append_left s.sockets [socket]).map _
  counted := by
    rw [connected, used, List.map_append, List.sum_append, List.map_singleton, List.sum_singleton,
      hsealer]
    exact h.counted
  answered := h.answered

/-- A call keeps the keys. -/
theorem keys_set {id : ℕ} {socket socket' : KtpEncryptedTcpTunnelDataSocket}
    (hid : s.sockets[id]? = some socket)
    (hkey : socket'.stream.sealer.key = socket.stream.sealer.key) :
    (s.sockets.set id socket').map (fun socket => socket.stream.sealer.key) = s.keys := by
  have hlt := (List.getElem?_eq_some_iff.mp hid).1
  rw [keys, List.map_set, hkey]
  refine List.ext_getElem? fun i => ?_
  by_cases hi : id = i
  · subst hi
    rw [List.getElem?_set_self (by rwa [List.length_map]), List.getElem?_map, hid]
    rfl
  · rw [List.getElem?_set_ne hi]

/-- A call uses as many numbers as its socket has moved. -/
theorem used_set {id n : ℕ} {socket socket' : KtpEncryptedTcpTunnelDataSocket}
    (hid : s.sockets[id]? = some socket)
    (hsequence : socket'.stream.sealer.sequence.toNat = socket.stream.sealer.sequence.toNat + n) :
    used { s with sockets := s.sockets.set id socket' } = s.used + n := by
  obtain ⟨before, after, hsockets, hlength⟩ :
      ∃ before after, s.sockets = before ++ socket :: after ∧ before.length = id := by
    obtain ⟨hlt, rfl⟩ := List.getElem?_eq_some_iff.mp hid
    refine ⟨s.sockets.take id, s.sockets.drop (id + 1), ?_, List.length_take_of_le hlt.le⟩
    rw [List.getElem_cons_drop, List.take_append_drop]
  simp only [used, hsockets, ← hlength, List.set_append_right _ _ le_rfl, Nat.sub_self,
    List.set_cons_zero, List.map_append, List.map_cons, List.sum_append, List.sum_cons, hsequence]
  omega

/-- Sequence numbers are told apart by their nonces. -/
theorem eq_of_nonce_eq {d d' : KtpCryptoDirection} {q q' : ℕ} (hq : q < 2 ^ 64) (hq' : q' < 2 ^ 64)
    (h : nonce d (UInt64.ofNat q) = nonce d' (UInt64.ofNat q')) : q = q' := by
  have heq := congrArg UInt64.toNat (nonce_injective h).2
  rwa [UInt64.toNat_ofNat_of_lt' hq, UInt64.toNat_ofNat_of_lt' hq'] at heq

theorem Inv.of_called (h : s.Inv aead) {id : ℕ} {socket : KtpEncryptedTcpTunnelDataSocket}
    (hid : s.sockets[id]? = some socket) (call : SocketCall) :
    (s.called aead id call (some socket)).Inv aead := by
  have hdirection := h.direction socket (List.mem_of_getElem? hid)
  obtain ⟨n, hkey, hdir, hsequence, hpairs⟩ := @call_spec aead call socket hdirection
  have hbound := (call.apply aead socket).stream.sealer.sequence.toNat_lt
  have hlt := (List.getElem?_eq_some_iff.mp hid).1
  have hmoved : (socket.stream.sealer.encryptions aead (call.frames socket)).length = n := by
    rw [← List.length_map Encryption.keyNonce, hpairs, List.length_map, List.length_range']
  rw [called]
  refine ⟨?_, ?_, ?_, ?_, ?_⟩
  · intro other hmem
    rcases List.mem_or_eq_of_mem_set hmem with hmem | rfl
    · exact h.direction other hmem
    · exact hdir
  · intro e hmem
    rcases List.mem_append.mp hmem with hmem | hmem
    · obtain ⟨id', other, q, hid', hq, hpair⟩ := h.owned e hmem
      by_cases hsame : id = id'
      · subst hsame
        cases hid.symm.trans hid'
        refine ⟨id, _, q, List.getElem?_set_self hlt, by omega, ?_⟩
        rw [hkey]
        exact hpair
      · exact ⟨id', other, q, (List.getElem?_set_ne hsame).trans hid', hq, hpair⟩
    · have hnew := List.mem_map_of_mem (f := Encryption.keyNonce) hmem
      rw [hpairs] at hnew
      obtain ⟨q, hq, hpair⟩ := List.mem_map.mp hnew
      rw [List.mem_range'_1] at hq
      refine ⟨id, _, q, List.getElem?_set_self hlt, by omega, ?_⟩
      rw [hkey, hpair]
  · intro hkeys
    rw [keys, keys_set hid hkey] at hkeys
    rw [List.map_append, hpairs, List.nodup_append']
    refine ⟨h.nodup hkeys, ?_, ?_⟩
    · refine List.Nodup.map_on ?_ List.nodup_range'
      intro q hq q' hq' heq
      rw [List.mem_range'_1] at hq hq'
      exact eq_of_nonce_eq (by omega) (by omega) (Prod.mk.inj heq).2
    · -- an earlier encryption under this key is of this socket, under a smaller number
      rintro pair hold hnew
      obtain ⟨e, he, rfl⟩ := List.mem_map.mp hold
      obtain ⟨id', other, q, hid', hq, hpair⟩ := h.owned e he
      obtain ⟨q', hq', heq⟩ := List.mem_map.mp hnew
      rw [hpair] at heq
      rw [List.mem_range'_1] at hq'
      obtain ⟨hkeyeq, hnonce⟩ := Prod.mk.inj heq
      have hother := List.inj_on_of_nodup_map hkeys (List.mem_of_getElem? hid)
        (List.mem_of_getElem? hid') hkeyeq
      subst hother
      have := eq_of_nonce_eq (by omega) (by omega) hnonce
      omega
  · rw [List.length_append, hmoved, h.counted]
    exact (used_set hid hsequence).symm
  · exact List.forall_mem_append.mpr ⟨h.answered, encryptions_answered _ _⟩

theorem Inv.step (h : s.Inv aead) (operation : TransportOperation) :
    (s.step hashes aead transport operation).Inv aead := by
  cases operation with
  | connect url outcome =>
    rw [Connections.step]
    rcases hconnect : transport.connectTunnelData hashes url outcome with ⟨_ | socket, drawn⟩
    · exact ⟨h.direction, h.owned, h.nodup, h.counted, h.answered⟩
    · obtain ⟨code, key, -, hsealer⟩ := connect_ok hconnect
      exact h.of_connected hsealer
  | call id call =>
    rw [Connections.step]
    cases hid : s.sockets[id]? with
    | none => exact h
    | some socket => exact h.of_called hid call

theorem inv_run (operations : List TransportOperation) :
    (run hashes aead transport operations).Inv aead :=
  List.foldlRecOn operations _ inv_start fun _ h operation _ => h.step operation

/-! ### Tokens -/

/-- With a token, the keys of the sockets are derived from nonces of their own. -/
def Derived (hashes : KtpHashes) (token : String) (version : KtpTcpAuthVersion) (s : Connections) :
    Prop :=
  s.keys.Sublist
    (s.drawn.map fun nonce => hashes.deriveKtpTcpCryptoKeyWithVersion token nonce version)

/-- An authentication with a token draws one nonce for the key. -/
theorem apply_token_ok {outcome : ConnectOutcome} {code token : String}
    {version : KtpTcpAuthVersion} {key : KtpCryptoKey} {drawn : List AuthNonce}
    (h : KtpEncryptedTcpTunnelDataTransport.applyKtpTunnelDataAuth hashes outcome code
      (.token token version) = (.ok key, drawn)) :
    ∃ nonce, drawn = [nonce] ∧
      key = hashes.deriveKtpTcpCryptoKeyWithVersion token nonce version := by
  simp only [KtpEncryptedTcpTunnelDataTransport.applyKtpTunnelDataAuth] at h
  cases hrandom : outcome.random with
  | error error =>
    rw [hrandom] at h
    cases h
  | ok nonce =>
    simp only [hrandom] at h
    split at h
    · cases h
    · split at h
      · cases h
      · cases h
        exact ⟨nonce, rfl, rfl⟩

theorem Derived.step {token : String} {version : KtpTcpAuthVersion}
    (hauth : transport.auth = .token token version) (hinv : s.Inv aead)
    (h : s.Derived hashes token version) (operation : TransportOperation) :
    (s.step hashes aead transport operation).Derived hashes token version := by
  cases operation with
  | connect url outcome =>
    rw [Connections.step]
    rcases hconnect : transport.connectTunnelData hashes url outcome with ⟨_ | socket, drawn⟩
    · rw [Derived, connected, List.map_append]
      exact List.Sublist.trans h (List.sublist_append_left _ _)
    · obtain ⟨code, key, hkey, hsealer⟩ := connect_ok hconnect
      rw [hauth] at hkey
      obtain ⟨nonce, rfl, rfl⟩ := apply_token_ok hkey
      rw [Derived, keys, connected, List.map_append, List.map_append, List.map_singleton,
        List.map_singleton, hsealer]
      exact List.Sublist.append h (List.Sublist.refl _)
  | call id call =>
    rw [Connections.step]
    cases hid : s.sockets[id]? with
    | none => exact h
    | some socket =>
      obtain ⟨n, hkey, -⟩ :=
        @call_spec aead call socket (hinv.direction socket (List.mem_of_getElem? hid))
      rw [Derived, keys, called, keys_set hid hkey]
      exact h

theorem derived_run {token : String} {version : KtpTcpAuthVersion}
    (hauth : transport.auth = .token token version) (operations : List TransportOperation) :
    (run hashes aead transport operations).Derived hashes token version := by
  have hboth : (run hashes aead transport operations).Inv aead ∧
      (run hashes aead transport operations).Derived hashes token version :=
    List.foldlRecOn (motive := fun s : Connections => s.Inv aead ∧ s.Derived hashes token version)
      operations _ ⟨inv_start, List.Sublist.refl []⟩
      fun _ h operation _ => ⟨h.1.step operation, h.2.step hauth h.1 operation⟩
  exact hboth.2

/-- With a token, the keys of all sockets are different. -/
theorem keys_nodup_run {token : String} {version : KtpTcpAuthVersion} (hhashes : hashes.TellApart)
    (hauth : transport.auth = .token token version) {operations : List TransportOperation}
    (hdrawn : (run hashes aead transport operations).drawn.Nodup) :
    (run hashes aead transport operations).keys.Nodup :=
  (hdrawn.map (hhashes.derive_injective token version)).sublist (derived_run hauth operations)

/-! ### Static keys -/

/-- A connection that succeeds, over TCP. -/
def connectOutcome : ConnectOutcome where
  runtimeInit := none
  tcpConnect := fun _ => none
  serverName := fun _ => none
  tlsConnect := fun _ => none
  random := .ok (Vector.replicate 16 0)
  authWrite := none
  incoming := []

/-- Two connects, and a ping on each socket. -/
def pingTwice : List TransportOperation :=
  [.connect "tcp://relay" connectOutcome, .connect "tcp://relay" connectOutcome,
    .call 0 (.sendKtpFrame (.connection .ping []) .complete ""),
    .call 1 (.sendKtpFrame (.connection .ping []) .complete "")]

theorem connect_static {key : KtpCryptoKey} (hauth : transport.auth = .staticKey key) :
    transport.connectTunnelData hashes "tcp://relay" connectOutcome =
      (.ok ⟨.fromIo [] key .clientToRelay .relayToClient transport.maxPayloadLen
        transport.maxBufferLen, transport.maxPayloadLen⟩, []) := by
  have hendpoint : parseKtpTunnelDataEndpoint "tcp://relay" = .ok ⟨.tcp, "relay", ""⟩ := by
    decide +kernel
  have hcarrier : transport.openCarrier "tcp://relay" connectOutcome =
      .ok "ktp_tcp_auth_write_failed" := by
    unfold KtpEncryptedTcpTunnelDataTransport.openCarrier
    simp only [hendpoint]
    rfl
  unfold KtpEncryptedTcpTunnelDataTransport.connectTunnelData
  simp only [hcarrier, hauth, KtpEncryptedTcpTunnelDataTransport.applyKtpTunnelDataAuth]
  rfl

/-- The first ping of a connection is encrypted under the first nonce. -/
theorem encryptions_ping (htotal : aead.Total) (key : KtpCryptoKey) :
    ((KtpCryptoSeal.new key .clientToRelay).encryptions aead [.connection .ping []]).map
      Encryption.keyNonce = [(key, nonce .clientToRelay 0)] := by
  have hfirst : (KtpCryptoSeal.new key .clientToRelay).sequence ≠ maxSequence :=
    show (0 : UInt64) ≠ maxSequence by decide
  obtain ⟨record, hrecord⟩ := KtpCryptoSeal.sealFrame_of_accepted htotal hfirst
    (show (KtpFrame.connection .ping []).Accepted by decide)
  simp only [KtpCryptoSeal.encryptions, KtpCryptoSeal.appendSealedFrame_of_ok hrecord]
  rfl

theorem run_static (htotal : aead.Total) {key : KtpCryptoKey}
    (hauth : transport.auth = .staticKey key) :
    (run hashes aead transport pingTwice).drawn = [] ∧
      (run hashes aead transport pingTwice).encrypted.map Encryption.keyNonce =
        [(key, nonce .clientToRelay 0), (key, nonce .clientToRelay 0)] := by
  simp only [run, pingTwice, start, List.foldl_cons, List.foldl_nil, step, connect_static hauth,
    connected, called, List.nil_append, List.append_nil, List.cons_append, List.getElem?_cons_zero,
    List.set_cons_zero, List.getElem?_cons_succ, SocketCall.frames, KtpEncryptedStream.fromIo,
    List.map_append, encryptions_ping htotal key, and_self]

/-- **No key and nonce are used twice, if and only if the transport was made with a token.** The
encryptions are calls of the cipher, one for each sequence number that a socket has used. -/
theorem noReuse_iff (hhashes : hashes.TellApart) (htotal : aead.Total)
    (transport : KtpEncryptedTcpTunnelDataTransport) :
    ((∀ operations, (run hashes aead transport operations).drawn.Nodup →
      ((run hashes aead transport operations).encrypted.map Encryption.keyNonce).Nodup) ↔
    ∃ token version, transport.auth = .token token version) ∧
    ∀ operations,
      (run hashes aead transport operations).encrypted.length =
        ((run hashes aead transport operations).sockets.map fun socket =>
          socket.stream.sealer.sequence.toNat).sum ∧
      ∀ e ∈ (run hashes aead transport operations).encrypted, ∃ ciphertext tag,
        e.ciphertext = ciphertext ++ tag ∧
          aead.encryptInPlaceDetached e.key e.nonce e.aad e.plaintext = some (ciphertext, tag) := by
  refine ⟨⟨fun h => ?_, ?_⟩, fun operations =>
    ⟨(inv_run operations).counted, (inv_run operations).answered⟩⟩
  · cases hauth : transport.auth with
    | token token version => exact ⟨token, version, rfl⟩
    | staticKey key =>
      obtain ⟨hdrawn, hencrypted⟩ := @run_static hashes aead transport htotal key hauth
      have hnodup := h pingTwice (hdrawn ▸ List.nodup_nil)
      rw [hencrypted, List.nodup_cons] at hnodup
      exact absurd (List.mem_singleton.mpr rfl) hnodup.1
  · rintro ⟨token, version, hauth⟩ operations hdrawn
    exact (inv_run operations).nodup (keys_nodup_run hhashes hauth hdrawn)

/-- Hash functions that copy their input, for runs on concrete inputs. -/
def copyHashes : KtpHashes where
  sha256 := fun message => Vector.ofFn fun i => (message.drop (message.length - 16)).getD i 0
  hmacSha256 := fun key _ => Vector.ofFn fun i => key.getD i 0

theorem copyHashes_sha256 (front : List UInt8) (nonce : AuthNonce) :
    copyHashes.sha256 (front ++ nonce.toList) = Vector.ofFn fun i => nonce.toList.getD i 0 := by
  have hdrop :
      (front ++ nonce.toList).drop ((front ++ nonce.toList).length - 16) = nonce.toList := by
    rw [List.length_append, Vector.length_toList, Nat.add_sub_cancel, List.drop_left]
  simp only [copyHashes, hdrop]

/-- A vector that is copied into a longer one is read back from it. -/
theorem eq_of_copy_eq {n : ℕ} (hn : n ≤ 32) {xs ys : Vector UInt8 n}
    (h : (Vector.ofFn fun i : Fin 32 => xs.toList.getD i 0) =
      Vector.ofFn fun i : Fin 32 => ys.toList.getD i 0) : xs = ys := by
  refine Vector.ext fun i hi => ?_
  have hget := congrArg (fun v : Vector UInt8 32 => v.get ⟨i, by omega⟩) h
  simpa [hi] using hget

theorem copyHashes_tellApart : copyHashes.TellApart where
  data := by
    intro token nonce nonce' h
    simp only [copyHashes_sha256] at h
    exact eq_of_copy_eq (by omega) h
  prk := fun _ _ _ h => eq_of_copy_eq (by omega) h
  key := fun _ _ _ h => eq_of_copy_eq (by omega) h

/-- A second connection draws another nonce. -/
def otherOutcome : ConnectOutcome := { connectOutcome with random := .ok (Vector.replicate 16 1) }

/-- With a token, one ping on each of two connections are two encryptions under different keys. -/
theorem noReuse_iff_token :
    let operations : List TransportOperation :=
      [.connect "tcp://relay" connectOutcome, .connect "tcp://relay" otherOutcome,
        .call 0 (.sendKtpFrame (.connection .ping []) .complete ""),
        .call 1 (.sendKtpFrame (.connection .ping []) .complete "")]
    (run copyHashes clearAead (.newWithToken "token") operations).encrypted.length = 2 ∧
      ((run copyHashes clearAead (.newWithToken "token") operations).encrypted.map
        Encryption.keyNonce).Nodup := by
  intro operations
  refine ⟨by decide +kernel, ?_⟩
  exact (noReuse_iff copyHashes_tellApart clearAead_total (.newWithToken "token")).1.mpr
    ⟨_, _, rfl⟩ operations (by decide +kernel)

/-- With a static key the first record of every connection is encrypted under the same key and
nonce. -/
theorem static_key_reuses_nonce :
    (run copyHashes clearAead (.new ⟨Vector.replicate 32 0⟩) pingTwice).drawn.Nodup ∧
      ¬((run copyHashes clearAead (.new ⟨Vector.replicate 32 0⟩) pingTwice).encrypted.map
        Encryption.keyNonce).Nodup := by
  obtain ⟨hdrawn, hencrypted⟩ := @run_static copyHashes clearAead (.new ⟨Vector.replicate 32 0⟩)
    clearAead_total _ rfl
  rw [hdrawn, hencrypted]
  exact ⟨List.nodup_nil, by decide⟩

end Connections

end KeliAgent
