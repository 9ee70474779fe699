import KeliAgent.Lib.Text

/-!
# Errors and URLs of the connections

`TransportError` and `build_basic_info_url` of `transport.rs`, `ProtocolError` and the websocket
URLs of `protocol.rs`. What a URL needs from the host (which names are IP
addresses, and the ASCII form of a domain) is a parameter.
-/

namespace KeliAgent

inductive TransportError where
  | emptyEndpoint
  | emptyToken
  | unsupportedScheme (scheme : String)
  | invalidClientToken (operation token : String) (statusCode : UInt16) (detail : String)
  | requestFailed (message : String)
  | socketClosed
  deriving DecidableEq, Repr

inductive ProtocolError where
  | emptyEndpoint
  | emptyToken
  | emptyTerminalId
  | invalidMessage (error : String)
  | unsupportedScheme (scheme : String)
  deriving DecidableEq, Repr

/-! ## URLs -/

/-- `isIp` is whether `IpAddr` parses; `domainToAscii` is that of `idna`. -/
structure UrlHost where
  isIp : String → Bool
  domainToAscii : String → Option String

/-- The two upper-case hexadecimal digits of a byte, as `{:02X}` prints it. -/
def upperHexByte (byte : UInt8) : List Char :=
  [(Nat.digitChar (byte.toNat / 16)).toUpper, (Nat.digitChar (byte.toNat % 16)).toUpper]

/-- The bytes that `percent_encode` keeps. -/
def isUnreserved (byte : UInt8) : Bool :=
  (0x41 ≤ byte && byte ≤ 0x5A) || (0x61 ≤ byte && byte ≤ 0x7A) || (0x30 ≤ byte && byte ≤ 0x39) ||
    byte == 0x2D || byte == 0x2E || byte == 0x5F || byte == 0x7E

def percentEncode (value : String) : String :=
  String.ofList (value.toUTF8.toList.flatMap fun byte =>
    if isUnreserved byte then [Char.ofNat byte.toNat] else '%' :: upperHexByte byte)

def requireNonEmpty {ε : Type} (value : String) (error : ε) : Except ε String :=
  if Text.trim value = "" then .error error else .ok (Text.trim value)

/-- The endpoint without blanks around it and slashes at its end. -/
def trimEndpoint (endpoint : String) : String := Text.trimEndMatches (Text.trim endpoint) '/'

/-- The scheme that an error names. -/
def schemeOf (endpoint : String) : String :=
  ((Text.splitOnce endpoint "://").map (·.1)).getD "missing"

/-- `normalize_http_base` of `transport.rs`. -/
def normalizeHttpBase (endpoint : String) : Except TransportError String :=
  let endpoint := trimEndpoint endpoint
  if endpoint = "" then .error .emptyEndpoint
  else if Text.startsWith endpoint "https://" || Text.startsWith endpoint "http://" then
    .ok endpoint
  else .error (.unsupportedScheme (schemeOf endpoint))

def buildBasicInfoUrl (endpoint token : String) : Except TransportError String := do
  let endpoint ← normalizeHttpBase endpoint
  let token ← requireNonEmpty token .emptyToken
  return endpoint ++ "/api/clients/uploadBasicInfo?token=" ++ percentEncode token

namespace UrlHost

/-- Hosts are names, in ASCII. -/
def plain : UrlHost where
  isIp := fun _ => false
  domainToAscii := some

variable (host : UrlHost)

def authorityWithAsciiHost (authority : String) : String :=
  if Text.startsWith authority "[" then authority
  else
    let (name, port) :=
      if authority.toList.count ':' = 1 then
        ((Text.splitOnce authority ":").map fun (name, port) => (name, ":" ++ port)).getD
          (authority, "")
      else (authority, "")
    if host.isIp name || name = "" then authority
    else (host.domainToAscii name).getD name ++ port

def endpointRestWithAsciiHost (rest : String) : String :=
  let (authority, suffix) :=
    ((Text.splitOnce rest "/").map fun (authority, suffix) => (authority, "/" ++ suffix)).getD
      (rest, "")
  host.authorityWithAsciiHost authority ++ suffix

/-- The schemes of an endpoint, with the scheme of the websocket. -/
def wsSchemes : List (String × String) :=
  [("https://", "wss://"), ("http://", "ws://"), ("wss://", "wss://"), ("ws://", "ws://")]

def normalizeWsBase (endpoint : String) : Except ProtocolError String :=
  let endpoint := trimEndpoint endpoint
  if endpoint = "" then .error .emptyEndpoint
  else
    match wsSchemes.findSome? fun (scheme, ws) => (Text.stripStart endpoint scheme).map (ws, ·) with
    | some (ws, rest) => .ok (ws ++ host.endpointRestWithAsciiHost rest)
    | none => .error (.unsupportedScheme (schemeOf endpoint))

def buildWsUrl (endpoint path : String) (query : List (String × String)) :
    Except ProtocolError String := do
  let base ← host.normalizeWsBase endpoint
  let query := "&".intercalate (query.map fun (key, value) => key ++ "=" ++ percentEncode value)
  return base ++ path ++ "?" ++ query

/-- A path with the token as its only parameter. -/
def buildTokenWsUrl (path endpoint token : String) : Except ProtocolError String := do
  let token ← requireNonEmpty token .emptyToken
  host.buildWsUrl endpoint path [("token", token)]

def buildReportWsUrl : String → String → Except ProtocolError String :=
  host.buildTokenWsUrl "/api/clients/report"

def buildTunnelControlWsUrl : String → String → Except ProtocolError String :=
  host.buildTokenWsUrl "/api/clients/tunnel"

def buildTunnelDataWsUrl : String → String → Except ProtocolError String :=
  host.buildTokenWsUrl "/api/clients/tunnel/data"

end UrlHost

end KeliAgent
