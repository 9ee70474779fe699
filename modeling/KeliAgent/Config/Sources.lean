import KeliAgent.Config.FileConfig
import KeliAgent.Lib.Layers

/-!
# The configuration of the agent

`AgentConfig::from_args_and_env` of `config.rs`. The variables of the function are the fields of a
record; the environment is read into them, then the arguments, the environment again, and the
configuration file.

* `Setting`, `Switch`: the options with a value and those without one.
* `initialEnvKey`, `envKey`: the variables of the two passes over the environment.
* `valueFlags`, `assignmentFlags`, `switchFlags`: the arguments of the loop.
* `FileConfig.value`, `FileConfig.switch`: the fields of the file.
* `fromArgsAndEnv`.
-/

namespace KeliAgent.Config

open Wire Layers

/-! ## Options -/

/-- An option with a value. -/
inductive Setting where
  | endpoint
  | token
  | autoDiscoveryKey
  | tunnelKtpTcpAddress
  | tunnelKtpTlsCaCert
  | tunnelKtpTcpAuthVersion
  | tunnelKtpRelayBatchPolicy
  | highSessionThreshold
  | elevatedDwellP95Micros
  | severeDwellP95Micros
  | elevatedBatchCap
  | severeBatchCap
  | intervalSeconds
  | maxRetries
  | reconnectIntervalSeconds
  | infoReportIntervalMinutes
  | cfAccessClientId
  | cfAccessClientSecret
  | includeNics
  | excludeNics
  | includeMountpoints
  | customIpv4
  | customIpv6
  | customDns
  | monthRotate
  | hostProc
  | configFile
  deriving DecidableEq, Repr

namespace Setting

@[reducible] def kind : Setting → Kind
  | endpoint | token | autoDiscoveryKey => .optional
  | tunnelKtpTcpAuthVersion => .authVersion
  | tunnelKtpRelayBatchPolicy => .batchPolicy
  | highSessionThreshold | elevatedBatchCap | severeBatchCap => .usize
  | elevatedDwellP95Micros | severeDwellP95Micros | reconnectIntervalSeconds => .u64
  | infoReportIntervalMinutes => .u64AllowZero
  | maxRetries | monthRotate => .u32
  | intervalSeconds => .f64
  | tunnelKtpTcpAddress | tunnelKtpTlsCaCert | cfAccessClientId | cfAccessClientSecret
  | includeNics | excludeNics | includeMountpoints | customIpv4 | customIpv6 | customDns
  | hostProc | configFile => .text

/-- The variables of the first pass, which skips some options. -/
def initialEnvKey : Setting → Option String
  | endpoint => some "AGENT_ENDPOINT"
  | token => some "AGENT_TOKEN"
  | autoDiscoveryKey => some "AGENT_AUTO_DISCOVERY_KEY"
  | tunnelKtpTcpAddress => some "AGENT_TUNNEL_KTP_TCP_ADDRESS"
  | tunnelKtpTlsCaCert => some "AGENT_TUNNEL_KTP_TLS_CA_CERT"
  | tunnelKtpTcpAuthVersion | tunnelKtpRelayBatchPolicy | highSessionThreshold
  | elevatedDwellP95Micros | severeDwellP95Micros | elevatedBatchCap | severeBatchCap => none
  | intervalSeconds => some "AGENT_INTERVAL"
  | maxRetries => some "AGENT_MAX_RETRIES"
  | reconnectIntervalSeconds => some "AGENT_RECONNECT_INTERVAL"
  | infoReportIntervalMinutes => some "AGENT_INFO_REPORT_INTERVAL"
  | cfAccessClientId => some "AGENT_CF_ACCESS_CLIENT_ID"
  | cfAccessClientSecret => some "AGENT_CF_ACCESS_CLIENT_SECRET"
  | includeNics => some "AGENT_INCLUDE_NICS"
  | excludeNics => some "AGENT_EXCLUDE_NICS"
  | includeMountpoints => some "AGENT_INCLUDE_MOUNTPOINTS"
  | customIpv4 => some "AGENT_CUSTOM_IPV4"
  | customIpv6 => some "AGENT_CUSTOM_IPV6"
  | customDns => some "AGENT_CUSTOM_DNS"
  | monthRotate => some "AGENT_MONTH_ROTATE"
  | hostProc => some "HOST_PROC"
  | configFile => some "AGENT_CONFIG_FILE"

/-- The variables of the second pass. -/
def envKey : Setting → String
  | endpoint => "AGENT_ENDPOINT"
  | token => "AGENT_TOKEN"
  | autoDiscoveryKey => "AGENT_AUTO_DISCOVERY_KEY"
  | tunnelKtpTcpAddress => "AGENT_TUNNEL_KTP_TCP_ADDRESS"
  | tunnelKtpTlsCaCert => "AGENT_TUNNEL_KTP_TLS_CA_CERT"
  | tunnelKtpTcpAuthVersion => "AGENT_TUNNEL_KTP_TCP_AUTH_VERSION"
  | tunnelKtpRelayBatchPolicy => "AGENT_TUNNEL_KTP_RELAY_BATCH_POLICY"
  | highSessionThreshold => "AGENT_TUNNEL_KTP_RELAY_ADAPTIVE_HIGH_SESSIONS"
  | elevatedDwellP95Micros => "AGENT_TUNNEL_KTP_RELAY_ADAPTIVE_ELEVATED_DWELL_US"
  | severeDwellP95Micros => "AGENT_TUNNEL_KTP_RELAY_ADAPTIVE_SEVERE_DWELL_US"
  | elevatedBatchCap => "AGENT_TUNNEL_KTP_RELAY_ADAPTIVE_ELEVATED_CAP"
  | severeBatchCap => "AGENT_TUNNEL_KTP_RELAY_ADAPTIVE_SEVERE_CAP"
  | intervalSeconds => "AGENT_INTERVAL"
  | maxRetries => "AGENT_MAX_RETRIES"
  | reconnectIntervalSeconds => "AGENT_RECONNECT_INTERVAL"
  | infoReportIntervalMinutes => "AGENT_INFO_REPORT_INTERVAL"
  | cfAccessClientId => "AGENT_CF_ACCESS_CLIENT_ID"
  | cfAccessClientSecret => "AGENT_CF_ACCESS_CLIENT_SECRET"
  | includeNics => "AGENT_INCLUDE_NICS"
  | excludeNics => "AGENT_EXCLUDE_NICS"
  | includeMountpoints => "AGENT_INCLUDE_MOUNTPOINTS"
  | customIpv4 => "AGENT_CUSTOM_IPV4"
  | customIpv6 => "AGENT_CUSTOM_IPV6"
  | customDns => "AGENT_CUSTOM_DNS"
  | monthRotate => "AGENT_MONTH_ROTATE"
  | hostProc => "HOST_PROC"
  | configFile => "AGENT_CONFIG_FILE"

/-- The names in the errors of the configuration file; most values there cannot be wrong. -/
def fileErrorKey : Setting → String
  | tunnelKtpTcpAuthVersion => "tunnel_ktp_tcp_auth_version"
  | tunnelKtpRelayBatchPolicy => "tunnel_ktp_relay_batch_policy"
  | highSessionThreshold => "tunnel_ktp_relay_adaptive_high_sessions"
  | elevatedDwellP95Micros => "tunnel_ktp_relay_adaptive_elevated_dwell_us"
  | severeDwellP95Micros => "tunnel_ktp_relay_adaptive_severe_dwell_us"
  | elevatedBatchCap => "tunnel_ktp_relay_adaptive_elevated_cap"
  | severeBatchCap => "tunnel_ktp_relay_adaptive_severe_cap"
  | intervalSeconds => "interval"
  | reconnectIntervalSeconds => "reconnect_interval"
  | _ => ""

/-- A value in the environment that is not accepted is an error. For the other options such a value
is ignored. -/
def strict : Setting → Bool
  | tunnelKtpTcpAuthVersion | tunnelKtpRelayBatchPolicy | highSessionThreshold
  | elevatedDwellP95Micros | severeDwellP95Micros | elevatedBatchCap | severeBatchCap => true
  | _ => false

def default (floats : Floats) : (o : Setting) → o.kind.Value floats
  | endpoint | token | autoDiscoveryKey => none
  | tunnelKtpTcpAuthVersion => .v1
  | tunnelKtpRelayBatchPolicy => ⟨.fixed, false⟩
  | highSessionThreshold => TunnelRelayBatchTuning.default.highSessionThreshold
  | elevatedDwellP95Micros => TunnelRelayBatchTuning.default.elevatedDwellP95Micros
  | severeDwellP95Micros => TunnelRelayBatchTuning.default.severeDwellP95Micros
  | elevatedBatchCap => TunnelRelayBatchTuning.default.elevatedBatchCap
  | severeBatchCap => TunnelRelayBatchTuning.default.severeBatchCap
  | intervalSeconds => floats.one
  | maxRetries => (3 : ℕ)
  | reconnectIntervalSeconds => (5 : ℕ)
  | infoReportIntervalMinutes => (5 : ℕ)
  | monthRotate => (0 : ℕ)
  | tunnelKtpTcpAddress | tunnelKtpTlsCaCert | cfAccessClientId | cfAccessClientSecret
  | includeNics | excludeNics | includeMountpoints | customIpv4 | customIpv6 | customDns
  | hostProc | configFile => ""

end Setting

/-- An option without a value. -/
inductive Switch where
  | insecure
  | disableWebSsh
  | tunnelControlEnabled
  | tunnelDataEnabled
  | getIpAddrFromNic
  | memoryIncludeCache
  | memoryReportRawUsed
  | enableGpu
  | once
  deriving DecidableEq, Repr

/-- A variable of the function. -/
inductive Field where
  | value (o : Setting)
  | switch (s : Switch)
  deriving DecidableEq, Repr

variable (floats : Floats)

@[reducible] def Field.Value : Field → Type
  | value o => o.kind.Value floats
  | switch _ => Bool

/-- The variables, in the order in which the environment and the file are read. -/
def fields : List Field :=
  [.value .endpoint, .value .token, .value .autoDiscoveryKey, .switch .insecure,
    .switch .disableWebSsh, .switch .tunnelControlEnabled, .switch .tunnelDataEnabled,
    .value .tunnelKtpTcpAddress, .value .tunnelKtpTlsCaCert, .value .tunnelKtpTcpAuthVersion,
    .value .tunnelKtpRelayBatchPolicy, .value .highSessionThreshold,
    .value .elevatedDwellP95Micros, .value .severeDwellP95Micros, .value .elevatedBatchCap,
    .value .severeBatchCap, .value .intervalSeconds, .value .maxRetries,
    .value .reconnectIntervalSeconds, .value .infoReportIntervalMinutes, .value .cfAccessClientId,
    .value .cfAccessClientSecret, .value .includeNics, .value .excludeNics,
    .value .includeMountpoints, .value .customIpv4, .value .customIpv6, .value .customDns,
    .switch .getIpAddrFromNic, .switch .memoryIncludeCache, .switch .memoryReportRawUsed,
    .switch .enableGpu, .value .monthRotate, .value .hostProc, .value .configFile, .switch .once]

abbrev Values : Type := (f : Field) → f.Value floats

abbrev Env : Type := String → Option String

/-! ## The environment -/

/-- The first pass, for an option with a value. -/
def Setting.initial (env : Env) (o : Setting) : o.kind.Value floats :=
  match o.initialEnvKey with
  | none => o.default floats
  | some key =>
    match cleanOptional (env key) with
    | some value => ((o.kind.parse floats key value).toOption).getD (o.default floats)
    | none => o.default floats

/-- The first pass, for an option without a value. -/
def Switch.initial (env : Env) : Switch → Bool
  | insecure =>
    (((env "AGENT_IGNORE_UNSAFE_CERT").or (env "AGENT_INSECURE")).map parseBool).getD false
  | disableWebSsh => ((env "AGENT_DISABLE_WEB_SSH").map parseBool).getD false
  | tunnelControlEnabled =>
    ((env "AGENT_TUNNEL_CONTROL_ENABLED").bind parseTunnelControlEnabled).getD true
  | tunnelDataEnabled => false
  | getIpAddrFromNic => ((env "AGENT_GET_IP_ADDR_FROM_NIC").map parseBool).getD false
  | memoryIncludeCache => ((env "AGENT_MEMORY_INCLUDE_CACHE").map parseBool).getD false
  | memoryReportRawUsed => ((env "AGENT_MEMORY_REPORT_RAW_USED").map parseBool).getD false
  | enableGpu => ((env "AGENT_ENABLE_GPU").map parseBool).getD false
  | once => ((env "AGENT_ONCE").map parseBool).getD false

def Field.initial (env : Env) : Values floats
  | value o => o.initial floats env
  | switch s => s.initial env

/-- What the second pass assigns to an option with a value. -/
def Setting.fromEnv (env : Env) (o : Setting) : Except ConfigError (Option (o.kind.Value floats)) :=
  match cleanOptional (env o.envKey) with
  | none => .ok none
  | some value =>
    if o.strict then (o.kind.parse floats o.envKey value).map some
    else .ok (o.kind.parse floats o.envKey value).toOption

/-- `apply_bool_true_env` -/
def boolTrueEnv (env : Env) (key : String) : Option Bool :=
  if (env key).any parseBool then some true else none

/-- What the second pass assigns to an option without a value. -/
def Switch.fromEnv (env : Env) : Switch → Option Bool
  | insecure => (boolTrueEnv env "AGENT_INSECURE").or (boolTrueEnv env "AGENT_IGNORE_UNSAFE_CERT")
  | disableWebSsh => boolTrueEnv env "AGENT_DISABLE_WEB_SSH"
  | tunnelControlEnabled => (env "AGENT_TUNNEL_CONTROL_ENABLED").bind parseTunnelControlEnabled
  | tunnelDataEnabled => (env "AGENT_TUNNEL_DATA_ENABLED").map parseBool
  | getIpAddrFromNic => boolTrueEnv env "AGENT_GET_IP_ADDR_FROM_NIC"
  | memoryIncludeCache => boolTrueEnv env "AGENT_MEMORY_INCLUDE_CACHE"
  | memoryReportRawUsed => boolTrueEnv env "AGENT_MEMORY_REPORT_RAW_USED"
  | enableGpu => boolTrueEnv env "AGENT_ENABLE_GPU"
  | once => boolTrueEnv env "AGENT_ONCE"

def Field.fromEnv (env : Env) : (f : Field) → Except ConfigError (Option (f.Value floats))
  | value o => o.fromEnv floats env
  | switch s => .ok (s.fromEnv env)

/-! ## The arguments -/

/-- The arguments that take the next one as their value, with the name in errors. -/
def valueFlags : List (String × String × Setting) :=
  [("--endpoint", "--endpoint", .endpoint), ("-e", "-e", .endpoint),
    ("--token", "--token", .token), ("-t", "-t", .token),
    ("--auto-discovery", "--auto-discovery", .autoDiscoveryKey),
    ("--tunnel-ktp-tcp-address", "--tunnel-ktp-tcp-address", .tunnelKtpTcpAddress),
    ("--ktp-tcp-address", "--tunnel-ktp-tcp-address", .tunnelKtpTcpAddress),
    ("--tunnel-ktp-tls-ca-cert", "--tunnel-ktp-tls-ca-cert", .tunnelKtpTlsCaCert),
    ("--ktp-tls-ca-cert", "--tunnel-ktp-tls-ca-cert", .tunnelKtpTlsCaCert),
    ("--tunnel-ktp-tcp-auth-version", "--tunnel-ktp-tcp-auth-version", .tunnelKtpTcpAuthVersion),
    ("--ktp-tcp-auth-version", "--tunnel-ktp-tcp-auth-version", .tunnelKtpTcpAuthVersion),
    ("--tunnel-ktp-relay-batch-policy", "--tunnel-ktp-relay-batch-policy",
      .tunnelKtpRelayBatchPolicy),
    ("--ktp-relay-batch-policy", "--tunnel-ktp-relay-batch-policy", .tunnelKtpRelayBatchPolicy),
    ("--tunnel-ktp-relay-adaptive-high-sessions", "--tunnel-ktp-relay-adaptive-high-sessions",
      .highSessionThreshold),
    ("--ktp-relay-adaptive-high-sessions", "--tunnel-ktp-relay-adaptive-high-sessions",
      .highSessionThreshold),
    ("--tunnel-ktp-relay-adaptive-elevated-dwell-us",
      "--tunnel-ktp-relay-adaptive-elevated-dwell-us", .elevatedDwellP95Micros),
    ("--ktp-relay-adaptive-elevated-dwell-us",
      "--tunnel-ktp-relay-adaptive-elevated-dwell-us", .elevatedDwellP95Micros),
    ("--tunnel-ktp-relay-adaptive-severe-dwell-us",
      "--tunnel-ktp-relay-adaptive-severe-dwell-us", .severeDwellP95Micros),
    ("--ktp-relay-adaptive-severe-dwell-us",
      "--tunnel-ktp-relay-adaptive-severe-dwell-us", .severeDwellP95Micros),
    ("--tunnel-ktp-relay-adaptive-elevated-cap", "--tunnel-ktp-relay-adaptive-elevated-cap",
      .elevatedBatchCap),
    ("--ktp-relay-adaptive-elevated-cap", "--tunnel-ktp-relay-adaptive-elevated-cap",
      .elevatedBatchCap),
    ("--tunnel-ktp-relay-adaptive-severe-cap", "--tunnel-ktp-relay-adaptive-severe-cap",
      .severeBatchCap),
    ("--ktp-relay-adaptive-severe-cap", "--tunnel-ktp-relay-adaptive-severe-cap",
      .severeBatchCap),
    ("--interval", "--interval", .intervalSeconds), ("-i", "-i", .intervalSeconds),
    ("--max-retries", "--max-retries", .maxRetries), ("-r", "-r", .maxRetries),
    ("--reconnect-interval", "--reconnect-interval", .reconnectIntervalSeconds),
    ("-c", "-c", .reconnectIntervalSeconds),
    ("--info-report-interval", "--info-report-interval", .infoReportIntervalMinutes),
    ("--cf-access-client-id", "--cf-access-client-id", .cfAccessClientId),
    ("--cf-access-client-secret", "--cf-access-client-secret", .cfAccessClientSecret),
    ("--include-nics", "--include-nics", .includeNics),
    ("--exclude-nics", "--exclude-nics", .excludeNics),
    ("--include-mountpoints", "--include-mountpoint", .includeMountpoints),
    ("--include-mountpoint", "--include-mountpoint", .includeMountpoints),
    ("--custom-ipv4", "--custom-ipv4", .customIpv4),
    ("--custom-ipv6", "--custom-ipv6", .customIpv6),
    ("--custom-dns", "--custom-dns", .customDns),
    ("--month-rotate", "--month-rotate", .monthRotate),
    ("--host-proc", "--host-proc", .hostProc), ("--config", "--config", .configFile)]

/-- The arguments without a value; one of them does nothing. -/
def switchFlags : List (String × Option Switch) :=
  [("--insecure", some .insecure), ("--ignore-unsafe-cert", some .insecure),
    ("-u", some .insecure), ("--disable-web-ssh", some .disableWebSsh), ("--once", some .once),
    ("--get-ip-addr-from-nic", some .getIpAddrFromNic),
    ("--memory-include-cache", some .memoryIncludeCache),
    ("--memory-exclude-bcf", some .memoryReportRawUsed), ("--memory-mode-available", none),
    ("-memory-mode-available", none), ("--enable-gpu", some .enableGpu),
    ("--gpu", some .enableGpu)]

/-- The arguments of the form `flag=value`, in the order in which they are tried. -/
def assignmentFlags : List (String × Setting) :=
  [("--endpoint", .endpoint), ("-e", .endpoint), ("--token", .token), ("-t", .token),
    ("--auto-discovery", .autoDiscoveryKey), ("--interval", .intervalSeconds),
    ("-i", .intervalSeconds), ("--max-retries", .maxRetries), ("-r", .maxRetries),
    ("--reconnect-interval", .reconnectIntervalSeconds), ("-c", .reconnectIntervalSeconds),
    ("--info-report-interval", .infoReportIntervalMinutes),
    ("--cf-access-client-id", .cfAccessClientId),
    ("--cf-access-client-secret", .cfAccessClientSecret), ("--include-nics", .includeNics),
    ("--exclude-nics", .excludeNics), ("--include-mountpoints", .includeMountpoints),
    ("--include-mountpoint", .includeMountpoints), ("--custom-ipv4", .customIpv4),
    ("--custom-ipv6", .customIpv6), ("--custom-dns", .customDns), ("--month-rotate", .monthRotate),
    ("--host-proc", .hostProc), ("--config", .configFile),
    ("--tunnel-ktp-tcp-address", .tunnelKtpTcpAddress), ("--ktp-tcp-address", .tunnelKtpTcpAddress),
    ("--tunnel-ktp-tls-ca-cert", .tunnelKtpTlsCaCert), ("--ktp-tls-ca-cert", .tunnelKtpTlsCaCert),
    ("--tunnel-ktp-tcp-auth-version", .tunnelKtpTcpAuthVersion),
    ("--ktp-tcp-auth-version", .tunnelKtpTcpAuthVersion),
    ("--tunnel-ktp-relay-batch-policy", .tunnelKtpRelayBatchPolicy),
    ("--ktp-relay-batch-policy", .tunnelKtpRelayBatchPolicy),
    ("--tunnel-ktp-relay-adaptive-high-sessions", .highSessionThreshold),
    ("--ktp-relay-adaptive-high-sessions", .highSessionThreshold),
    ("--tunnel-ktp-relay-adaptive-elevated-dwell-us", .elevatedDwellP95Micros),
    ("--ktp-relay-adaptive-elevated-dwell-us", .elevatedDwellP95Micros),
    ("--tunnel-ktp-relay-adaptive-severe-dwell-us", .severeDwellP95Micros),
    ("--ktp-relay-adaptive-severe-dwell-us", .severeDwellP95Micros),
    ("--tunnel-ktp-relay-adaptive-elevated-cap", .elevatedBatchCap),
    ("--ktp-relay-adaptive-elevated-cap", .elevatedBatchCap),
    ("--tunnel-ktp-relay-adaptive-severe-cap", .severeBatchCap),
    ("--ktp-relay-adaptive-severe-cap", .severeBatchCap)]

/-- The assignment by a flag and its value. -/
def readPair (name : String) (o : Setting) (value : String) :
    Except ConfigError (Option ((f : Field) × f.Value floats)) := do
  let value ← cleanRequired value name
  let parsed ← o.kind.parse floats name value
  return some ⟨.value o, parsed⟩

/-- The flag, the option and the text of an argument of the form `flag=value`. -/
def assignmentOf (arg : String) : Option (String × Setting × String) :=
  assignmentFlags.findSome? fun (flag, o) =>
    (Text.stripStart arg (flag ++ "=")).map fun rest => (flag, o, rest)

/-- The assignment by an argument that does not take the next one. -/
def readSingle (arg : String) : Except ConfigError (Option ((f : Field) × f.Value floats)) :=
  match switchFlags.lookup arg with
  | some switch => return switch.map fun s => ⟨.switch s, true⟩
  | none =>
    match assignmentOf arg with
    | some (flag, o, rest) => do
      let parsed ← o.kind.parseRest floats flag rest
      return some ⟨.value o, parsed⟩
    | none => return none

/-- The loop over the arguments. -/
def readArguments : List String → Values floats → Except ConfigError (Values floats)
  | [], values => return values
  | arg :: rest, values =>
    match valueFlags.lookup arg with
    | some (name, o) =>
      match rest with
      | [] => .error (.missingValue name)
      | value :: rest => do
        let assigned ← readPair floats name o value
        readArguments rest (assign values assigned)
    | none => do
      let assigned ← readSingle floats arg
      readArguments rest (assign values assigned)

/-! ## The configuration file -/

/-- The contents of the file at a path, or why it could not be read. -/
abbrev ReadFileConfig : Type := String → Except ConfigError (FileConfig floats)

namespace FileConfig

variable {floats} (file : FileConfig floats)

/-- The field of the file for an option with a value; the path of the file has none. -/
def value : (o : Setting) → Option (o.kind.FileValue floats)
  | .endpoint => file.endpoint
  | .token => file.token
  | .autoDiscoveryKey => file.autoDiscoveryKey
  | .tunnelKtpTcpAddress => file.tunnelKtpTcpAddress
  | .tunnelKtpTlsCaCert => file.tunnelKtpTlsCaCert
  | .tunnelKtpTcpAuthVersion => file.tunnelKtpTcpAuthVersion
  | .tunnelKtpRelayBatchPolicy => file.tunnelKtpRelayBatchPolicy
  | .highSessionThreshold => file.tunnelKtpRelayAdaptiveHighSessions
  | .elevatedDwellP95Micros => file.tunnelKtpRelayAdaptiveElevatedDwellUs
  | .severeDwellP95Micros => file.tunnelKtpRelayAdaptiveSevereDwellUs
  | .elevatedBatchCap => file.tunnelKtpRelayAdaptiveElevatedCap
  | .severeBatchCap => file.tunnelKtpRelayAdaptiveSevereCap
  | .intervalSeconds => file.interval
  | .maxRetries => file.maxRetries
  | .reconnectIntervalSeconds => file.reconnectInterval
  | .infoReportIntervalMinutes => file.infoReportInterval
  | .cfAccessClientId => file.cfAccessClientId
  | .cfAccessClientSecret => file.cfAccessClientSecret
  | .includeNics => file.includeNics
  | .excludeNics => file.excludeNics
  | .includeMountpoints => file.includeMountpoints
  | .customIpv4 => file.customIpv4
  | .customIpv6 => file.customIpv6
  | .customDns => file.customDns
  | .monthRotate => file.monthRotate
  | .hostProc => file.hostProc
  | .configFile => none

/-- The field of the file for an option without a value. -/
def switch : Switch → Option Bool
  | .insecure => file.ignoreUnsafeCert
  | .disableWebSsh => file.disableWebSsh
  | .tunnelControlEnabled => file.tunnelControlEnabled
  | .tunnelDataEnabled => file.tunnelDataEnabled
  | .getIpAddrFromNic => file.getIpAddrFromNic
  | .memoryIncludeCache => file.memoryIncludeCache
  | .memoryReportRawUsed => file.memoryReportRawUsed
  | .enableGpu => file.enableGpu
  | .once => none

/-- What the file assigns to a field. -/
def assigned : (f : Field) → Except ConfigError (Option (f.Value floats))
  | .value o =>
    match file.value o with
    | some value => (o.kind.ofFile floats o.fileErrorKey value).map some
    | none => .ok none
  | .switch s => .ok (file.switch s)

end FileConfig

/-! ## The configuration -/

structure AgentConfig where
  endpoint : String
  token : String
  autoDiscoveryKey : String
  insecure : Bool
  disableWebSsh : Bool
  tunnelControlEnabled : Bool
  tunnelDataEnabled : Bool
  tunnelKtpTcpAddress : String
  tunnelKtpTlsCaCert : String
  tunnelKtpTcpAuthVersion : KtpTcpAuthVersion
  tunnelKtpRelayBatchPolicy : TunnelRelayBatchPolicy
  tunnelKtpRelayBatchTuning : TunnelRelayBatchTuning
  intervalSeconds : floats.F64
  maxRetries : ℕ
  reconnectIntervalSeconds : ℕ
  infoReportIntervalMinutes : ℕ
  cfAccessClientId : String
  cfAccessClientSecret : String
  includeNics : String
  excludeNics : String
  includeMountpoints : String
  customIpv4 : String
  customIpv6 : String
  customDns : String
  getIpAddrFromNic : Bool
  memoryIncludeCache : Bool
  memoryReportRawUsed : Bool
  enableGpu : Bool
  monthRotate : ℕ
  hostProc : String
  once : Bool

variable {floats}

def tuningOf (values : Values floats) : TunnelRelayBatchTuning where
  highSessionThreshold := values (.value .highSessionThreshold)
  elevatedDwellP95Micros := values (.value .elevatedDwellP95Micros)
  severeDwellP95Micros := values (.value .severeDwellP95Micros)
  elevatedBatchCap := values (.value .elevatedBatchCap)
  severeBatchCap := values (.value .severeBatchCap)

def validateTunnelRelayBatchTuning (tuning : TunnelRelayBatchTuning) : Except ConfigError Unit :=
  if tuning.severeDwellP95Micros < tuning.elevatedDwellP95Micros then
    .error (.invalidValue "--tunnel-ktp-relay-adaptive-severe-dwell-us"
      (toString tuning.severeDwellP95Micros ++ " < " ++ toString tuning.elevatedDwellP95Micros))
  else if tuning.severeBatchCap > tuning.elevatedBatchCap then
    .error (.invalidValue "--tunnel-ktp-relay-adaptive-severe-cap"
      (toString tuning.severeBatchCap ++ " > " ++ toString tuning.elevatedBatchCap))
  else .ok ()

/-- The policy that holds if none was set. -/
def defaultPolicy (values : Values floats) : Values floats :=
  if values (.switch .tunnelDataEnabled) && !(values (.value .tunnelKtpRelayBatchPolicy)).explicit
  then
    Function.update values (.value .tunnelKtpRelayBatchPolicy)
      { values (.value .tunnelKtpRelayBatchPolicy) with policy := .adaptive }
  else values

/-- The checks at the end, and the result. -/
def finish (values : Values floats) : Except ConfigError (AgentConfig floats) := do
  validateTunnelRelayBatchTuning (tuningOf values)
  let endpoint ← okOr (values (.value .endpoint)) .missingEndpoint
  let token := (values (.value .token)).getD ""
  let autoDiscoveryKey := (values (.value .autoDiscoveryKey)).getD ""
  if token = "" ∧ autoDiscoveryKey = "" then .error .missingToken
  else
    return {
      endpoint
      token
      autoDiscoveryKey
      insecure := values (.switch .insecure)
      disableWebSsh := values (.switch .disableWebSsh)
      tunnelControlEnabled := values (.switch .tunnelControlEnabled)
      tunnelDataEnabled := values (.switch .tunnelDataEnabled)
      tunnelKtpTcpAddress := values (.value .tunnelKtpTcpAddress)
      tunnelKtpTlsCaCert := values (.value .tunnelKtpTlsCaCert)
      tunnelKtpTcpAuthVersion := values (.value .tunnelKtpTcpAuthVersion)
      tunnelKtpRelayBatchPolicy := (values (.value .tunnelKtpRelayBatchPolicy)).policy
      tunnelKtpRelayBatchTuning := tuningOf values
      intervalSeconds := values (.value .intervalSeconds)
      maxRetries := values (.value .maxRetries)
      reconnectIntervalSeconds := values (.value .reconnectIntervalSeconds)
      infoReportIntervalMinutes := values (.value .infoReportIntervalMinutes)
      cfAccessClientId := values (.value .cfAccessClientId)
      cfAccessClientSecret := values (.value .cfAccessClientSecret)
      includeNics := values (.value .includeNics)
      excludeNics := values (.value .excludeNics)
      includeMountpoints := values (.value .includeMountpoints)
      customIpv4 := values (.value .customIpv4)
      customIpv6 := values (.value .customIpv6)
      customDns := values (.value .customDns)
      getIpAddrFromNic := values (.switch .getIpAddrFromNic)
      memoryIncludeCache := values (.switch .memoryIncludeCache)
      memoryReportRawUsed := values (.switch .memoryReportRawUsed)
      enableGpu := values (.switch .enableGpu)
      monthRotate := values (.value .monthRotate)
      hostProc := values (.value .hostProc)
      once := values (.switch .once) }

/-- What follows the loop over the arguments. -/
def completeConfig (readFileConfig : ReadFileConfig floats) (env : Env) (values : Values floats) :
    Except ConfigError (AgentConfig floats) := do
  let values ← layer (Field.fromEnv floats env) fields values
  let path : String := values (.value .configFile)
  let values ← (if path = "" then return values
    else do
      let file ← readFileConfig path
      layer file.assigned fields values)
  finish (defaultPolicy values)

/-- `AgentConfig::from_args_and_env`; the first argument is the name of the program. -/
def fromArgsAndEnv (readFileConfig : ReadFileConfig floats) (args : List String) (env : Env) :
    Except ConfigError (AgentConfig floats) := do
  let values ← readArguments floats args.tail (Field.initial floats env)
  completeConfig readFileConfig env values

end KeliAgent.Config
