import KeliAgent.Tunnel.Rules

/-!
# Preflight of tunnel rules

`tunnel_preflight.rs`: what keeps a rule from being served on one of its sides. What the host
contributes (the operating system, the parser of IP addresses, and whether an endpoint can be
bound) is a parameter.
-/

namespace KeliAgent

inductive IpVersion where
  | v4 | v6
  deriving DecidableEq, Repr

/-- `bind` is the error of binding an endpoint, if it fails. -/
structure TunnelHost where
  osSupported : Bool
  parseIp : String → Option IpVersion
  bind : String → Option String

inductive TunnelPreflightIssueCode where
  | unsupportedOs | listenBindFailed | invalidTarget | invalidAllowlist
  deriving DecidableEq, Repr

def tunnelPreflightStatus : TunnelPreflightIssueCode → String
  | .unsupportedOs => "unsupported_os"
  | .listenBindFailed => "listen_bind_failed"
  | .invalidTarget => "invalid_target"
  | .invalidAllowlist => "invalid_allowlist"

structure TunnelPreflightIssue where
  ruleId : UInt64
  code : TunnelPreflightIssueCode
  message : String
  deriving DecidableEq, Repr

inductive TunnelPreflightSide where
  | ingress | egress
  deriving DecidableEq, Repr

structure TunnelTcpRulePreflightInput where
  ruleId : UInt64
  listenAddress : String
  listenPort : UInt16
  targetHost : String
  targetPort : UInt16
  sourceAllowlist : String
  deriving DecidableEq, Repr

/-- `tcp_endpoint`, and `tcp_target_addr` of the runtime: an IPv6 address is bracketed. -/
def tcpEndpoint (address : String) (port : UInt16) : String :=
  let address := Text.trim address
  if ':' ∈ address.toList ∧ address.toList.head? ≠ some '[' then
    "[" ++ address ++ "]:" ++ toString port
  else address ++ ":" ++ toString port

namespace TunnelHost

variable (host : TunnelHost)

def allowlistEntryIsValid (entry : String) : Bool :=
  if entry = "*" then true
  else
    match Text.splitOnce entry "/" with
    | some (network, networkBits) =>
      match host.parseIp (Text.trim network), Text.parseU8 (Text.trim networkBits) with
      | some .v4, some bits => decide (bits ≤ 32)
      | some .v6, some bits => decide (bits ≤ 128)
      | _, _ => false
    | none => (host.parseIp entry).isSome

def allowlistIsValid (allowlist : String) : Bool :=
  let allowlist := Text.trim allowlist
  if allowlist = "" then true
  else
    ((Text.split allowlist fun c => c == ',' || Text.isWhitespace c).filter
      fun entry => Text.trim entry ≠ "").all host.allowlistEntryIsValid

def checkListenerBindable (listenAddress : String) (listenPort : UInt16) :
    Option TunnelPreflightIssue :=
  let endpoint := tcpEndpoint listenAddress listenPort
  (host.bind endpoint).map fun error =>
    { ruleId := 0
      code := .listenBindFailed
      message := "cannot bind listener " ++ endpoint ++ ": " ++ error }

/-- The issues of the input on the side. -/
def validateTunnelTcpRuleForSide (input : TunnelTcpRulePreflightInput)
    (side : TunnelPreflightSide) : List TunnelPreflightIssue :=
  (if host.osSupported then []
    else [⟨input.ruleId, .unsupportedOs, "tunnel forwarding is only supported on Linux"⟩]) ++
  match side with
  | .ingress =>
    (if host.allowlistIsValid input.sourceAllowlist then []
      else
        [⟨input.ruleId, .invalidAllowlist,
          "source allowlist contains an invalid IP or CIDR entry"⟩]) ++
    (match host.checkListenerBindable input.listenAddress input.listenPort with
      | none => []
      | some issue => [{ issue with ruleId := input.ruleId }])
  | .egress =>
    if Text.trim input.targetHost = "" ∨ input.targetPort = 0 then
      [⟨input.ruleId, .invalidTarget, "target host and port are required"⟩]
    else []

/-- **Every issue names the rule that it is about.** -/
theorem ruleId_of_mem_validate {input : TunnelTcpRulePreflightInput} {side : TunnelPreflightSide}
    {issue : TunnelPreflightIssue} (h : issue ∈ host.validateTunnelTcpRuleForSide input side) :
    issue.ruleId = input.ruleId := by
  have hsingle : ∀ {code message} {p : Prop} [Decidable p],
      (issue ∈ if p then [] else [(⟨input.ruleId, code, message⟩ : TunnelPreflightIssue)]) →
        issue.ruleId = input.ruleId := by
    intro code message p _ h
    split_ifs at h
    · cases h
    · rw [List.mem_singleton.mp h]
  cases side with
  | ingress =>
    simp only [validateTunnelTcpRuleForSide] at h
    rcases List.mem_append.mp h with h | h
    · exact hsingle h
    · rcases List.mem_append.mp h with h | h
      · exact hsingle h
      · split at h
        · cases h
        · rw [List.mem_singleton.mp h]
  | egress =>
    simp only [validateTunnelTcpRuleForSide] at h
    rcases List.mem_append.mp h with h | h
    · exact hsingle h
    · split_ifs at h
      · rw [List.mem_singleton.mp h]
      · cases h

/-- On the ingress side all issues but that of binding are about the system and the allowlist. -/
theorem validate_ingress_except_bind (input : TunnelTcpRulePreflightInput) :
    (∀ issue ∈ host.validateTunnelTcpRuleForSide input .ingress, issue.code = .listenBindFailed) ↔
      host.osSupported = true ∧ host.allowlistIsValid input.sourceAllowlist = true := by
  have hbind : ∀ issue, host.checkListenerBindable input.listenAddress input.listenPort = some issue →
      issue.code = .listenBindFailed := by
    intro issue h
    obtain ⟨error, -, rfl⟩ := Option.map_eq_some_iff.mp h
    rfl
  cases hos : host.osSupported <;> cases hallow : host.allowlistIsValid input.sourceAllowlist <;>
    cases hissue : host.checkListenerBindable input.listenAddress input.listenPort <;>
    simp [validateTunnelTcpRuleForSide, hos, hallow, hissue, hbind _]

end TunnelHost

end KeliAgent
