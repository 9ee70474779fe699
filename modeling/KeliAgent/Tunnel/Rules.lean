import KeliAgent.Lib.Text

/-!
# Tunnel rules and their listeners

The rules that the server assigns to the agent, the data transport they use, and the listeners they
call for (`tunnel_control.rs`, `tunnel_runtime.rs`).

* `buildTcpListenerPlanForDataTransport`: the listeners that a runtime should have.
* `TunnelTcpListenerSpec.identity`: what makes two listeners the same; `sameListenerIdentity_iff`.
-/

namespace KeliAgent

def tunnelDataTransportWebsocket : String := "websocket"

def tunnelDataTransportKtpTcp : String := "ktp_tcp"

structure SelectedTunnelRule where
  id : UInt64
  name : String
  enabled : Bool
  protocol : String
  role : String
  listenAddress : String
  listenPort : UInt16
  targetHost : String
  targetPort : UInt16
  sourceAllowlist : String
  maxConcurrentSessions : UInt32
  dataTransport : String
  deriving DecidableEq, Repr

/-- `SelectedTunnelRule::data_transport`, with its default. -/
def SelectedTunnelRule.transport (rule : SelectedTunnelRule) : String :=
  let value := Text.trim rule.dataTransport
  if value = "" then tunnelDataTransportWebsocket else value

def ruleUsesDataTransport (rule : SelectedTunnelRule) (dataTransport : String) : Bool :=
  Text.eqIgnoreAsciiCase (Text.trim rule.transport) (Text.trim dataTransport)

/-- All names but that of `ktp_tcp` stand for the websocket transport. -/
def normalizeDataTransportFilter (dataTransport : String) : String :=
  if Text.eqIgnoreAsciiCase (Text.trim dataTransport) tunnelDataTransportKtpTcp then
    tunnelDataTransportKtpTcp
  else tunnelDataTransportWebsocket

/-! ## Listeners -/

structure TunnelTcpListenerSpec where
  ruleId : UInt64
  name : String
  listenAddress : String
  listenPort : UInt16
  targetHost : String
  targetPort : UInt16
  sourceAllowlist : String
  maxConcurrentSessions : UInt32
  deriving DecidableEq, Repr

def sameListenerEndpoint (left right : TunnelTcpListenerSpec) : Bool :=
  Text.trim left.listenAddress == Text.trim right.listenAddress &&
    left.listenPort == right.listenPort &&
    Text.trim left.sourceAllowlist == Text.trim right.sourceAllowlist

def sameListenerIdentity (left right : TunnelTcpListenerSpec) : Bool :=
  left.ruleId == right.ruleId && sameListenerEndpoint left right

/-- What makes two listeners the same. -/
def TunnelTcpListenerSpec.identity (spec : TunnelTcpListenerSpec) :
    UInt64 × String × UInt16 × String :=
  (spec.ruleId, Text.trim spec.listenAddress, spec.listenPort, Text.trim spec.sourceAllowlist)

theorem sameListenerIdentity_iff {left right : TunnelTcpListenerSpec} :
    sameListenerIdentity left right = true ↔ left.identity = right.identity := by
  simp [sameListenerIdentity, sameListenerEndpoint, TunnelTcpListenerSpec.identity, and_assoc]

theorem sameListenerIdentity_comm (left right : TunnelTcpListenerSpec) :
    sameListenerIdentity left right = sameListenerIdentity right left := by
  rw [Bool.eq_iff_iff, sameListenerIdentity_iff, sameListenerIdentity_iff]
  exact eq_comm

/-- Listeners that are the same cannot be told apart by identity. -/
theorem sameListenerIdentity_congr {left right : TunnelTcpListenerSpec}
    (h : left.identity = right.identity) (spec : TunnelTcpListenerSpec) :
    sameListenerIdentity left spec = sameListenerIdentity right spec := by
  rw [Bool.eq_iff_iff, sameListenerIdentity_iff, sameListenerIdentity_iff, h]

def listenerSpecForRule (rule : SelectedTunnelRule) : TunnelTcpListenerSpec where
  ruleId := rule.id
  name := Text.trim rule.name
  listenAddress := Text.trim rule.listenAddress
  listenPort := rule.listenPort
  targetHost := Text.trim rule.targetHost
  targetPort := rule.targetPort
  sourceAllowlist := Text.trim rule.sourceAllowlist
  maxConcurrentSessions := rule.maxConcurrentSessions

/-! ## The listener plan -/

/-- `sort_by_key(|listener| listener.rule_id)`, which is stable. -/
def sortByRuleId (listeners : List TunnelTcpListenerSpec) : List TunnelTcpListenerSpec :=
  listeners.insertionSort fun left right => left.ruleId ≤ right.ruleId

theorem mem_sortByRuleId {spec : TunnelTcpListenerSpec} {listeners : List TunnelTcpListenerSpec} :
    spec ∈ sortByRuleId listeners ↔ spec ∈ listeners :=
  (List.perm_insertionSort _ listeners).mem_iff

/-- The rule gets a listener: the role is compared as it is written. -/
def plansListener (dataTransport : String) (rule : SelectedTunnelRule) : Bool :=
  rule.enabled && Text.eqIgnoreAsciiCase (Text.trim rule.protocol) "tcp" &&
    ruleUsesDataTransport rule dataTransport &&
    (Text.trim rule.role == "ingress" || Text.trim rule.role == "both")

def buildTcpListenerPlanForDataTransport (rules : List SelectedTunnelRule)
    (dataTransport : String) : List TunnelTcpListenerSpec :=
  sortByRuleId
    ((rules.filter (plansListener (normalizeDataTransportFilter dataTransport))).map
      listenerSpecForRule)

/-- The plan of the websocket transport. -/
def buildTcpListenerPlan (rules : List SelectedTunnelRule) : List TunnelTcpListenerSpec :=
  buildTcpListenerPlanForDataTransport rules tunnelDataTransportWebsocket

theorem mem_listenerPlan {rules : List SelectedTunnelRule} {dataTransport : String}
    {spec : TunnelTcpListenerSpec} :
    spec ∈ buildTcpListenerPlanForDataTransport rules dataTransport ↔
      ∃ rule ∈ rules, plansListener (normalizeDataTransportFilter dataTransport) rule = true ∧
        listenerSpecForRule rule = spec := by
  rw [buildTcpListenerPlanForDataTransport, mem_sortByRuleId]
  simp [and_assoc]

end KeliAgent
