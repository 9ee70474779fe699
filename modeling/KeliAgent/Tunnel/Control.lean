import KeliAgent.Lib.Program
import KeliAgent.Transport
import KeliAgent.Tunnel.Rules

/-!
# The control session

`tunnel_control.rs`: the agent says hello to the server, takes over the rules that the server syncs,
acknowledges them, and reports from time to time which rules it has. The socket, the clock, the JSON
parser and the sink of the rules are an arbitrary world.

* `runTunnelControlSession`, `runTunnelControlOnce`: both forms of a session.
* `Running`: the invariant of their loops.
* **`control_session_trace`**, **`control_once_trace`**: every sync that is read is applied and
  answered, once and in order, and acknowledged only after it was applied; a heartbeat tells the
  rules synced last, and comes no earlier than the server asked for.
-/

namespace KeliAgent

open Effect

/-! ## Messages -/

def tunnelControlProtocolV1 : String := "keli-tunnel-control.v1"

structure RejectedTunnelRule where
  id : UInt64
  error : String
  deriving DecidableEq, Repr

structure TunnelRuleStatus where
  id : UInt64
  status : String
  error : String
  deriving DecidableEq, Repr

inductive TunnelControlClientMessage where
  | hello (controlProtocol agentVersion : String) (capabilities dataTransports : List String)
    (dataPlane : Bool)
  | heartbeat (lastRuleRevision : String) (activeRules : List UInt64)
  | ruleAck (revision : String) (acceptedRuleIds : List UInt64)
    (rejectedRules : List RejectedTunnelRule)
  | ruleStatus (revision : String) (rules : List TunnelRuleStatus)
  deriving DecidableEq, Repr

inductive TunnelControlServerMessage where
  | helloAck (serverProtocol : String) (heartbeatIntervalSeconds : UInt64)
  | ruleSync (revision : String) (rules : List SelectedTunnelRule)
  | error (code message : String)
  deriving DecidableEq, Repr

def supportedTunnelDataTransports : List String :=
  [tunnelDataTransportWebsocket, tunnelDataTransportKtpTcp]

def supportedTunnelDataTransportsForKtpTcp (enabled : Bool) : List String :=
  if enabled then [tunnelDataTransportKtpTcp] else [tunnelDataTransportWebsocket]

/-- The transport that a name stands for, in any case of letters. -/
def supportedTunnelDataTransport (value : String) : Option String :=
  if Text.eqIgnoreAsciiCase (Text.trim value) tunnelDataTransportKtpTcp then
    some tunnelDataTransportKtpTcp
  else if Text.eqIgnoreAsciiCase (Text.trim value) tunnelDataTransportWebsocket then
    some tunnelDataTransportWebsocket
  else none

/-- One turn of the loop: a transport is listed once. -/
def addSupportedTransport (result : List String) (value : String) : List String :=
  match supportedTunnelDataTransport value with
  | none => result
  | some normalized => if normalized ∈ result then result else result ++ [normalized]

def normalizeSupportedTunnelDataTransports (dataTransports : List String) : List String :=
  let result := dataTransports.foldl addSupportedTransport []
  if result = [] then [tunnelDataTransportWebsocket] else result

def buildHelloWithDataTransports (agentVersion : String) (dataTransports : List String) :
    TunnelControlClientMessage :=
  .hello tunnelControlProtocolV1 (Text.trim agentVersion)
    ["tunnel_control", "rule_sync", "status_report"]
    (normalizeSupportedTunnelDataTransports dataTransports) false

def buildHeartbeat (revision : String) (activeRules : List UInt64) : TunnelControlClientMessage :=
  .heartbeat (Text.trim revision) activeRules

def buildRuleAck (revision : String) (acceptedRules : List SelectedTunnelRule)
    (rejectedRules : List RejectedTunnelRule) : TunnelControlClientMessage :=
  .ruleAck (Text.trim revision) (acceptedRules.map (·.id)) rejectedRules

def buildRuleStatus (revision : String) (rules : List TunnelRuleStatus) :
    TunnelControlClientMessage :=
  .ruleStatus (Text.trim revision) rules

def isNonFatalTunnelControlError : TransportError → Bool
  | .invalidClientToken .. | .emptyEndpoint | .emptyToken | .unsupportedScheme _ => false
  | .requestFailed message =>
    let lower := Text.lowercase message
    Text.contains lower "404" || Text.contains lower "403" ||
      Text.contains lower "feature_disabled"
  | .socketClosed => true

/-- `Duration::from_secs`, in nanoseconds. -/
@[irreducible] def durationFromSecs (seconds : UInt64) : ℕ := seconds.toNat * 1000000000

theorem durationFromSecs_pos {seconds : UInt64} (h : 0 < seconds) :
    0 < durationFromSecs seconds := by
  rw [durationFromSecs]
  exact Nat.mul_pos (UInt64.lt_iff_toNat_lt.mp h) (Nat.succ_pos _)

theorem durationFromSecs_le {seconds seconds' : UInt64} (h : seconds ≤ seconds') :
    durationFromSecs seconds ≤ durationFromSecs seconds' := by
  rw [durationFromSecs, durationFromSecs]
  exact Nat.mul_le_mul_right _ (UInt64.le_iff_toNat_le.mp h)

/-! ## The world of a session -/

/-- The transport and its socket, the clock, the parser of the messages of the server, and the sink
that the rules are given to. -/
structure ControlWorld (W : Type) where
  connectTunnelControl : W → Except TransportError Unit × W
  sendMessage : TunnelControlClientMessage → W → Except TransportError Unit × W
  readMessage : W → Except TransportError (Option (List UInt8)) × W
  parseServerMessage : List UInt8 → Except String TunnelControlServerMessage
  updateRules : String → List SelectedTunnelRule → W → Unit × W
  now : W → ℕ × W

/-- `now` is a call of `Instant::now`, and `elapsed` the time at which `elapsed` was called. Before
a session the thread builds a URL, and after an attempt at one it rests. -/
inductive ControlEvent where
  | connect (result : Except TransportError Unit)
  | send (message : TunnelControlClientMessage) (result : Except TransportError Unit)
  | read (result : Except TransportError (Option (List UInt8)))
  | updateRules (revision : String) (rules : List SelectedTunnelRule)
  | now (instant : ℕ)
  | elapsed (instant : ℕ)
  | url (result : Except ProtocolError String)
  | rest (duration : ℕ)

/-- How a session ends early; `unfinished` if it is observed before its end. -/
inductive ControlEnd where
  | failed (error : TransportError)
  | unfinished
  deriving DecidableEq, Repr

/-- The outcome of a session that ends early. -/
def ControlEnd.outcome : ControlEnd → Option Bool
  | .failed _ => some false
  | .unfinished => none

abbrev ControlSession (W : Type) := Program W ControlEvent ControlEnd

inductive TunnelControlLoopAction where
  | continue | stop
  deriving DecidableEq, Repr

/-- The variables of the loop. -/
structure ControlState where
  latestRevision : String
  acceptedRules : List SelectedTunnelRule
  heartbeatInterval : ℕ
  lastHeartbeat : ℕ

def ControlState.initial (lastHeartbeat : ℕ) : ControlState :=
  ⟨"", [], durationFromSecs 15, lastHeartbeat⟩

/-- The status that is reported for each accepted rule. -/
def acceptedRuleStatus (rule : SelectedTunnelRule) : TunnelRuleStatus := ⟨rule.id, "ok", ""⟩

namespace ControlSession

open Program

variable {W : Type}

/-- The operator `?`. -/
def orFail {α : Type} : Except TransportError α → ControlSession W α
  | .ok a => pure a
  | .error error => stop (.failed error)

variable (world : ControlWorld W)

def sendMessage (message : TunnelControlClientMessage) : ControlSession W Unit := do
  let result ← perform (.send message) (world.sendMessage message)
  orFail result

def sendTunnelControlHeartbeat (state : ControlState) : ControlSession W Unit :=
  sendMessage world (buildHeartbeat state.latestRevision (state.acceptedRules.map (·.id)))

/-- The answer to a sync, after the rules were given to the sink. -/
def handleRuleSync (state : ControlState) (revision : String) (rules : List SelectedTunnelRule) :
    ControlSession W (ControlState × TunnelControlLoopAction) := do
  perform (fun _ => .updateRules revision rules) (world.updateRules revision rules)
  sendMessage world (buildRuleAck revision rules [])
  sendMessage world (buildRuleStatus revision (rules.map acceptedRuleStatus))
  return ({ state with latestRevision := revision, acceptedRules := rules }, .continue)

def handleTunnelControlMessage (state : ControlState) (bytes : List UInt8) :
    ControlSession W (ControlState × TunnelControlLoopAction) :=
  match world.parseServerMessage bytes with
  | .ok (.helloAck serverProtocol heartbeatIntervalSeconds) =>
    if Text.trim serverProtocol ≠ tunnelControlProtocolV1 then
      stop (.failed (.requestFailed ("unsupported tunnel control protocol: " ++ serverProtocol)))
    else if 0 < heartbeatIntervalSeconds then
      return ({ state with heartbeatInterval := durationFromSecs heartbeatIntervalSeconds },
        .continue)
    else return (state, .continue)
  | .ok (.ruleSync revision rules) => handleRuleSync world state revision rules
  | .ok (.error code message) =>
    if code = "feature_disabled" then return (state, .stop)
    else stop (.failed (.requestFailed message))
  | .error error => stop (.failed (.requestFailed ("invalid tunnel control message: " ++ error)))

/-- A message of the server, as both loops treat it. -/
def handleBytes (state : ControlState) (bytes : List UInt8) :
    ControlSession W (ControlState ⊕ Unit) := do
  let (state, action) ← handleTunnelControlMessage world state bytes
  match action with
  | .continue => return .inl state
  | .stop => return .inr ()

/-- A read that found nothing is the time for a heartbeat. -/
def heartbeatIfDue (state : ControlState) : ControlSession W ControlState := do
  let instant ← perform .elapsed world.now
  if state.heartbeatInterval ≤ instant - state.lastHeartbeat then
    sendTunnelControlHeartbeat world state
    let instant ← perform .now world.now
    return { state with lastHeartbeat := instant }
  else return state

/-- One round of the loop of a session. -/
def sessionRound (state : ControlState) : ControlSession W (ControlState ⊕ Unit) := do
  let result ← perform .read world.readMessage
  match result with
  | .ok (some bytes) => handleBytes world state bytes
  | .ok none => do
    let state ← heartbeatIfDue world state
    return .inl state
  | .error .socketClosed => return .inr ()
  | .error error => stop (.failed error)

/-- One round of the loop that ends when there is nothing to read. -/
def onceRound (state : ControlState) : ControlSession W (ControlState ⊕ Unit) := do
  let result ← perform .read world.readMessage
  let message ← orFail result
  match message with
  | some bytes => handleBytes world state bytes
  | none => do
    sendTunnelControlHeartbeat world state
    return .inr ()

/-- The opening of both forms of a session. -/
def openSession (agentVersion : String) (dataTransports : List String)
    (rest : ControlSession W Unit) : ControlSession W Unit := do
  let connected ← perform .connect world.connectTunnelControl
  match connected with
  | .error error => if isNonFatalTunnelControlError error then return () else stop (.failed error)
  | .ok () => do
    sendMessage world (buildHelloWithDataTransports agentVersion dataTransports)
    rest

/-- `run_tunnel_control_session_with_rule_sink_and_data_transports`. -/
def runTunnelControlSession (agentVersion : String) (dataTransports : List String) (fuel : ℕ) :
    ControlSession W Unit :=
  openSession world agentVersion dataTransports do
    let instant ← perform .now world.now
    iterate .unfinished (sessionRound world) fuel (.initial instant)

/-- `run_tunnel_control_once_with_rule_sink_and_data_transports`. It has no clock. -/
def runTunnelControlOnce (agentVersion : String) (dataTransports : List String) (fuel : ℕ) :
    ControlSession W Unit :=
  openSession world agentVersion dataTransports
    (iterate .unfinished (onceRound world) fuel (.initial 0))

end ControlSession

/-! ## What a trace says -/

namespace TunnelControlClientMessage

def isHello : TunnelControlClientMessage → Bool
  | .hello .. => true
  | _ => false

def isAnswer : TunnelControlClientMessage → Bool
  | .ruleAck .. | .ruleStatus .. => true
  | _ => false

end TunnelControlClientMessage

namespace ControlEvent

def message : ControlEvent → Option TunnelControlClientMessage
  | .send message _ => some message
  | _ => none

def update : ControlEvent → Option (String × List SelectedTunnelRule)
  | .updateRules revision rules => some (revision, rules)
  | _ => none

def instant : ControlEvent → Option ℕ
  | .now instant => some instant
  | _ => none

/-- What the server said, if it could be understood. -/
def received (parse : List UInt8 → Except String TunnelControlServerMessage) :
    ControlEvent → Option TunnelControlServerMessage
  | .read (.ok (some bytes)) => (parse bytes).toOption
  | _ => none

/-- The event after which a session is over without an error: a connect that was refused for a
reason that is not fatal, a socket that is closed, or the message that the feature is disabled. -/
def endsWell (parse : List UInt8 → Except String TunnelControlServerMessage) : ControlEvent → Bool
  | .connect (.error error) => isNonFatalTunnelControlError error
  | .read (.error .socketClosed) => true
  | .read (.ok (some bytes)) =>
    match parse bytes with
    | .ok (.error code _) => code = "feature_disabled"
    | _ => false
  | _ => false

end ControlEvent

namespace TunnelControlServerMessage

def sync : TunnelControlServerMessage → Option (String × List SelectedTunnelRule)
  | .ruleSync revision rules => some (revision, rules)
  | _ => none

/-- The time between heartbeats that the server asks for. -/
def interval : TunnelControlServerMessage → Option ℕ
  | .helloAck _ seconds => if 0 < seconds then some (durationFromSecs seconds) else none
  | _ => none

end TunnelControlServerMessage

/-- The two messages that answer a sync. -/
def syncAnswers (sync : String × List SelectedTunnelRule) : List TunnelControlClientMessage :=
  [buildRuleAck sync.1 sync.2 [], buildRuleStatus sync.1 (sync.2.map acceptedRuleStatus)]

namespace ControlSession

abbrev Trace := List ControlEvent

section Projections

variable (parse : List UInt8 → Except String TunnelControlServerMessage) (t : Trace)

def sent : List TunnelControlClientMessage := t.filterMap (·.message)

def answers : List TunnelControlClientMessage := (sent t).filter (·.isAnswer)

def updates : List (String × List SelectedTunnelRule) := t.filterMap (·.update)

def received : List TunnelControlServerMessage := t.filterMap (·.received parse)

def syncs : List (String × List SelectedTunnelRule) := (received parse t).filterMap (·.sync)

/-- The revision and the rules that were applied last. -/
def lastSync : String × List SelectedTunnelRule := (updates t).getLast?.getD ("", [])

/-- The interval that the server asked for last. -/
def interval : ℕ := ((received parse t).filterMap (·.interval)).getLast?.getD (durationFromSecs 15)

/-- The last time that was noted. -/
def lastMark : ℕ := (t.filterMap (·.instant)).getLast?.getD 0

def endsWell : Bool := t.getLast?.any (·.endsWell parse)

end Projections

@[simp] theorem sent_append (t t' : Trace) : sent (t ++ t') = sent t ++ sent t' :=
  List.filterMap_append

@[simp] theorem answers_append (t t' : Trace) : answers (t ++ t') = answers t ++ answers t' := by
  rw [answers, sent_append, List.filter_append, answers, answers]

@[simp] theorem updates_append (t t' : Trace) : updates (t ++ t') = updates t ++ updates t' :=
  List.filterMap_append

@[simp] theorem received_append (parse : List UInt8 → Except String TunnelControlServerMessage)
    (t t' : Trace) : received parse (t ++ t') = received parse t ++ received parse t' :=
  List.filterMap_append

@[simp] theorem syncs_append (parse : List UInt8 → Except String TunnelControlServerMessage)
    (t t' : Trace) : syncs parse (t ++ t') = syncs parse t ++ syncs parse t' := by
  rw [syncs, received_append, List.filterMap_append, syncs, syncs]

section Protocol

variable (parse : List UInt8 → Except String TunnelControlServerMessage)
  (hello : TunnelControlClientMessage)

/-- **What holds at every moment of a session.** The hello comes first and once; all syncs that were
read, up to the last one, were applied, in their order; and all that were applied are answered, up
to the answers to the last one. -/
structure Follows (t : Trace) : Prop where
  greeted : ∀ message ∈ (sent t).head?, message = hello
  once : ∀ message ∈ (sent t).tail, message.isHello = false
  applied : ∃ pending, updates t ++ pending = syncs parse t ∧ pending.length ≤ 1
  answered : ∃ owed, answers t ++ owed = (updates t).flatMap syncAnswers ∧ owed.length ≤ 2

/-- A heartbeat tells what was synced last. In a session with a clock, the interval has passed since
the last time that was noted. -/
def HeartbeatFits (paced : Bool) (t : Trace) (revision : String) (rules : List UInt64) : Prop :=
  revision = Text.trim (lastSync t).1 ∧ rules = (lastSync t).2.map (·.id) ∧
    (paced = true → ∃ before instant, t = before ++ [.elapsed instant] ∧
      lastMark before + interval parse before ≤ instant)

/-- An acknowledgement is sent right after the rules were applied. -/
def AckFits (t : Trace) (message : TunnelControlClientMessage) : Prop :=
  ∃ before revision rules, t = before ++ [.updateRules revision rules] ∧
    message = buildRuleAck revision rules []

/-- What the event itself has to meet. Within a session no URL is built, and there is no rest. -/
def Fits (paced : Bool) (t : Trace) : ControlEvent → Prop
  | .send (.heartbeat revision rules) _ => HeartbeatFits parse paced t revision rules
  | .send (.ruleAck revision accepted rejected) _ =>
    AckFits t (.ruleAck revision accepted rejected)
  | .url _ | .rest _ => False
  | _ => True

/-- What may happen after `t`. -/
def Allowed (paced : Bool) (t : Trace) (event : ControlEvent) : Prop :=
  Follows parse hello (t ++ [event]) ∧ Fits parse paced t event

/-- At the end of a session every sync that was read has been applied, and answered unless a message
could not be sent, which is then the last thing. -/
def Complete (t : Trace) : Prop :=
  updates t = syncs parse t ∧
    (answers t = (updates t).flatMap syncAnswers ∨
      ∃ before message error, t = before ++ [.send message (.error error)])

/-- The state of the loop: the sync that is still to be applied, and the answers that are still to
be sent. -/
structure Standing (paced : Bool) (state : ControlState)
    (pending : List (String × List SelectedTunnelRule)) (owed : List TunnelControlClientMessage)
    (t : Trace) : Prop where
  greeted : ∃ rest, sent t = hello :: rest ∧ ∀ message ∈ rest, message.isHello = false
  synced : lastSync t = (state.latestRevision, state.acceptedRules)
  interval : interval parse t = state.heartbeatInterval
  marked : paced = true → lastMark t = state.lastHeartbeat
  applied : updates t ++ pending = syncs parse t
  answered : answers t ++ owed = (updates t).flatMap syncAnswers

structure Running (paced : Bool) (state : ControlState)
    (pending : List (String × List SelectedTunnelRule)) (owed : List TunnelControlClientMessage)
    (t : Trace) : Prop extends Standing parse hello paced state pending owed t where
  throughout : Throughout (Allowed parse hello paced) t

end Protocol

theorem lastSync_append (t t' : Trace) :
    lastSync (t ++ t') = (updates t').getLast?.getD (lastSync t) := by
  rw [lastSync, updates_append, List.getLast?_append, Option.getD_or, lastSync]

theorem lastMark_append (t t' : Trace) :
    lastMark (t ++ t') = (t'.filterMap (·.instant)).getLast?.getD (lastMark t) := by
  rw [lastMark, List.filterMap_append, List.getLast?_append, Option.getD_or, lastMark]

@[simp] theorem endsWell_concat (parse : List UInt8 → Except String TunnelControlServerMessage)
    (t : Trace) (event : ControlEvent) :
    endsWell parse (t ++ [event]) = event.endsWell parse := by
  rw [endsWell, List.getLast?_concat, Option.any_some]

/-- Events after some that do not end well. -/
theorem endsWell_append {parse : List UInt8 → Except String TunnelControlServerMessage}
    {t : Trace} (h : endsWell parse t = false) (t' : Trace) :
    endsWell parse (t ++ t') = endsWell parse t' := by
  rcases List.eq_nil_or_concat t' with rfl | ⟨t', event, rfl⟩
  · rw [List.append_nil, h]
    rfl
  · rw [List.concat_eq_append, ← List.append_assoc, endsWell_concat, endsWell_concat]

theorem interval_pos (parse : List UInt8 → Except String TunnelControlServerMessage) (t : Trace) :
    0 < interval parse t := by
  unfold interval
  cases hlast : ((received parse t).filterMap (·.interval)).getLast? with
  | none => exact durationFromSecs_pos (by decide)
  | some asked =>
    obtain ⟨message, -, hasked⟩ := List.mem_filterMap.mp (List.mem_of_getLast? hlast)
    cases message with
    | helloAck serverProtocol seconds =>
      simp only [TunnelControlServerMessage.interval] at hasked
      split_ifs at hasked with hseconds
      cases hasked
      exact durationFromSecs_pos hseconds
    | _ => cases hasked

section Steps

variable {parse : List UInt8 → Except String TunnelControlServerMessage}
  {hello : TunnelControlClientMessage} {paced : Bool} {state state' : ControlState}
  {pending pending' : List (String × List SelectedTunnelRule)}
  {owed owed' : List TunnelControlClientMessage} {t : Trace}

theorem interval_append (t t' : Trace) :
    interval parse (t ++ t') =
      ((received parse t').filterMap (·.interval)).getLast?.getD (interval parse t) := by
  rw [interval, received_append, List.filterMap_append, List.getLast?_append, Option.getD_or,
    interval]

theorem Standing.follows (h : Standing parse hello paced state pending owed t)
    (hpending : pending.length ≤ 1) (howed : owed.length ≤ 2) : Follows parse hello t := by
  obtain ⟨rest, hsent, hrest⟩ := h.greeted
  refine ⟨?_, ?_, ⟨pending, h.applied, hpending⟩, ⟨owed, h.answered, howed⟩⟩
  · rw [hsent]
    rintro message ⟨⟩
    rfl
  · rw [hsent]
    exact hrest

/-- The state after one more event. -/
theorem Standing.concat (h : Standing parse hello paced state pending owed t) {event : ControlEvent}
    (hhello : ∀ message ∈ event.message, message.isHello = false)
    (hsynced : event.update.getD (state.latestRevision, state.acceptedRules) =
      (state'.latestRevision, state'.acceptedRules))
    (hinterval : ((event.received parse).bind (·.interval)).getD state.heartbeatInterval =
      state'.heartbeatInterval)
    (hmarked : paced = true → event.instant.getD state.lastHeartbeat = state'.lastHeartbeat)
    (happlied : updates [event] ++ pending' = pending ++ syncs parse [event])
    (hanswered : answers [event] ++ owed' = owed ++ (updates [event]).flatMap syncAnswers) :
    Standing parse hello paced state' pending' owed' (t ++ [event]) := by
  obtain ⟨rest, hsent, hrest⟩ := h.greeted
  refine ⟨⟨rest ++ sent [event], ?_, ?_⟩, ?_, ?_, ?_, ?_, ?_⟩
  · rw [sent_append, hsent, List.cons_append]
  · intro message hmem
    rcases List.mem_append.mp hmem with hmem | hmem
    · exact hrest message hmem
    · obtain ⟨event', hevent', hmessage⟩ := List.mem_filterMap.mp hmem
      rw [List.mem_singleton.mp hevent'] at hmessage
      exact hhello message hmessage
  · rw [lastSync_append, h.synced, ← hsynced]
    cases hupdate : event.update <;> simp [updates, hupdate]
  · rw [interval_append, h.interval, ← hinterval]
    cases hreceived : event.received parse with
    | none => simp [received, hreceived]
    | some message => cases hasked : message.interval <;> simp [received, hreceived, hasked]
  · intro hpaced
    rw [lastMark_append, h.marked hpaced, ← hmarked hpaced]
    cases hinstant : event.instant <;> simp [hinstant]
  · rw [updates_append, syncs_append, List.append_assoc, happlied, ← h.applied, List.append_assoc]
  · rw [answers_append, updates_append, List.flatMap_append, List.append_assoc, hanswered,
      ← h.answered, List.append_assoc]

/-- The event that was added is allowed. -/
theorem Running.concat (h : Running parse hello paced state pending owed t) {event : ControlEvent}
    (hstanding : Standing parse hello paced state' pending' owed' (t ++ [event]))
    (hpending : pending'.length ≤ 1) (howed : owed'.length ≤ 2) (hfits : Fits parse paced t event) :
    Running parse hello paced state' pending' owed' (t ++ [event]) :=
  ⟨hstanding, h.throughout.concat ⟨hstanding.follows hpending howed, hfits⟩⟩

/-- Nothing is said, read or applied. -/
theorem Running.quiet (h : Running parse hello paced state [] [] t) {event : ControlEvent}
    (hmessage : event.message = none) (hupdate : event.update = none)
    (hreceived : event.received parse = none) (hinstant : event.instant = none)
    (hfits : Fits parse paced t event) : Running parse hello paced state [] [] (t ++ [event]) := by
  refine h.concat (h.toStanding.concat ?_ ?_ ?_ ?_ ?_ ?_) (by simp) (by simp) hfits
  · simp [hmessage]
  · simp [hupdate]
  · simp [hreceived]
  · simp [hinstant]
  · simp [updates, syncs, received, hupdate, hreceived]
  · simp [answers, sent, updates, hmessage, hupdate]

/-- A read that says nothing that can be understood. -/
theorem Running.readNothing (h : Running parse hello paced state [] [] t)
    {result : Except TransportError (Option (List UInt8))}
    (hreceived : (ControlEvent.read result).received parse = none) :
    Running parse hello paced state [] [] (t ++ [.read result]) :=
  h.quiet rfl rfl hreceived rfl trivial

/-- A time is noted. -/
theorem Running.note (h : Running parse hello paced state [] [] t) (instant : ℕ) :
    Running parse hello paced { state with lastHeartbeat := instant } [] []
      (t ++ [ControlEvent.now instant]) := by
  refine h.concat (h.toStanding.concat ?_ rfl rfl (fun _ => rfl) rfl rfl) (by simp) (by simp)
    trivial
  exact fun message hmem => nomatch hmem

/-- The server asks for an interval, or for nothing. -/
theorem Running.readOther (h : Running parse hello paced state [] [] t) {bytes : List UInt8}
    {message : TunnelControlServerMessage} (hparse : parse bytes = .ok message)
    (hsync : message.sync = none) :
    Running parse hello paced
      { state with heartbeatInterval := message.interval.getD state.heartbeatInterval } [] []
      (t ++ [ControlEvent.read (.ok (some bytes))]) := by
  have hreceived : (ControlEvent.read (.ok (some bytes))).received parse = some message := by
    simp [ControlEvent.received, hparse, Except.toOption]
  refine h.concat (h.toStanding.concat ?_ rfl ?_ (fun _ => rfl) ?_ rfl) (by simp) (by simp) trivial
  · exact fun message hmem => nomatch hmem
  · rw [hreceived]
    rfl
  · simp [updates, syncs, received, hreceived, hsync, ControlEvent.update]

/-- A sync is read; it is still to be applied. -/
theorem Running.readSync (h : Running parse hello paced state [] [] t) {bytes : List UInt8}
    {revision : String} {rules : List SelectedTunnelRule}
    (hparse : parse bytes = .ok (.ruleSync revision rules)) :
    Running parse hello paced state [(revision, rules)] []
      (t ++ [ControlEvent.read (.ok (some bytes))]) := by
  have hreceived : (ControlEvent.read (.ok (some bytes))).received parse =
      some (.ruleSync revision rules) := by
    simp [ControlEvent.received, hparse, Except.toOption]
  refine h.concat (h.toStanding.concat ?_ rfl ?_ (fun _ => rfl) ?_ rfl) (by simp) (by simp) trivial
  · exact fun message hmem => nomatch hmem
  · rw [hreceived]
    rfl
  · simp [updates, syncs, received, hreceived, ControlEvent.update, TunnelControlServerMessage.sync]

/-- The sync is applied; both answers are owed. -/
theorem Running.update {revision : String} {rules : List SelectedTunnelRule}
    (h : Running parse hello paced state [(revision, rules)] [] t) :
    Running parse hello paced { state with latestRevision := revision, acceptedRules := rules } []
      (syncAnswers (revision, rules)) (t ++ [ControlEvent.updateRules revision rules]) := by
  refine h.concat (h.toStanding.concat ?_ rfl rfl (fun _ => rfl) ?_ ?_) (by simp)
    (by simp [syncAnswers]) trivial
  · exact fun message hmem => nomatch hmem
  · rfl
  · simp [updates, answers, sent, ControlEvent.update, ControlEvent.message]

/-- The next answer is sent. -/
theorem Running.answer {message : TunnelControlClientMessage}
    (h : Running parse hello paced state [] (message :: owed) t) (hanswer : message.isAnswer = true)
    (howed : owed.length ≤ 2) {result : Except TransportError Unit}
    (hfits : Fits parse paced t (.send message result)) :
    Running parse hello paced state [] owed (t ++ [ControlEvent.send message result]) := by
  refine h.concat (h.toStanding.concat ?_ rfl rfl (fun _ => rfl) rfl ?_) (by simp) howed hfits
  · rintro message' ⟨⟩
    cases message <;> first | rfl | cases hanswer
  · simp [answers, sent, updates, hanswer, ControlEvent.message, ControlEvent.update]

/-- A heartbeat is sent. -/
theorem Running.heartbeat (h : Running parse hello paced state [] [] t)
    {result : Except TransportError Unit}
    (hdue : paced = true → ∃ before instant, t = before ++ [.elapsed instant] ∧
      lastMark before + ControlSession.interval parse before ≤ instant) :
    Running parse hello paced state [] []
      (t ++ [ControlEvent.send
        (buildHeartbeat state.latestRevision (state.acceptedRules.map (·.id))) result]) := by
  refine h.concat (h.toStanding.concat ?_ rfl rfl (fun _ => rfl) rfl rfl) (by simp) (by simp) ?_
  · rintro message ⟨⟩
    rfl
  · refine ⟨?_, ?_, hdue⟩ <;> rw [h.synced]

/-- All that was read is applied and answered. -/
theorem Running.complete (h : Running parse hello paced state [] [] t) : Complete parse t :=
  ⟨(List.append_nil _).symm.trans h.applied, Or.inl ((List.append_nil _).symm.trans h.answered)⟩

end Steps

/-! ## The session follows the protocol -/

section Rules

variable {W : Type} (world : ControlWorld W) (hello : TunnelControlClientMessage) (paced : Bool)

/-- How a session may end, if it ended with or without an error. With a clock, this is seen from its
last event. -/
structure Ended (succeeded : Option Bool) (t : Trace) : Prop where
  throughout : Throughout (Allowed world.parseServerMessage hello paced) t
  complete : Complete world.parseServerMessage t
  outcome : paced = true → ∀ ok ∈ succeeded, endsWell world.parseServerMessage t = ok

/-- The invariant of the loops, with nothing left to apply or to answer. -/
abbrev Idle (state : ControlState) : Trace → Prop :=
  Running world.parseServerMessage hello paced state [] []

variable {world hello paced} {state : ControlState} {t : Trace}

theorem Running.ended (h : Idle world hello paced state t) {succeeded : Option Bool}
    (houtcome : paced = true → ∀ ok ∈ succeeded, endsWell world.parseServerMessage t = ok) :
    Ended world hello paced succeeded t :=
  ⟨h.throughout, h.complete, houtcome⟩

/-- The session ended with this event, and without an error if `ok` is true. -/
theorem Running.endedBy {event : ControlEvent} (h : Idle world hello paced state (t ++ [event]))
    {ok : Bool} (hevent : event.endsWell world.parseServerMessage = ok) :
    Ended world hello paced (some ok) (t ++ [event]) := by
  refine h.ended fun _ ok' hok => ?_
  rw [endsWell_concat, hevent]
  exact Option.some.inj hok

/-- The ends of a program: with an error, or by an observation. -/
abbrev Stops (world : ControlWorld W) (hello : TunnelControlClientMessage) (paced : Bool)
    (reason : ControlEnd) : Trace → Prop :=
  Ended world hello paced reason.outcome

/-- A message that cannot be sent ends the session. -/
theorem ensures_sendMessage {message : TunnelControlClientMessage}
    {owed : List TunnelControlClientMessage}
    (h : ∀ result, Running world.parseServerMessage hello paced state [] owed
      (t ++ [.send message result])) :
    Program.Ensures (sendMessage world message)
      (fun _ => Running world.parseServerMessage hello paced state [] owed)
      (Stops world hello paced) t := by
  refine Program.Ensures.bind (Program.Ensures.perform fun result => ?_)
  cases result with
  | ok _ => exact Program.Ensures.pure (h (.ok ()))
  | error error =>
    have hfailed := h (.error error)
    refine Program.Ensures.stop ⟨hfailed.throughout, ⟨?_, Or.inr ⟨t, message, error, rfl⟩⟩, ?_⟩
    · exact (List.append_nil _).symm.trans hfailed.applied
    · rintro - ok ⟨⟩
      exact endsWell_concat _ _ _

/-- What is ensured of a message that was handled. The loop ends well after one that stops it. -/
def Handles (world : ControlWorld W) (hello : TunnelControlClientMessage) (paced : Bool)
    (handled : ControlState × TunnelControlLoopAction) (t : Trace) : Prop :=
  Idle world hello paced handled.1 t ∧
    (handled.2 = .stop → endsWell world.parseServerMessage t = true)

theorem ensures_handleRuleSync {revision : String} {rules : List SelectedTunnelRule}
    (h : Running world.parseServerMessage hello paced state [(revision, rules)] [] t) :
    Program.Ensures (handleRuleSync world state revision rules)
      (Handles world hello paced) (Stops world hello paced) t := by
  refine Program.Ensures.bind (Program.Ensures.perform fun _ => ?_)
  refine (ensures_sendMessage fun result =>
    h.update.answer rfl (by simp) ⟨t, revision, rules, rfl, rfl⟩).seq fun _ t h => ?_
  refine (ensures_sendMessage fun result => h.answer rfl (by simp) trivial).seq fun _ t h => ?_
  exact Program.Ensures.pure ⟨h, nofun⟩

theorem ensures_handleTunnelControlMessage (h : Idle world hello paced state t)
    (bytes : List UInt8) :
    Program.Ensures (handleTunnelControlMessage world state bytes) (Handles world hello paced)
      (Stops world hello paced) (t ++ [.read (.ok (some bytes))]) := by
  unfold handleTunnelControlMessage
  cases hparse : world.parseServerMessage bytes with
  | error error =>
    refine Program.Ensures.stop ((h.readNothing ?_).endedBy ?_)
    · simp [ControlEvent.received, hparse, Except.toOption]
    · rw [ControlEvent.endsWell, hparse]
  | ok message =>
    cases message with
    | helloAck serverProtocol seconds =>
      have hread := h.readOther hparse rfl
      simp only
      split_ifs with hprotocol hseconds
      · refine Program.Ensures.stop (hread.endedBy ?_)
        rw [ControlEvent.endsWell, hparse]
      · simp only [TunnelControlServerMessage.interval, if_pos hseconds] at hread
        exact Program.Ensures.pure ⟨hread, nofun⟩
      · simp only [TunnelControlServerMessage.interval, if_neg hseconds] at hread
        exact Program.Ensures.pure ⟨hread, nofun⟩
    | ruleSync revision rules => exact ensures_handleRuleSync (h.readSync hparse)
    | error code message =>
      have hread := h.readOther hparse rfl
      have hends : (ControlEvent.read (.ok (some bytes))).endsWell world.parseServerMessage =
          decide (code = "feature_disabled") := by
        rw [ControlEvent.endsWell, hparse]
      simp only
      split_ifs with hcode
      · refine Program.Ensures.pure ⟨hread, fun _ => ?_⟩
        rw [endsWell_concat, hends, decide_eq_true hcode]
      · exact Program.Ensures.stop (hread.endedBy (hends.trans (decide_eq_false hcode)))

/-- What the loops ensure: the invariant, or a proper end. -/
abbrev Goes (world : ControlWorld W) (hello : TunnelControlClientMessage) (paced : Bool) :
    ControlState ⊕ Unit → Trace → Prop :=
  Sum.elim (Idle world hello paced) fun _ => Ended world hello paced (some true)

theorem ensures_handleBytes (h : Idle world hello paced state t) (bytes : List UInt8) :
    Program.Ensures (handleBytes world state bytes) (Goes world hello paced)
      (Stops world hello paced) (t ++ [.read (.ok (some bytes))]) := by
  refine (ensures_handleTunnelControlMessage h bytes).seq ?_
  rintro ⟨state, action⟩ t ⟨h, hstop⟩
  cases action with
  | «continue» => exact Program.Ensures.pure h
  | stop =>
    refine Program.Ensures.pure (h.ended ?_)
    rintro - ok ⟨⟩
    exact hstop rfl

theorem ensures_heartbeatIfDue (h : Idle world hello true state t) :
    Program.Ensures (heartbeatIfDue world state) (Idle world hello true)
      (Stops world hello true) t := by
  refine Program.Ensures.bind (Program.Ensures.perform fun instant => ?_)
  have hread : Idle world hello true state (t ++ [.elapsed instant]) :=
    h.quiet rfl rfl rfl rfl trivial
  split_ifs with hdue
  · -- the interval is not zero, so that the clock has gone on
    have hpassed : lastMark t + interval world.parseServerMessage t ≤ instant := by
      have hpos := interval_pos world.parseServerMessage t
      rw [h.marked rfl, h.interval]
      rw [h.interval] at hpos
      omega
    refine (ensures_sendMessage fun result =>
      hread.heartbeat fun _ => ⟨t, instant, rfl, hpassed⟩).seq fun _ t h => ?_
    refine Program.Ensures.bind (Program.Ensures.perform fun instant => ?_)
    exact Program.Ensures.pure (h.note instant)
  · exact Program.Ensures.pure hread

theorem ensures_sessionRound (h : Idle world hello true state t) :
    Program.Ensures (sessionRound world state) (Goes world hello true)
      (Stops world hello true) t := by
  refine Program.Ensures.bind (Program.Ensures.perform fun result => ?_)
  match result with
  | .ok (some bytes) => exact ensures_handleBytes h bytes
  | .ok none =>
    refine (ensures_heartbeatIfDue (h.readNothing rfl)).seq fun state t h => ?_
    exact Program.Ensures.pure h
  | .error .socketClosed => exact Program.Ensures.pure ((h.readNothing rfl).endedBy rfl)
  | .error (.requestFailed message) =>
    exact Program.Ensures.stop ((h.readNothing rfl).endedBy rfl)
  | .error (.invalidClientToken ..) | .error .emptyEndpoint | .error .emptyToken
  | .error (.unsupportedScheme _) =>
    exact Program.Ensures.stop ((h.readNothing rfl).endedBy rfl)

theorem ensures_onceRound (h : Idle world hello false state t) :
    Program.Ensures (onceRound world state) (Goes world hello false)
      (Stops world hello false) t := by
  refine Program.Ensures.bind (Program.Ensures.perform fun result => ?_)
  match result with
  | .ok (some bytes) =>
    exact Program.Ensures.bind (Program.Ensures.pure (ensures_handleBytes h bytes))
  | .ok none =>
    refine Program.Ensures.bind (Program.Ensures.pure ?_)
    have hread : Idle world hello false state (t ++ [.read (.ok none)]) := h.readNothing rfl
    refine (ensures_sendMessage fun result =>
      hread.heartbeat fun hpaced => nomatch hpaced).seq fun _ t h => ?_
    exact Program.Ensures.pure (h.ended nofun)
  | .error error =>
    exact Program.Ensures.bind (Program.Ensures.stop ((h.readNothing rfl).ended nofun))

theorem ended_connect (result : Except TransportError Unit) :
    Ended world hello paced
      (some ((ControlEvent.connect result).endsWell world.parseServerMessage))
      [.connect result] := by
  have hfollows : Follows world.parseServerMessage hello [.connect result] := by
    refine ⟨?_, ?_, ⟨[], rfl, by simp⟩, ⟨[], rfl, by simp⟩⟩
    · exact fun message hmem => nomatch hmem
    · exact fun message hmem => absurd hmem List.not_mem_nil
  refine ⟨throughout_nil.concat ⟨hfollows, trivial⟩, ⟨rfl, Or.inl rfl⟩, ?_⟩
  rintro - ok ⟨⟩
  rfl

/-- The loops start after the hello. -/
theorem idle_hello (hhello : hello.isHello = true) (result : Except TransportError Unit) :
    Idle world hello paced (.initial 0) ([.connect (.ok ())] ++ [.send hello result]) := by
  have hanswers : answers ([.connect (.ok ())] ++ [.send hello result]) = [] := by
    cases hello with
    | hello => rfl
    | _ => cases hhello
  have hfits : Fits world.parseServerMessage paced [.connect (.ok ())] (.send hello result) := by
    cases hello with
    | hello => trivial
    | _ => cases hhello
  have hstanding : Standing world.parseServerMessage hello paced (.initial 0) [] []
      ([.connect (.ok ())] ++ [.send hello result]) :=
    ⟨⟨[], rfl, fun _ hmem => absurd hmem List.not_mem_nil⟩, rfl,
      by simp [interval, received, ControlEvent.received, ControlState.initial], fun _ => rfl, rfl,
      (List.append_nil _).trans hanswers⟩
  refine ⟨hstanding, (ended_connect (.ok ())).throughout.concat ⟨?_, hfits⟩⟩
  exact hstanding.follows (by simp) (by simp)

/-- Both forms of a session, up to their loops. -/
theorem ensures_opening {agentVersion : String} {dataTransports : List String}
    {rest : ControlSession W Unit}
    (hrest : ∀ t, Idle world (buildHelloWithDataTransports agentVersion dataTransports) paced
      (.initial 0) t → Program.Ensures rest
        (fun _ => Ended world (buildHelloWithDataTransports agentVersion dataTransports) paced
          (some true))
        (Stops world (buildHelloWithDataTransports agentVersion dataTransports) paced) t) :
    Program.Ensures (openSession world agentVersion dataTransports rest)
      (fun _ => Ended world (buildHelloWithDataTransports agentVersion dataTransports) paced
        (some true))
      (Stops world (buildHelloWithDataTransports agentVersion dataTransports) paced) [] := by
  refine Program.Ensures.bind (Program.Ensures.perform fun connected => ?_)
  cases connected with
  | error error =>
    have hended : ∀ ok, isNonFatalTunnelControlError error = ok →
        Ended world (buildHelloWithDataTransports agentVersion dataTransports) paced (some ok)
          [.connect (.error error)] := by
      rintro ok rfl
      exact ended_connect (.error error)
    simp only
    split_ifs with hnonfatal
    · exact Program.Ensures.pure (hended true hnonfatal)
    · exact Program.Ensures.stop (hended false (Bool.eq_false_iff.mpr hnonfatal))
  | ok _ => exact (ensures_sendMessage (idle_hello rfl)).seq fun _ t h => hrest t h

theorem ensures_runTunnelControlSession (world : ControlWorld W) (agentVersion : String)
    (dataTransports : List String) (fuel : ℕ) :
    Program.Ensures (runTunnelControlSession world agentVersion dataTransports fuel)
      (fun _ => Ended world (buildHelloWithDataTransports agentVersion dataTransports) true
        (some true))
      (Stops world (buildHelloWithDataTransports agentVersion dataTransports) true) [] := by
  refine ensures_opening fun t h => ?_
  refine Program.Ensures.bind (Program.Ensures.perform fun instant => ?_)
  refine Program.Ensures.iterate
    (I := Idle world (buildHelloWithDataTransports agentVersion dataTransports) true) ?_ ?_ fuel
    (h.note instant)
  · exact fun _ _ h => h.ended nofun
  · exact fun _ _ h => ensures_sessionRound h

theorem ensures_runTunnelControlOnce (world : ControlWorld W) (agentVersion : String)
    (dataTransports : List String) (fuel : ℕ) :
    Program.Ensures (runTunnelControlOnce world agentVersion dataTransports fuel)
      (fun _ => Ended world (buildHelloWithDataTransports agentVersion dataTransports) false
        (some true))
      (Stops world (buildHelloWithDataTransports agentVersion dataTransports) false) [] := by
  refine ensures_opening fun t h => ?_
  refine Program.Ensures.iterate
    (I := Idle world (buildHelloWithDataTransports agentVersion dataTransports) false) ?_ ?_ fuel h
  · exact fun _ _ h => h.ended nofun
  · exact fun _ _ h => ensures_onceRound h

end Rules

/-- **The protocol of every control session**, whatever the server, the network and the clock do.
At every moment the hello was sent first and once, all syncs that were read, up to the last one,
were applied in their order, and all that were applied were answered up to the last one; an
acknowledgement follows right after the rules were applied; a heartbeat tells the rules that were
applied last, and the interval that the server asked for has passed since the last one. In the end
every sync that was read is applied, and answered unless a message could not be sent. -/
theorem control_session_trace {W : Type} (world : ControlWorld W) (agentVersion : String)
    (dataTransports : List String) (fuel : ℕ) (w : W) :
    Throughout (Allowed world.parseServerMessage
        (buildHelloWithDataTransports agentVersion dataTransports) true)
      (runTunnelControlSession world agentVersion dataTransports fuel w).trace ∧
    Complete world.parseServerMessage
      (runTunnelControlSession world agentVersion dataTransports fuel w).trace := by
  refine Program.Ensures.always (P := fun t => Throughout (Allowed world.parseServerMessage
    (buildHelloWithDataTransports agentVersion dataTransports) true) t ∧
      Complete world.parseServerMessage t)
    ((ensures_runTunnelControlSession world agentVersion dataTransports fuel).mono ?_ ?_) w
  · exact fun _ _ h => ⟨h.throughout, h.complete⟩
  · exact fun _ _ h => ⟨h.throughout, h.complete⟩

/-- The form that ends when there is nothing to read follows the same protocol, without the clock:
its heartbeat is the last thing. -/
theorem control_once_trace {W : Type} (world : ControlWorld W) (agentVersion : String)
    (dataTransports : List String) (fuel : ℕ) (w : W) :
    Throughout (Allowed world.parseServerMessage
        (buildHelloWithDataTransports agentVersion dataTransports) false)
      (runTunnelControlOnce world agentVersion dataTransports fuel w).trace ∧
    Complete world.parseServerMessage
      (runTunnelControlOnce world agentVersion dataTransports fuel w).trace := by
  refine Program.Ensures.always (P := fun t => Throughout (Allowed world.parseServerMessage
    (buildHelloWithDataTransports agentVersion dataTransports) false) t ∧
      Complete world.parseServerMessage t)
    ((ensures_runTunnelControlOnce world agentVersion dataTransports fuel).mono ?_ ?_) w
  · exact fun _ _ h => ⟨h.throughout, h.complete⟩
  · exact fun _ _ h => ⟨h.throughout, h.complete⟩

end ControlSession

end KeliAgent
