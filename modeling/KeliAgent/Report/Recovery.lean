import KeliAgent.Report.Loop

/-!
# Recovery of the token

`AutoDiscoveryTokenRecovery` of `auto_discovery.rs` under the `SharedTokenRecovery` of `token.rs`.
When the server refuses the token, the cached registration is removed, the agent registers again,
and the new registration is written to the cache. The token has three copies: in the configuration,
in the cache and in the cell that the other threads read.

* **`allHarmless_iff`**: a refused recovery changes nothing, and the copies agree, in exactly the
  sequences of calls in which a registration that was removed is always replaced.
* `attemptUpload_empty`, `attemptConnect_empty`: without a token no attempt reaches the server.
-/

namespace KeliAgent

structure AutoDiscoveryCache where
  uuid : String
  token : String
  deriving DecidableEq, Repr

structure AutoDiscoveryRegisterRequest where
  url : String
  key : String
  headers : List (String × String)
  deriving DecidableEq, Repr

inductive AutoDiscoveryError where
  | emptyEndpoint
  | emptyKey
  | unsupportedScheme (scheme : String)
  | cachePath (message : String)
  | cacheWrite (message : String)
  | requestFailed (message : String)
  | registerRejected (message : String)
  | emptyRegisteredToken
  deriving DecidableEq, Repr

/-- The part of `AgentConfig` that the recovery reads. -/
structure DiscoveryConfig where
  endpoint : String
  token : String
  autoDiscoveryKey : String
  cfAccessClientId : String
  cfAccessClientSecret : String
  deriving DecidableEq, Repr

def DiscoveryConfig.accessHeaders (config : DiscoveryConfig) : List (String × String) :=
  let id := Text.trim config.cfAccessClientId
  let secret := Text.trim config.cfAccessClientSecret
  if id = "" ∨ secret = "" then []
  else [("CF-Access-Client-Id", id), ("CF-Access-Client-Secret", secret)]

/-- The cache file: it may be missing, or not be the JSON of a registration. -/
inductive CacheFile where
  | absent
  | invalid
  | valid (cache : AutoDiscoveryCache)
  deriving DecidableEq, Repr

/-- The registration that is cached. -/
def readCache : CacheFile → Option AutoDiscoveryCache
  | .valid cache => if Text.trim cache.token = "" then none else some cache
  | _ => none

structure AutoDiscoveryTokenRecovery where
  cachePath : String
  hostname : String

/-- An error that is handed to the recovery, and what the system answers in this call: `removal` is
the error of `remove_file`, other than that there is no file; `writing` is that of `fs::write`, with
what it left of the file. -/
structure RecoveryCall where
  error : TransportError
  removal : Option String
  registration : AutoDiscoveryRegisterRequest → Except AutoDiscoveryError AutoDiscoveryCache
  writing : Option (String × CacheFile)

namespace AutoDiscoveryTokenRecovery

/-! ## The code -/

def clearCache (recovery : AutoDiscoveryTokenRecovery) (call : RecoveryCall) (file : CacheFile) :
    Except AutoDiscoveryError Unit × CacheFile :=
  match call.removal with
  | none => (.ok (), .absent)
  | some error => (.error (.cacheWrite (recovery.cachePath ++ ": " ++ error)), file)

def saveCache (recovery : AutoDiscoveryTokenRecovery) (call : RecoveryCall)
    (cache : AutoDiscoveryCache) : Except AutoDiscoveryError Unit × CacheFile :=
  match call.writing with
  | none => (.ok (), .valid cache)
  | some (error, left) => (.error (.cacheWrite (recovery.cachePath ++ ": " ++ error)), left)

variable (host : UrlHost) (recovery : AutoDiscoveryTokenRecovery)

/-- `normalize_http_base` of `auto_discovery.rs`. -/
def normalizeHttpBase (endpoint : String) : Except AutoDiscoveryError String :=
  let endpoint := trimEndpoint endpoint
  if endpoint = "" then .error .emptyEndpoint
  else
    match ["https://", "http://"].findSome? fun scheme =>
      (Text.stripStart endpoint scheme).map (scheme, ·) with
    | some (scheme, rest) => .ok (scheme ++ host.endpointRestWithAsciiHost rest)
    | none => .error (.unsupportedScheme (schemeOf endpoint))

def buildAutoDiscoveryRegisterUrl (endpoint hostname : String) :
    Except AutoDiscoveryError String := do
  let endpoint ← normalizeHttpBase host endpoint
  return endpoint ++ "/api/clients/register?name=" ++ percentEncode hostname

/-- The result, and the configuration and the cache file after it. -/
def resolveAutoDiscoveryWith (call : RecoveryCall) (config : DiscoveryConfig) (file : CacheFile) :
    Except AutoDiscoveryError Bool × DiscoveryConfig × CacheFile :=
  let key := Text.trim config.autoDiscoveryKey
  if key = "" then (.ok false, config, file)
  else
    match readCache file with
    | some cache => (.ok false, { config with token := cache.token }, file)
    | none =>
      match buildAutoDiscoveryRegisterUrl host config.endpoint recovery.hostname with
      | .error error => (.error error, config, file)
      | .ok url =>
        match call.registration ⟨url, key, config.accessHeaders⟩ with
        | .error error => (.error error, config, file)
        | .ok cache =>
          if Text.trim cache.token = "" then (.error .emptyRegisteredToken, config, file)
          else
            match saveCache recovery call cache with
            | (.error error, file) => (.error error, config, file)
            | (.ok (), file) => (.ok true, { config with token := cache.token }, file)

def recoverFromTransportError (call : RecoveryCall) (config : DiscoveryConfig) (file : CacheFile) :
    Bool × DiscoveryConfig × CacheFile :=
  if Text.trim config.autoDiscoveryKey = "" then (false, config, file)
  else
    match call.error with
    | .invalidClientToken _ token _ _ =>
      let failedToken := Text.trim token
      if failedToken ≠ "" ∧ Text.trim config.token ≠ failedToken then (true, config, file)
      else
        match clearCache recovery call file with
        | (.error _, file) => (false, config, file)
        | (.ok (), file) =>
          let resolved :=
            resolveAutoDiscoveryWith host recovery call { config with token := "" } file
          (resolved.1.toBool, resolved.2)
    | _ => (false, config, file)

/-! ## What a call does -/

/-- The call gets to remove the cached registration and the token. -/
def Discards (config : DiscoveryConfig) (call : RecoveryCall) : Prop :=
  Text.trim config.autoDiscoveryKey ≠ "" ∧ call.removal = none ∧
    ∃ operation token statusCode detail,
      call.error = .invalidClientToken operation token statusCode detail ∧
        (Text.trim token = "" ∨ Text.trim config.token = Text.trim token)

/-- The registration that the server would give, if it has a token. -/
def newRegistration (config : DiscoveryConfig) (call : RecoveryCall) : Option AutoDiscoveryCache :=
  match buildAutoDiscoveryRegisterUrl host config.endpoint recovery.hostname with
  | .error _ => none
  | .ok url =>
    match call.registration ⟨url, Text.trim config.autoDiscoveryKey, config.accessHeaders⟩ with
    | .error _ => none
    | .ok cache => if Text.trim cache.token = "" then none else some cache

/-- The file after the removal, if no registration could be written. -/
def leftFile (config : DiscoveryConfig) (call : RecoveryCall) : CacheFile :=
  match newRegistration host recovery config call, call.writing with
  | some _, some (_, left) => left
  | _, _ => .absent

/-- What is left when the registration was removed: the new one, or no token. -/
def afterDiscard (config : DiscoveryConfig) (call : RecoveryCall) :
    Bool × DiscoveryConfig × CacheFile :=
  match newRegistration host recovery config call, call.writing with
  | some cache, none => (true, { config with token := cache.token }, .valid cache)
  | _, _ => (false, { config with token := "" }, leftFile host recovery config call)

variable {host recovery} {config : DiscoveryConfig} {call : RecoveryCall} {file : CacheFile}

/-- A call that removes nothing leaves all as it was. -/
theorem recover_of_not_discards (h : ¬Discards config call) :
    ∃ recovered, recoverFromTransportError host recovery call config file =
      (recovered, config, file) := by
  unfold recoverFromTransportError
  by_cases hkey : Text.trim config.autoDiscoveryKey = ""
  · exact ⟨false, if_pos hkey⟩
  · rw [if_neg hkey]
    cases herror : call.error with
    | invalidClientToken operation token statusCode detail =>
      by_cases htoken : Text.trim token ≠ "" ∧ Text.trim config.token ≠ Text.trim token
      · exact ⟨true, if_pos htoken⟩
      · refine ⟨false, (if_neg htoken).trans ?_⟩
        rw [not_and_or, not_not, not_not] at htoken
        cases hremoval : call.removal with
        | none => exact absurd ⟨hkey, hremoval, _, _, _, _, herror, htoken⟩ h
        | some error => rw [clearCache, hremoval]
    | emptyEndpoint | emptyToken | unsupportedScheme _ | requestFailed _ | socketClosed =>
      exact ⟨false, rfl⟩

/-- The resolution, once the file and the token are removed. -/
theorem resolve_absent (hkey : Text.trim config.autoDiscoveryKey ≠ "") :
    ((resolveAutoDiscoveryWith host recovery call { config with token := "" } .absent).1.toBool,
      (resolveAutoDiscoveryWith host recovery call { config with token := "" } .absent).2) =
      afterDiscard host recovery config call := by
  have hheaders : ({ config with token := "" } : DiscoveryConfig).accessHeaders =
      config.accessHeaders := rfl
  unfold resolveAutoDiscoveryWith afterDiscard leftFile newRegistration
  rw [if_neg hkey]
  simp only [readCache, hheaders]
  rcases buildAutoDiscoveryRegisterUrl host config.endpoint recovery.hostname with error | url
  · rfl
  · dsimp only
    rcases call.registration ⟨url, Text.trim config.autoDiscoveryKey, config.accessHeaders⟩ with
      error | cache
    · rfl
    · dsimp only
      by_cases htoken : Text.trim cache.token = ""
      · simp only [htoken, if_true]
        rfl
      · simp only [htoken, if_false, saveCache]
        rcases call.writing with _ | ⟨error, left⟩ <;> rfl

theorem recover_of_discards (h : Discards config call) :
    recoverFromTransportError host recovery call config file =
      afterDiscard host recovery config call := by
  obtain ⟨hkey, hremoval, operation, token, statusCode, detail, herror, hsame⟩ := h
  have htoken : ¬(Text.trim token ≠ "" ∧ Text.trim config.token ≠ Text.trim token) := by
    rw [not_and_or, not_not, not_not]
    exact hsame
  rw [recoverFromTransportError, if_neg hkey, herror]
  refine (if_neg htoken).trans ?_
  rw [clearCache, hremoval]
  exact resolve_absent hkey

end AutoDiscoveryTokenRecovery

/-- The three copies of the token. -/
structure RecoveryState where
  config : DiscoveryConfig
  cache : CacheFile
  shared : String
  deriving DecidableEq, Repr

namespace SharedTokenRecovery

open AutoDiscoveryTokenRecovery (Discards newRegistration leftFile afterDiscard)

variable (host : UrlHost) (recovery : AutoDiscoveryTokenRecovery)

/-- The shared token follows a recovery that succeeds. -/
def share (shared : String) : Bool × DiscoveryConfig × CacheFile → Bool × RecoveryState
  | (recovered, config, cache) =>
    (recovered, ⟨config, cache, if recovered then config.token else shared⟩)

/-- `recover_from_transport_error` of `SharedTokenRecovery`. -/
def recoverFromTransportError (state : RecoveryState) (call : RecoveryCall) :
    Bool × RecoveryState :=
  share state.shared (AutoDiscoveryTokenRecovery.recoverFromTransportError host recovery call
    state.config state.cache)

/-! ## When it is harmless -/

/-- A refused recovery changes nothing, and the other threads keep the token of the configuration.
-/
def Harmless (state : RecoveryState) (call : RecoveryCall) : Prop :=
  ((recoverFromTransportError host recovery state call).1 = false →
    (recoverFromTransportError host recovery state call).2.config.token = state.config.token ∧
      readCache (recoverFromTransportError host recovery state call).2.cache =
        readCache state.cache) ∧
    (state.shared = state.config.token →
      (recoverFromTransportError host recovery state call).2.shared =
        (recoverFromTransportError host recovery state call).2.config.token)

/-- A registration that is removed is replaced, unless there was no token and the cache is left as
it was. -/
def Replaces (state : RecoveryState) (call : RecoveryCall) : Prop :=
  Discards state.config call →
    (newRegistration host recovery state.config call).isSome = true ∧ call.writing = none ∨
      state.config.token = "" ∧
        readCache (leftFile host recovery state.config call) = readCache state.cache

/-- In a sequence of calls, each call is as `P` says in the state before it. -/
def AllCalls (P : RecoveryState → RecoveryCall → Prop) : RecoveryState → List RecoveryCall → Prop
  | _, [] => True
  | state, call :: calls =>
    P state call ∧ AllCalls P (recoverFromTransportError host recovery state call).2 calls

variable {host recovery} {state : RecoveryState} {call : RecoveryCall}

theorem harmless_of_not_discards (h : ¬Discards state.config call) :
    Harmless host recovery state call := by
  obtain ⟨recovered, hrecover⟩ := AutoDiscoveryTokenRecovery.recover_of_not_discards h
  rw [Harmless, recoverFromTransportError, hrecover]
  refine ⟨fun _ => ⟨rfl, rfl⟩, fun hshared => ?_⟩
  cases recovered with
  | false => exact hshared
  | true => rfl

/-- A removed registration is harmless if it is replaced. -/
theorem harmless_of_discards_iff (h : Discards state.config call) :
    Harmless host recovery state call ↔
      (newRegistration host recovery state.config call).isSome = true ∧ call.writing = none ∨
        state.config.token = "" ∧
          readCache (leftFile host recovery state.config call) = readCache state.cache := by
  rw [Harmless, recoverFromTransportError, AutoDiscoveryTokenRecovery.recover_of_discards h,
    afterDiscard]
  split
  · next cache hcache hwriting =>
    have hsome := Option.isSome_iff_exists.mpr ⟨cache, hcache⟩
    exact ⟨fun _ => .inl ⟨hsome, hwriting⟩, fun _ => ⟨nofun, fun _ => rfl⟩⟩
  · next hfailed =>
    dsimp only [share]
    constructor
    · rintro ⟨hunchanged, -⟩
      obtain ⟨htoken, hcache⟩ := hunchanged rfl
      exact .inr ⟨htoken.symm, hcache⟩
    · rintro (⟨hsome, hwriting⟩ | ⟨htoken, hcache⟩)
      · obtain ⟨cache, hcache⟩ := Option.isSome_iff_exists.mp hsome
        exact absurd hwriting (hfailed cache hcache)
      · refine ⟨fun _ => ⟨htoken.symm, hcache⟩, fun hshared => ?_⟩
        exact hshared.trans htoken

theorem harmless_iff : Harmless host recovery state call ↔ Replaces host recovery state call := by
  by_cases h : Discards state.config call
  · rw [harmless_of_discards_iff h, Replaces]
    exact ⟨fun hreplaced _ => hreplaced, fun hreplaces => hreplaces h⟩
  · exact iff_of_true (harmless_of_not_discards h) fun hdiscards => absurd hdiscards h

/-- **A sequence of recoveries is harmless iff what is removed is always replaced.** -/
theorem allHarmless_iff (host : UrlHost) (recovery : AutoDiscoveryTokenRecovery)
    (state : RecoveryState) (calls : List RecoveryCall) :
    AllCalls host recovery (Harmless host recovery) state calls ↔
      AllCalls host recovery (Replaces host recovery) state calls := by
  induction calls generalizing state with
  | nil => exact Iff.rfl
  | cons call calls ih => exact and_congr harmless_iff (ih _)

/-- Registered, cached and shared. -/
def registered : RecoveryState :=
  ⟨⟨"https://panel", "old", "key", "", ""⟩, .valid ⟨"1", "old"⟩, "old"⟩

/-- The server refuses the token and cannot be reached to register. -/
def unreachable : RecoveryCall where
  error := .invalidClientToken "report" "old" 401 ""
  removal := none
  registration := fun _ => .error (.requestFailed "timeout")
  writing := none

/-- The token and the registration are gone, the threads have the refused token, and without a token
there is not even a URL to ask again. -/
theorem failed_recovery_strands :
    ¬AllCalls UrlHost.plain ⟨"cache", "box"⟩ (Harmless UrlHost.plain ⟨"cache", "box"⟩) registered
        [unreachable] ∧
      (recoverFromTransportError UrlHost.plain ⟨"cache", "box"⟩ registered unreachable) =
        (false, ⟨⟨"https://panel", "", "key", "", ""⟩, .absent, "old"⟩) ∧
      buildBasicInfoUrl "https://panel" "" = .error .emptyToken := by
  have hrecover : recoverFromTransportError UrlHost.plain ⟨"cache", "box"⟩ registered unreachable =
      (false, ⟨⟨"https://panel", "", "key", "", ""⟩, .absent, "old"⟩) := by
    decide +kernel
  refine ⟨?_, hrecover, by decide +kernel⟩
  rintro ⟨⟨hunchanged, -⟩, -⟩
  rw [hrecover] at hunchanged
  exact absurd (hunchanged rfl).1 (by decide)

end SharedTokenRecovery

namespace ReportLoop

variable {W ι ρ π : Type} (world : ReportWorld W ι ρ π) (config : ReportConfig)

/-- **Without a token no upload is attempted**, so that no answer of the server can lead to a
recovery. -/
theorem attemptUpload_empty (cycle : ℕ) (info : BasicInfo ι) (w : W) :
    ∃ error, attemptUpload world config cycle info "" w = ⟨.ok (.error error), w, []⟩ := by
  have hurl : ∃ error, buildBasicInfoUrl config.endpoint "" = .error error := by
    unfold buildBasicInfoUrl
    cases normalizeHttpBase config.endpoint with
    | error error => exact ⟨error, rfl⟩
    | ok endpoint => exact ⟨.emptyToken, rfl⟩
  obtain ⟨error, hurl⟩ := hurl
  refine ⟨.transport error, ?_⟩
  rw [attemptUpload, hurl]
  rfl

/-- **Nor is a connect.** -/
theorem attemptConnect_empty (host : UrlHost) (cycle id : ℕ) (w : W) :
    attemptConnect world host config cycle id "" w =
      ⟨.ok (.error (.protocol .emptyToken)), w, [.unbuilt cycle ""]⟩ := by
  have hurl : host.buildReportWsUrl config.endpoint "" = .error .emptyToken := rfl
  rw [attemptConnect, hurl]
  rfl

end ReportLoop

end KeliAgent
