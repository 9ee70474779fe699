import KeliAgent.Lib.Directory
import KeliAgent.Tunnel.Core

/-!
# What the operations of the core do to its sessions

* `directory`: which session each id stands for, and under which id and leg each session was
  created. Every operation of the core acts on it by `insert`, `erase` or `clear`, or leaves it.
* `arena_closeSession`: closing a session touches that session only.
* **`sendToSession_cases`**, **`handleSessionData_cases`**: a payload enters the channel of the
  session of its id exactly if that session admits it, and otherwise nothing changes.
-/

namespace KeliAgent

open Wire

/-- The read ends the reader: the end of the stream, or a failure. -/
def TcpRead.Ends (chunkSize : ℕ) (read : TcpRead) : Prop :=
  read.chunk chunkSize = none ∨ read.chunk chunkSize = some []

instance (chunkSize : ℕ) (read : TcpRead) : Decidable (read.Ends chunkSize) :=
  inferInstanceAs (Decidable (_ ∨ _))

namespace AsyncTunnelSession

/-- The session can take a payload of so many bytes. -/
def Admits (session : AsyncTunnelSession) (bytes limit : ℕ) : Prop :=
  session.pendingBytes + bytes < 2 ^ 64 ∧ session.pendingBytes + bytes ≤ limit ∧
    session.receiverOpen ∧ session.toTcp.length < toTcpCapacity

instance (session : AsyncTunnelSession) (bytes limit : ℕ) :
    Decidable (session.Admits bytes limit) :=
  inferInstanceAs (Decidable (_ ∧ _ ∧ _ ∧ _))

/-- The session after it took a payload. -/
def received (session : AsyncTunnelSession) (payload : List UInt8) : AsyncTunnelSession :=
  { session with
    pendingBytes := session.pendingBytes + payload.length
    toTcp := session.toTcp ++ [payload] }

/-- The session after its reader was aborted and awaited. -/
def stopped (session : AsyncTunnelSession) : AsyncTunnelSession :=
  if session.readerHandle then
    { session with readerHandle := false, readerAborted := true, readerStatus := .finished }
  else session

end AsyncTunnelSession

namespace AsyncTunnelCore

/-! ## Fields that an access leaves alone -/

section Fields

variable (core : AsyncTunnelCore)

@[simp] theorem arena_eraseSession (sessionId : UInt64) :
    (core.eraseSession sessionId).arena = core.arena := rfl

@[simp] theorem arena_updateStats (f : TunnelRuntimeStats → TunnelRuntimeStats) :
    (core.updateStats f).arena = core.arena := rfl

@[simp] theorem arena_pushFrame (frame : KtpFrame) (now : ℕ) :
    (core.pushFrame frame now).2.arena = core.arena := rfl

@[simp] theorem arena_removeSessionFrames (sessionId : UInt64) :
    (core.removeSessionFrames sessionId).arena = core.arena := rfl

/-- An id that is not in the map can be erased from it. -/
theorem eraseSession_of_none {core : AsyncTunnelCore} {sessionId : UInt64}
    (h : core.sessions.lookup sessionId = none) : core.eraseSession sessionId = core := by
  have herase : core.sessions.erase sessionId = core.sessions :=
    AList.ext (List.kerase_of_notMem_keys (AList.lookup_eq_none.mp h))
  rw [eraseSession, herase]

end Fields

/-- The read ends the reader of the session. -/
def ReaderEnds (core : AsyncTunnelCore) (ref : ℕ) (read : TcpRead) : Prop :=
  ∃ session ∈ core.arena[ref]?, session.readerStatus = .running ∧
    read.Ends core.limits.tcpReadChunkSize

instance (core : AsyncTunnelCore) (ref : ℕ) (read : TcpRead) :
    Decidable (core.ReaderEnds ref read) :=
  inferInstanceAs (Decidable (∃ session ∈ core.arena[ref]?, _))

/-! ## The directory of the core -/

/-- Which session each id stands for, and the id and leg of every session. -/
def directory (core : AsyncTunnelCore) : Directory UInt64 FrameLeg where
  holder := fun sessionId => core.sessions.lookup sessionId
  keys := core.arena.map fun session => (session.sessionId, session.leg)

section Directory

variable (core : AsyncTunnelCore)

theorem directory_modifySession {ref : ℕ} {f : AsyncTunnelSession → AsyncTunnelSession}
    (hf : ∀ session, core.arena[ref]? = some session →
      (f session).sessionId = session.sessionId ∧ (f session).leg = session.leg) :
    (core.modifySession ref f).directory = core.directory := by
  have hkeys : (core.arena.modify ref f).map (fun session => (session.sessionId, session.leg)) =
      core.arena.map fun session => (session.sessionId, session.leg) := by
    refine List.ext_getElem? fun i => ?_
    rw [List.getElem?_map, List.getElem?_map, List.getElem?_modify]
    by_cases hi : ref = i
    · subst hi
      cases hs : core.arena[ref]? with
      | none => rfl
      | some session => simp [hf session hs]
    · simp [hi]
  rw [directory, directory, modifySession, hkeys]

@[simp] theorem directory_insertSession (sessionId ruleId : UInt64) (leg : FrameLeg) :
    (core.insertSession sessionId ruleId leg).directory = core.directory.insert sessionId leg := by
  rw [directory, directory, Directory.insert, insertSession]
  congr 1
  · funext i
    by_cases hi : i = sessionId
    · subst hi
      simp
    · rw [AList.lookup_insert_ne hi, Function.update_of_ne hi]
  · simp [AsyncTunnelSession.new]

@[simp] theorem directory_eraseSession (sessionId : UInt64) :
    (core.eraseSession sessionId).directory = core.directory.erase sessionId := by
  rw [directory, directory, Directory.erase, eraseSession]
  congr 1
  funext i
  by_cases hi : i = sessionId
  · subst hi
    simp
  · rw [AList.lookup_erase_ne hi, Function.update_of_ne hi]

@[simp] theorem directory_updateStats (f : TunnelRuntimeStats → TunnelRuntimeStats) :
    (core.updateStats f).directory = core.directory := rfl

@[simp] theorem directory_pushFrame (frame : KtpFrame) (now : ℕ) :
    (core.pushFrame frame now).2.directory = core.directory := rfl

@[simp] theorem directory_removeSessionFrames (sessionId : UInt64) :
    (core.removeSessionFrames sessionId).directory = core.directory := rfl

@[simp] theorem directory_clearOutbound : core.clearOutbound.directory = core.directory := rfl

@[simp] theorem directory_spawnSessionReader (ref : ℕ) :
    (core.spawnSessionReader ref).directory = core.directory :=
  directory_modifySession core fun _ _ => ⟨rfl, rfl⟩

@[simp] theorem directory_setReaderTask (ref : ℕ) :
    (core.setReaderTask ref).directory = core.directory :=
  directory_modifySession core fun _ _ => ⟨rfl, rfl⟩

@[simp] theorem directory_finishReader (ref : ℕ) :
    (core.finishReader ref).directory = core.directory :=
  directory_modifySession core fun _ _ => ⟨rfl, rfl⟩

@[simp] theorem directory_dropReceiver (ref : ℕ) :
    (core.dropReceiver ref).directory = core.directory :=
  directory_modifySession core fun _ _ => ⟨rfl, rfl⟩

@[simp] theorem directory_abortReader (ref : ℕ) :
    (core.abortReader ref).directory = core.directory := by
  refine directory_modifySession core fun session _ => ?_
  split_ifs <;> exact ⟨rfl, rfl⟩

@[simp] theorem directory_stopReader (ref : ℕ) (session : AsyncTunnelSession) :
    (core.stopReader ref session).directory = core.directory := by
  unfold stopReader
  split_ifs <;> simp

variable {core} in
theorem exists_session_of_lookup (hwf : core.directory.Wf) {sessionId : UInt64} {ref : ℕ}
    (h : core.sessions.lookup sessionId = some ref) :
    ∃ session, core.arena[ref]? = some session ∧ session.sessionId = sessionId := by
  obtain ⟨leg, hkey⟩ := hwf sessionId ref h
  simp only [directory, List.getElem?_map, Option.map_eq_some_iff, Prod.mk.injEq] at hkey
  obtain ⟨session, hs, hid, -⟩ := hkey
  exact ⟨session, hs, hid⟩

/-! What the operations do to the directory. -/

theorem openEgressSession_cases (sessionId ruleId : UInt64) (targetHost : String)
    (targetPort : UInt16) (dial : String → TcpDial) :
    (∃ error, core.openEgressSession sessionId ruleId targetHost targetPort dial =
        (.error error, core)) ∨
      ∃ core', core.openEgressSession sessionId ruleId targetHost targetPort dial =
        (.ok [acceptFrame sessionId ruleId], core') ∧
          core'.directory = core.directory.insert sessionId .egress := by
  unfold openEgressSession
  cases core.ensureAgentSessionCapacity with
  | error error => exact Or.inl ⟨error, rfl⟩
  | ok _ =>
    cases dialResult (dial (targetAddress targetHost targetPort)) with
    | error error => exact Or.inl ⟨error, rfl⟩
    | ok _ => exact Or.inr ⟨_, rfl, by simp⟩

theorem directory_announce (sessionId : UInt64) (payload : TunnelSessionOpenPayload) (now : ℕ) :
    (core.announce sessionId payload now).2.directory = core.directory := by
  unfold announce
  cases encodeSessionOpenPayload payload <;> rfl

theorem attachIngressStream_cases (sessionId : UInt64) (payload : TunnelSessionOpenPayload)
    (now : ℕ) :
    (core.attachIngressStream sessionId payload now).2 = core ∨
      (core.attachIngressStream sessionId payload now).2.directory =
        core.directory.insert sessionId .ingress := by
  unfold attachIngressStream
  cases core.ensureAgentSessionCapacity with
  | error error => exact Or.inl rfl
  | ok _ =>
    -- the session stays in the map also when it cannot be announced
    right
    have h := directory_announce ((core.insertSession sessionId payload.ruleId .ingress).updateStats
      (·.sessionOpened payload.ruleId)) sessionId payload now
    simp only [directory_updateStats, directory_insertSession] at h
    simp only
    split <;> rename_i hannounce <;> rw [hannounce] at h <;> simpa using h

theorem acceptIngress_cases (payload : TunnelSessionOpenPayload) (now : ℕ) :
    (core.acceptIngress payload now).directory = core.directory ∨
      (core.acceptIngress payload now).directory =
        core.directory.insert core.nextSessionId .ingress := by
  unfold acceptIngress
  rcases attachIngressStream_cases { core with nextSessionId := core.nextSessionId + 1 }
    core.nextSessionId payload now with h | h
  · exact Or.inl (by rw [h]; rfl)
  · exact Or.inr h

/-- A closed session leaves the map, whether or not it was there. -/
theorem directory_closeSession (sessionId : UInt64) :
    (core.closeSession sessionId).2.directory = core.directory.erase sessionId := by
  unfold closeSession
  cases hlookup : core.sessions.lookup sessionId with
  | none => rw [← directory_eraseSession, eraseSession_of_none hlookup]
  | some ref =>
    simp only
    split <;> simp

theorem directory_retireSession (ref : ℕ) :
    (core.retireSession ref).directory = core.directory := by
  unfold retireSession
  split <;> simp

theorem directory_closeAllSessions : core.closeAllSessions.directory = core.directory.clear := by
  have hfold : ∀ (refs : List ℕ) (core : AsyncTunnelCore),
      (refs.foldl retireSession core).directory = core.directory := by
    intro refs
    induction refs with
    | nil => exact fun _ => rfl
    | cons ref refs ih => exact fun core => (ih _).trans (directory_retireSession core ref)
  unfold closeAllSessions
  rw [directory_clearOutbound, hfold]
  rfl

/-- The reader of a session either goes on or takes the id of its session out of the map. -/
theorem sessionReader_cases (ref : ℕ) (read : TcpRead) (now : ℕ) :
    (¬ core.ReaderEnds ref read ∧
        (core.sessionReader ref read now).directory = core.directory) ∨
      ∃ session, core.arena[ref]? = some session ∧ core.ReaderEnds ref read ∧
        (core.sessionReader ref read now).directory =
          core.directory.erase session.sessionId := by
  have hend : ∀ (core : AsyncTunnelCore) (session : AsyncTunnelSession),
      (core.endReader ref session).directory = core.directory.erase session.sessionId := by
    intro core session
    unfold endReader
    split_ifs <;> simp
  unfold sessionReader
  cases hs : core.arena[ref]? with
  | none => exact Or.inl ⟨by simp [ReaderEnds, hs], rfl⟩
  | some session =>
    by_cases hrun : session.readerStatus = .running
    · simp only
      rw [if_pos hrun]
      split
      · next hread => exact Or.inr ⟨session, rfl, ⟨session, hs, hrun, Or.inl hread⟩, hend _ _⟩
      · next hread => exact Or.inr ⟨session, rfl, ⟨session, hs, hrun, Or.inr hread⟩, hend _ _⟩
      · next chunk hchunk hread =>
        refine Or.inl ⟨?_, rfl⟩
        rintro ⟨-, -, -, hends | hends⟩
        · rw [hread] at hends
          cases hends
        · rw [hread] at hends
          exact hchunk (Option.some.inj hends)
    · simp only
      rw [if_neg hrun]
      exact Or.inl ⟨by simp [ReaderEnds, hs, hrun], rfl⟩

theorem directory_sessionWriter (ref : ℕ) (write : TcpWrite) :
    (core.sessionWriter ref write).directory = core.directory := by
  unfold sessionWriter
  cases hs : core.arena[ref]? with
  | none => rfl
  | some session =>
    simp only
    split
    · rename_i payload rest _ _
      have hmodify : ∀ core : AsyncTunnelCore, (core.modifySession ref fun session =>
          AsyncTunnelSession.releasePendingBytes { session with toTcp := rest }
            payload.length).directory = core.directory :=
        fun core => directory_modifySession core fun _ _ => ⟨rfl, rfl⟩
      cases write <;> simp [hmodify]
    · rfl

end Directory

/-! ## Single sessions -/

/-- Only the session at the position matters to `modifySession`. -/
theorem modifySession_eq {core : AsyncTunnelCore} {ref : ℕ} {session : AsyncTunnelSession}
    (hs : core.arena[ref]? = some session) (f : AsyncTunnelSession → AsyncTunnelSession) :
    core.modifySession ref f = core.modifySession ref fun _ => f session := by
  have harena : core.arena.modify ref f = core.arena.modify ref fun _ => f session := by
    refine List.ext_getElem? fun i => ?_
    rw [List.getElem?_modify, List.getElem?_modify]
    by_cases hi : ref = i
    · subst hi
      simp [hs]
    · simp [hi]
  rw [modifySession, modifySession, harena]

theorem modifySession_self {core : AsyncTunnelCore} {ref : ℕ} {session : AsyncTunnelSession}
    (hs : core.arena[ref]? = some session) : core.modifySession ref (fun _ => session) = core := by
  refine (modifySession_eq hs id).symm.trans ?_
  rw [modifySession, List.modify_id]

theorem modifySession_modifySession (core : AsyncTunnelCore) (ref : ℕ)
    (f g : AsyncTunnelSession → AsyncTunnelSession) :
    (core.modifySession ref f).modifySession ref g = core.modifySession ref (g ∘ f) := by
  rw [modifySession, modifySession, modifySession, List.modify_modify_eq]

theorem getElem?_modifySession_of_ne (core : AsyncTunnelCore) {ref ref' : ℕ} (h : ref' ≠ ref)
    (f : AsyncTunnelSession → AsyncTunnelSession) :
    (core.modifySession ref f).arena[ref']? = core.arena[ref']? := by
  simp [modifySession, h.symm]

theorem getElem?_modifySession_self {core : AsyncTunnelCore} {ref : ℕ}
    {session : AsyncTunnelSession} (hs : core.arena[ref]? = some session)
    (f : AsyncTunnelSession → AsyncTunnelSession) :
    (core.modifySession ref f).arena[ref]? = some (f session) := by
  simp [modifySession, hs]

theorem stopReader_eq {core : AsyncTunnelCore} {ref : ℕ} {session : AsyncTunnelSession}
    (hs : core.arena[ref]? = some session) :
    core.stopReader ref session = core.modifySession ref fun _ => session.stopped := by
  unfold stopReader abortReader finishReader AsyncTunnelSession.stopped
  by_cases hhandle : session.readerHandle
  · rw [if_pos hhandle, modifySession_modifySession, modifySession_eq hs]
    simp [hhandle]
  · rw [if_neg hhandle, modifySession_eq hs]
    simp [hhandle]

/-- **Closing a session stops its reader** and touches no other session. -/
theorem arena_closeSession {core : AsyncTunnelCore} {sessionId : UInt64} {ref : ℕ}
    {session : AsyncTunnelSession} (href : core.sessions.lookup sessionId = some ref)
    (hs : core.arena[ref]? = some session) :
    (core.closeSession sessionId).2.arena =
      (core.modifySession ref fun _ => session.stopped).arena := by
  have hs' : (core.eraseSession sessionId).arena[ref]? = some session := hs
  unfold closeSession
  simp only [href, hs', stopReader_eq hs']
  rfl

theorem closeSession_of_none {core : AsyncTunnelCore} {sessionId : UInt64}
    (href : core.sessions.lookup sessionId = none) : (core.closeSession sessionId).2 = core := by
  unfold closeSession
  rw [href]

/-- **A session takes a payload exactly if it admits it**; otherwise nothing changes, and the error
is not the one of a missing session. -/
theorem sendToSession_cases {core : AsyncTunnelCore} {ref : ℕ} {session : AsyncTunnelSession}
    (hs : core.arena[ref]? = some session) (payload : List UInt8) :
    (session.Admits payload.length core.limits.maxSessionPendingBytes ∧
        core.sendToSession ref session payload =
          (.ok (), core.modifySession ref fun _ => session.received payload)) ∨
      (¬ session.Admits payload.length core.limits.maxSessionPendingBytes ∧
        ∃ error : TunnelRuntimeError, error.code ≠ "runtime_unavailable" ∧
          core.sendToSession ref session payload = (.error error, core)) := by
  have hcode : ∀ message,
      (TunnelRuntimeError.sessionPendingBytesLimit message).code ≠ "runtime_unavailable" := by
    intro message
    simp only [TunnelRuntimeError.sessionPendingBytesLimit]
    decide
  unfold sendToSession AsyncTunnelSession.reservePendingBytes AsyncTunnelSession.Admits
  simp only
  by_cases hover : 2 ^ 64 ≤ session.pendingBytes + payload.length
  · rw [if_pos hover]
    exact Or.inr ⟨fun h => absurd h.1 (not_lt.mpr hover), _, hcode _, rfl⟩
  rw [if_neg hover]
  by_cases hlimit : core.limits.maxSessionPendingBytes < session.pendingBytes + payload.length
  · rw [if_pos hlimit]
    exact Or.inr ⟨fun h => absurd h.2.1 (not_le.mpr hlimit), _, hcode _, rfl⟩
  rw [if_neg hlimit]
  unfold AsyncTunnelSession.trySend
  by_cases hsend : session.receiverOpen ∧ session.toTcp.length < AsyncTunnelSession.toTcpCapacity
  · simp only [if_pos hsend]
    exact Or.inl ⟨⟨not_le.mp hover, not_lt.mp hlimit, hsend⟩, rfl⟩
  · simp only [if_neg hsend]
    refine Or.inr ⟨fun h => hsend h.2.2, .backpressureLimit, by decide, ?_⟩
    -- what was reserved is released again
    have hback : AsyncTunnelSession.releasePendingBytes
        { session with pendingBytes := session.pendingBytes + payload.length } payload.length =
          session := by
      simp [AsyncTunnelSession.releasePendingBytes]
    rw [hback, modifySession_self hs]

/-- The session of the id, if there is one, can take a payload of so many bytes. -/
def Admits (core : AsyncTunnelCore) (sessionId : UInt64) (bytes : ℕ) : Prop :=
  ∀ ref ∈ core.sessions.lookup sessionId, ∀ session ∈ core.arena[ref]?,
    session.Admits bytes core.limits.maxSessionPendingBytes

instance (core : AsyncTunnelCore) (sessionId : UInt64) (bytes : ℕ) :
    Decidable (core.Admits sessionId bytes) :=
  inferInstanceAs (Decidable (∀ ref ∈ core.sessions.lookup sessionId, _))

/-- The outcomes of a data frame: taken, refused, or without a session. -/
theorem handleSessionData_cases (core : AsyncTunnelCore) (sessionId : UInt64) (leg : FrameLeg)
    (payload : List UInt8) :
    (∃ ref session, core.sessions.lookup sessionId = some ref ∧ core.arena[ref]? = some session ∧
        session.Admits payload.length core.limits.maxSessionPendingBytes ∧
          core.handleSessionData sessionId leg payload =
            (.ok (), core.modifySession ref fun _ => session.received payload)) ∨
      (∃ ref session, core.sessions.lookup sessionId = some ref ∧ core.arena[ref]? = some session ∧
        ¬ session.Admits payload.length core.limits.maxSessionPendingBytes ∧
          ∃ error : TunnelRuntimeError, error.code ≠ "runtime_unavailable" ∧
            core.handleSessionData sessionId leg payload = (.error error, core)) ∨
      (∀ ref ∈ core.sessions.lookup sessionId, core.arena[ref]? = none) ∧
        core.handleSessionData sessionId leg payload = (.error sessionNotFound, core) := by
  unfold handleSessionData
  cases hlookup : core.sessions.lookup sessionId with
  | none => exact Or.inr (Or.inr ⟨nofun, rfl⟩)
  | some ref =>
    cases hs : core.arena[ref]? with
    | none =>
      refine Or.inr (Or.inr ⟨?_, by simp only [hs]⟩)
      intro ref' href'
      cases href'
      exact hs
    | some session =>
      simp only [hs]
      rcases sendToSession_cases hs payload with ⟨hadmits, hsend⟩ | ⟨hrefused, error, hcode, hsend⟩
      · exact Or.inl ⟨ref, session, rfl, hs, hadmits, hsend⟩
      · exact Or.inr (Or.inl ⟨ref, session, rfl, hs, hrefused, error, hcode, hsend⟩)

theorem directory_handleSessionData (core : AsyncTunnelCore) (sessionId : UInt64) (leg : FrameLeg)
    (payload : List UInt8) :
    (core.handleSessionData sessionId leg payload).2.directory = core.directory := by
  rcases handleSessionData_cases core sessionId leg payload with
    ⟨ref, session, -, hs, -, h⟩ | ⟨_, _, _, _, _, _, _, h⟩ | ⟨-, h⟩
  · rw [h]
    refine directory_modifySession core fun session' hs' => ?_
    rw [hs] at hs'
    cases hs'
    exact ⟨rfl, rfl⟩
  · rw [h]
  · rw [h]

end AsyncTunnelCore

end KeliAgent
