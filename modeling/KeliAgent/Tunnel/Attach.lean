import KeliAgent.Tunnel.PayloadForms
import KeliAgent.Tunnel.Sessions

/-!
# Attaching an ingress connection

`attach_ingress_stream` inserts and counts the session before it encodes and queues the frame that
announces it. When one of these two fails, the error is returned and nothing is taken back.

* `attachIngressStream_outcomes`: refused at the limit, attached, or left behind.
* **`attach_leaves_no_trace_iff`**: a failed attach leaves no trace exactly if it failed at the
  limit.
* `attach_to_full_queue_leaks`: a full queue leaves a session behind.
-/

namespace KeliAgent

open Wire

namespace AsyncTunnelCore

section Attach

variable (core : AsyncTunnelCore) (sessionId : UInt64) (payload : TunnelSessionOpenPayload)
  (now : ℕ)

/-- The limit of sessions is reached, so that nothing is begun; or everything that comes after the
insertion succeeds: both strings fit into the frame, and the queue has room for it. -/
def AttachFits : Prop :=
  core.limits.maxSessionsPerAgent ≤ core.stats.activeSessions ∨
    payload.listenHost.utf8ByteSize ≤ 65535 ∧ payload.sourceAddr.utf8ByteSize ≤ 65535 ∧
      core.outbound.len < core.outbound.capacity

instance : Decidable (core.AttachFits payload) := inferInstanceAs (Decidable (_ ∨ _))

/-- The core with the session inserted and counted, but neither announced nor read. -/
def registered : AsyncTunnelCore :=
  (core.insertSession sessionId payload.ruleId .ingress).updateStats
    (·.sessionOpened payload.ruleId)

/-- The core with the session also announced and read. -/
def attached : AsyncTunnelCore :=
  (((core.registered sessionId payload).pushFrame
    (openFrame sessionId payload.form) now).2.spawnSessionReader core.arena.length).setReaderTask
      core.arena.length

theorem openPayload_fits_iff :
    payload.Fits ↔
      payload.listenHost.utf8ByteSize ≤ 65535 ∧ payload.sourceAddr.utf8ByteSize ≤ 65535 := by
  have hlt : ∀ n : ℕ, n < 2 ^ 16 ↔ n ≤ 65535 := fun n => Nat.lt_succ_iff
  simp only [TunnelSessionOpenPayload.Fits, StringFits, hlt]

variable {core payload} in
theorem attachFits_iff (hlimit : ¬ core.limits.maxSessionsPerAgent ≤ core.stats.activeSessions) :
    core.AttachFits payload ↔ payload.Fits ∧ core.outbound.len < core.outbound.capacity := by
  rw [AttachFits, openPayload_fits_iff, and_assoc, or_iff_right hlimit]

/-- The frame is queued if the strings fit and the queue has room, and otherwise nothing happens. -/
theorem announce_cases :
    (payload.Fits ∧ core.outbound.len < core.outbound.capacity ∧
        core.announce sessionId payload now =
          (.ok (), (core.pushFrame (openFrame sessionId payload.form) now).2)) ∨
      (¬ (payload.Fits ∧ core.outbound.len < core.outbound.capacity) ∧
        ∃ error, core.announce sessionId payload now = (.error error, core)) := by
  unfold announce
  by_cases hpayload : payload.Fits
  · have hencode : encodeSessionOpenPayload payload = .ok payload.form :=
      appends_openPayload.ok [] hpayload
    simp only [hencode, pushFrame]
    rcases core.outbound.tryPush_cases (openFrame sessionId payload.form) now with
      ⟨hfull, hpush⟩ | ⟨hroom, hpush⟩
    · rw [hpush]
      exact Or.inr ⟨fun h => absurd h.2 (not_lt.mpr hfull), _, rfl⟩
    · rw [hpush]
      exact Or.inl ⟨hpayload, hroom, rfl⟩
  · obtain ⟨error, hencode⟩ := appends_openPayload.error [] hpayload
    have hencode : encodeSessionOpenPayload payload = .error error := hencode
    simp only [hencode]
    exact Or.inr ⟨fun h => hpayload h.1, _, rfl⟩

/-- The outcomes of an attach: it is refused at the limit; the session is announced and its reader
runs; or it fails with the session registered. -/
theorem attachIngressStream_outcomes :
    (core.limits.maxSessionsPerAgent ≤ core.stats.activeSessions ∧
        ∃ error, core.attachIngressStream sessionId payload now = (.error error, core)) ∨
      (payload.Fits ∧ core.outbound.len < core.outbound.capacity ∧
        core.attachIngressStream sessionId payload now =
          (.ok (), core.attached sessionId payload now)) ∨
      (¬ core.AttachFits payload ∧
        ∃ error, core.attachIngressStream sessionId payload now =
          (.error error, (core.registered sessionId payload).dropReceiver core.arena.length)) := by
  unfold attachIngressStream ensureAgentSessionCapacity
  by_cases hlimit : core.limits.maxSessionsPerAgent ≤ core.stats.activeSessions
  · rw [if_pos hlimit]
    exact Or.inl ⟨hlimit, _, rfl⟩
  rw [if_neg hlimit]
  right
  have hregistered : (core.insertSession sessionId payload.ruleId .ingress).updateStats
      (·.sessionOpened payload.ruleId) = core.registered sessionId payload := rfl
  simp only [hregistered]
  rcases announce_cases (core.registered sessionId payload) sessionId payload now with
    ⟨hpayload, hroom, hannounce⟩ | ⟨hfail, error, hannounce⟩
  · rw [hannounce]
    exact Or.inl ⟨hpayload, hroom, rfl⟩
  · rw [hannounce]
    exact Or.inr ⟨fun h => hfail ((attachFits_iff hlimit).mp h), error, rfl⟩

/-! ## Nothing left behind -/

/-- The call left the sessions and the counters of sessions as they were. -/
def SameSessions (core' : AsyncTunnelCore) : Prop :=
  core'.sessions = core.sessions ∧ core'.stats.activeSessions = core.stats.activeSessions ∧
    core'.stats.ruleSessionCounts = core.stats.ruleSessionCounts

/-- If the call created a session, then the session has its id, its SessionOpen is queued, and its
reader runs and takes it out of the map when the connection ends. -/
def NewSessionServed (core' : AsyncTunnelCore) : Prop :=
  core.arena.length < core'.arena.length →
    core'.sessions.lookup sessionId = some core.arena.length ∧
    (∃ bytes, encodeSessionOpenPayload payload = .ok bytes ∧
      core'.outbound.frames = core.outbound.frames ++ [⟨openFrame sessionId bytes, now⟩]) ∧
    (∃ session ∈ core'.arena[core.arena.length]?, session.readerStatus = .running) ∧
    ∀ read now', read.Ends core'.limits.tcpReadChunkSize →
      (core'.sessionReader core.arena.length read now').sessions.lookup sessionId = none

/-- The session after its reader was spawned. -/
def readSession : AsyncTunnelSession :=
  { AsyncTunnelSession.new sessionId payload.ruleId .ingress with
    readerStatus := .running, readerHandle := true }

theorem getElem?_arena_attached :
    (core.attached sessionId payload now).arena[core.arena.length]? =
      some (readSession sessionId payload) := by
  have hnew : (core.registered sessionId payload).arena[core.arena.length]? =
      some (.new sessionId payload.ruleId .ingress) := List.getElem?_concat_length
  have hpushed : ((core.registered sessionId payload).pushFrame (openFrame sessionId payload.form)
      now).2.arena[core.arena.length]? = some (.new sessionId payload.ruleId .ingress) := hnew
  have hspawned := getElem?_modifySession_self hpushed
    fun session => { session with readerStatus := .running }
  exact getElem?_modifySession_self hspawned fun session => { session with readerHandle := true }

theorem lookup_attached :
    (core.attached sessionId payload now).sessions.lookup sessionId = some core.arena.length :=
  AList.lookup_insert core.sessions

theorem lookup_sessionReader_attached {read : TcpRead}
    (hends : read.Ends core.limits.tcpReadChunkSize) (now' : ℕ) :
    ((core.attached sessionId payload now).sessionReader core.arena.length read
      now').sessions.lookup sessionId = none := by
  have hsession := getElem?_arena_attached core sessionId payload now
  have hreader : (core.attached sessionId payload now).ReaderEnds core.arena.length read :=
    ⟨_, hsession, rfl, hends⟩
  rcases sessionReader_cases (core.attached sessionId payload now) core.arena.length read now' with
    ⟨hgoes, -⟩ | ⟨session, hs, -, hdirectory⟩
  · exact absurd hreader hgoes
  · cases hsession.symm.trans hs
    have hholder := congrArg (fun directory => directory.holder sessionId) hdirectory
    refine hholder.trans ?_
    exact Function.update_self (readSession sessionId payload).sessionId none
      (core.attached sessionId payload now).directory.holder

variable {core payload} in
theorem newSessionServed_attached (hpayload : payload.Fits)
    (hroom : core.outbound.len < core.outbound.capacity) :
    core.NewSessionServed sessionId payload now (core.attached sessionId payload now) := by
  have hroom' : ¬ core.outbound.capacity ≤ core.outbound.frames.length := not_le.mpr hroom
  have hframes : (core.attached sessionId payload now).outbound.frames =
      core.outbound.frames ++ [⟨openFrame sessionId payload.form, now⟩] := by
    show (core.outbound.tryPush (openFrame sessionId payload.form) now).2.frames = _
    rw [AsyncTunnelFrameQueue.tryPush, if_neg hroom']
  exact fun _ => ⟨lookup_attached core sessionId payload now,
    ⟨payload.form, appends_openPayload.ok [] hpayload, hframes⟩,
    ⟨_, getElem?_arena_attached core sessionId payload now, rfl⟩,
    fun _ now' hends => lookup_sessionReader_attached core sessionId payload now hends now'⟩

/-- **A failed attach leaves no trace exactly if it failed at the limit of sessions**; and exactly
then is a session that was created also served. -/
theorem attach_leaves_no_trace_iff :
    (((∃ error, (core.attachIngressStream sessionId payload now).1 = .error error) →
        core.SameSessions (core.attachIngressStream sessionId payload now).2) ↔
      core.AttachFits payload) ∧
    (core.NewSessionServed sessionId payload now
        (core.attachIngressStream sessionId payload now).2 ↔
      core.AttachFits payload) := by
  rcases attachIngressStream_outcomes core sessionId payload now with
    ⟨hlimit, error, hattach⟩ | ⟨hpayload, hroom, hattach⟩ | ⟨hfits, error, hattach⟩
  · have hfits : core.AttachFits payload := Or.inl hlimit
    rw [hattach]
    exact ⟨iff_of_true (fun _ => ⟨rfl, rfl, rfl⟩) hfits,
      iff_of_true (fun hnew => absurd hnew (lt_irrefl _)) hfits⟩
  · have hfits : core.AttachFits payload := by
      obtain ⟨hhost, haddr⟩ := (openPayload_fits_iff payload).mp hpayload
      exact Or.inr ⟨hhost, haddr, hroom⟩
    rw [hattach]
    refine ⟨iff_of_true ?_ hfits,
      iff_of_true (newSessionServed_attached sessionId now hpayload hroom) hfits⟩
    rintro ⟨error, herror⟩
    cases herror
  · rw [hattach]
    refine ⟨iff_of_false (fun h => ?_) hfits, iff_of_false (fun h => ?_) hfits⟩
    · have hactive := (h ⟨error, rfl⟩).2.1
      exact absurd hactive (Nat.succ_ne_self core.stats.activeSessions)
    · have hgrown : core.arena.length <
          ((core.registered sessionId payload).dropReceiver core.arena.length).arena.length := by
        simp [registered, dropReceiver, modifySession, insertSession, updateStats]
      -- nothing was queued
      obtain ⟨-, ⟨bytes, -, hframes⟩, -⟩ := h hgrown
      exact absurd (congrArg List.length hframes) (by simp [registered, dropReceiver,
        modifySession, insertSession, updateStats])

/-- A core with room for one frame, which the SessionOpen of its first connection takes. -/
def crowdedCore : AsyncTunnelCore :=
  (AsyncTunnelCore.new { TunnelRuntimeLimits.default with maxOutboundFrames := 1 }).acceptIngress
    ⟨7, "0.0.0.0", 80, "10.0.0.1:4000"⟩ 0

def crowdedPayload : TunnelSessionOpenPayload := ⟨7, "0.0.0.0", 80, "10.0.0.2:4000"⟩

/-- The core after the attach of a second connection. -/
def leakyCore : AsyncTunnelCore := (crowdedCore.attachIngressStream 2 crowdedPayload 0).2

/-- **A full queue leaves a session behind.** The second connection is refused, but it stays in the
map and is counted, without a frame that announces it and without a reader. -/
theorem attach_to_full_queue_leaks :
    (crowdedCore.attachIngressStream 2 crowdedPayload 0).1 = .error .backpressureLimit ∧
      crowdedCore.sessions.lookup 2 = none ∧ leakyCore.sessions.lookup 2 = some 1 ∧
      crowdedCore.stats.activeSessions = 1 ∧ leakyCore.stats.activeSessions = 2 ∧
      crowdedCore.stats.ruleSessionCounts 7 = 1 ∧ leakyCore.stats.ruleSessionCounts 7 = 2 ∧
      leakyCore.outbound.frames.map (·.frame.sessionId) = [1] ∧
      leakyCore.arena.map (·.readerStatus) = [.running, .notSpawned] := by
  decide

end Attach

end AsyncTunnelCore

end KeliAgent
