import KeliAgent.Report.Loop

/-!
# Sockets, tokens and retries of the report loop

* **`reports_fresh`**: in every run in which no failed upload rotates the token, reports and pings
  travel on a socket whose URL was built from the current token.
* **`report_discipline`**: only sockets that were connected are used, and none that failed is used
  again; a cycle sends at most one report, and none before the first upload succeeded; the loop
  gives up exactly when one cycle more than `max_retries` failed to connect in a row.

All of this is read off the answers of the world: whether an upload succeeded, or a cycle failed to
connect, is defined on the trace.
-/

namespace KeliAgent

open Effect

/-! ## What a trace says -/

namespace ReportEvent

def cycle : ReportEvent → ℕ
  | .upload cycle _ _ => cycle
  | .recover cycle _ _ _ _ => cycle
  | .connect cycle _ _ => cycle
  | .unbuilt cycle _ => cycle
  | .operate cycle _ _ _ _ => cycle

/-- The socket that is operated on. -/
def operated : ReportEvent → Option ReportSocket
  | .operate _ socket _ _ _ => some socket
  | _ => none

/-- The event is an operation on the socket with that number. -/
def isOn (id : ℕ) : ReportEvent → Bool
  | .operate _ socket _ _ _ => socket.id == id
  | _ => false

/-- The event is an operation on the socket with that number, and it failed. -/
def breaks (id : ℕ) : ReportEvent → Bool
  | .operate _ socket _ _ ok => socket.id == id && !ok
  | _ => false

def isReportIn (cycle : ℕ) : ReportEvent → Bool
  | .operate cycle' _ .sendReport _ _ => cycle' == cycle
  | _ => false

def isReport : ReportEvent → Bool
  | .operate _ _ .sendReport _ _ => true
  | _ => false

/-- The server accepted an upload of the cycle. -/
def uploadsIn (cycle : ℕ) : ReportEvent → Bool
  | .upload cycle' _ ok => cycle' == cycle && ok
  | _ => false

def connectsIn (cycle : ℕ) : ReportEvent → Bool
  | .connect cycle' _ ok => cycle' == cycle && ok
  | _ => false

/-- A connect of the cycle failed, or there was no URL to connect to. -/
def failsIn (cycle : ℕ) : ReportEvent → Bool
  | .connect cycle' _ ok => cycle' == cycle && !ok
  | .unbuilt cycle' _ => cycle' == cycle
  | _ => false

/-- The cycle in which a recovery left another token while a socket was held. -/
def rotation : ReportEvent → Option ℕ
  | .recover cycle true before _ after => if before = after then none else some cycle
  | _ => none

/-- A report or a ping is sent on a socket whose URL was built from the current token. -/
def IsFresh (host : UrlHost) (endpoint : String) : ReportEvent → Prop
  | .operate _ socket operation token _ =>
    operation = .sendReport ∨ operation = .sendPing →
      socket.token = token ∧ host.buildReportWsUrl endpoint token = .ok socket.url
  | _ => True

end ReportEvent

namespace ReportLoop

abbrev Trace := List ReportEvent

def failedToConnect (t : Trace) (cycle : ℕ) : Bool :=
  t.any (·.failsIn cycle) && !t.any (·.connectsIn cycle)

/-- The cycles right before a cycle that failed to connect one after the other. -/
def failedInARow (t : Trace) : ℕ → ℕ
  | 0 => 0
  | cycle + 1 => if failedToConnect t cycle then failedInARow t cycle + 1 else 0

/-- Whenever the token is rotated while a socket is held, an upload of that cycle succeeds. -/
def Steady (t : Trace) : Prop :=
  ∀ event ∈ t, ∀ cycle ∈ event.rotation, ∃ e ∈ t, e.uploadsIn cycle = true

/-- The upload of the first cycle succeeded. -/
def Uploaded (t : Trace) : Prop := ∃ event ∈ t, event.uploadsIn 0 = true

/-- The failure of the very first upload, in a run of that many cycles. -/
def FirstUploadFailed (cycles : ℕ) (t : Trace) : Prop := 0 < cycles ∧ ¬Uploaded t

/-- A socket that failed is not used again, and one that was not connected is not used at all; a
cycle sends one report at most, and no report is sent before the first upload succeeded. Where the
trace says that a token has no URL, it has none. -/
structure Disciplined (host : UrlHost) (endpoint : String) (t : Trace) : Prop where
  spared : t.Pairwise fun event later => ∀ id, event.breaks id = true → later.isOn id = false
  connected : Throughout (fun before event =>
    ∀ socket ∈ event.operated, ∃ cycle, .connect cycle socket true ∈ before) t
  once : ∀ cycle, t.countP (·.isReportIn cycle) ≤ 1
  uploads : Throughout (fun before event => event.isReport = true → Uploaded before) t
  unbuilt : ∀ cycle token, .unbuilt cycle token ∈ t →
    ∃ error, host.buildReportWsUrl endpoint token = .error error

/-! ## Invariants -/

/-- What holds of the trace while sockets with numbers below `opened` were used, and reports were
sent in cycles before `next`. -/
structure Base (host : UrlHost) (endpoint : String) (opened next : ℕ) (t : Trace) : Prop
    extends Disciplined host endpoint t where
  below : ∀ event ∈ t, ∀ id, opened ≤ id → event.isOn id = false
  unsent : ∀ cycle, next ≤ cycle → t.countP (·.isReportIn cycle) = 0
  fresh : Steady t → ∀ event ∈ t, event.IsFresh host endpoint

/-- The socket may be used. -/
structure Live (host : UrlHost) (endpoint : String) (opened : ℕ) (token : String)
    (socket : ReportSocket) (t : Trace) : Prop where
  below : socket.id < opened
  unbroken : ∀ event ∈ t, event.breaks socket.id = false
  built : host.buildReportWsUrl endpoint socket.token = .ok socket.url
  connected : ∃ cycle, .connect cycle socket true ∈ t
  current : Steady t → socket.token = token

/-- The failures counted by the loop when `cycle` is the next cycle that may connect, unless the
counter could overflow. -/
structure Counted (maxRetries failures : UInt32) (cycle : ℕ) (t : Trace) : Prop where
  count : failedInARow t cycle = failures.toNat
  bounded : ∀ n, failedInARow t n ≤ maxRetries.toNat
  untried : ∀ event ∈ t, ∀ n, cycle ≤ n → event.failsIn n = false ∧ event.connectsIn n = false

/-- All events are of earlier cycles. -/
def Past (cycle : ℕ) (t : Trace) : Prop := ∀ event ∈ t, event.cycle < cycle

/-- The retry counter of the source cannot overflow. -/
def Retrying (config : ReportConfig) : Prop := config.maxRetries.toNat < 2 ^ 32 - 1

variable {host : UrlHost} {endpoint token : String} {opened next cycle : ℕ} {socket : ReportSocket}
  {t us : Trace} {event : ReportEvent} {config : ReportConfig} {maxRetries failures : UInt32}

/-! ### Events -/

theorem cycle_of_uploadsIn (h : event.uploadsIn cycle = true) : event.cycle = cycle := by
  cases event with
  | upload cycle' url ok => exact beq_iff_eq.mp (Bool.and_eq_true_iff.mp h).1
  | recover _ _ _ _ _ | connect _ _ _ | unbuilt _ _ | operate _ _ _ _ _ => cases h

theorem cycle_of_rotation (h : cycle ∈ event.rotation) : event.cycle = cycle := by
  cases event with
  | recover cycle' held before recovered after =>
    cases held with
    | false => cases h
    | true =>
      change cycle ∈ (if before = after then none else some cycle') at h
      split_ifs at h
      · cases h
      · exact Option.some.inj h
  | upload _ _ _ | connect _ _ _ | unbuilt _ _ | operate _ _ _ _ _ => cases h

theorem isOn_of_breaks {id : ℕ} (h : event.breaks id = true) : event.isOn id = true := by
  cases event with
  | operate _ _ _ _ _ => exact (Bool.and_eq_true_iff.mp h).1
  | upload _ _ _ | recover _ _ _ _ _ | connect _ _ _ | unbuilt _ _ => cases h

/-- An event that is not an operation on a socket. -/
theorem quiet_of_operated_eq_none (h : event.operated = none) :
    (∀ id, event.isOn id = false) ∧ (∀ cycle, event.isReportIn cycle = false) ∧
      event.isReport = false ∧ event.IsFresh host endpoint := by
  cases event with
  | operate _ _ _ _ _ => cases h
  | upload _ _ _ | recover _ _ _ _ _ | connect _ _ _ | unbuilt _ _ =>
    exact ⟨fun _ => rfl, fun _ => rfl, rfl, trivial⟩

/-! ### Longer traces -/

/-- No event of `us` is an upload that a rotation of `t` could still wait for. -/
theorem Steady.of_append (h : Steady (t ++ us))
    (hus : ∀ e ∈ us, ∀ event ∈ t, ∀ cycle ∈ event.rotation, e.uploadsIn cycle = false) :
    Steady t := by
  intro event hmem cycle hcycle
  obtain ⟨e, he, hupload⟩ := h event (List.mem_append_left _ hmem) cycle hcycle
  rcases List.mem_append.mp he with he | he
  · exact ⟨e, he, hupload⟩
  · rw [hus e he event hmem cycle hcycle] at hupload
    cases hupload

theorem Uploaded.append (h : Uploaded t) (us : Trace) : Uploaded (t ++ us) := by
  obtain ⟨e, hmem, hupload⟩ := h
  exact ⟨e, List.mem_append_left _ hmem, hupload⟩

theorem Past.append (h : Past cycle t) (hus : Past cycle us) : Past cycle (t ++ us) :=
  List.forall_mem_append.mpr ⟨h, hus⟩

theorem Past.mono (h : Past cycle t) {cycle' : ℕ} (hle : cycle ≤ cycle') : Past cycle' t :=
  fun event hmem => (h event hmem).trans_le hle

/-- Events that are not operations on a socket. -/
theorem Base.quiet (h : Base host endpoint opened next t) (hus : ∀ e ∈ us, e.operated = none)
    (hunbuilt : ∀ cycle token, .unbuilt cycle token ∈ us →
      ∃ error, host.buildReportWsUrl endpoint token = .error error)
    (hsteady : Steady (t ++ us) → Steady t) : Base host endpoint opened next (t ++ us) := by
  have hquiet : ∀ e ∈ us, (∀ id, e.isOn id = false) ∧ (∀ cycle, e.isReportIn cycle = false) ∧
      e.isReport = false ∧ e.IsFresh host endpoint :=
    fun e he => quiet_of_operated_eq_none (hus e he)
  have hsent : ∀ cycle, (t ++ us).countP (·.isReportIn cycle) = t.countP (·.isReportIn cycle) := by
    intro cycle
    rw [List.countP_append, Nat.add_eq_left, List.countP_eq_zero]
    intro e he
    rw [(hquiet e he).2.1 cycle]
    exact Bool.false_ne_true
  refine ⟨⟨?_, ?_, ?_, ?_, ?_⟩, ?_, ?_, ?_⟩
  · refine List.pairwise_append.mpr ⟨h.spared, ?_, fun _ _ e he id _ => (hquiet e he).1 id⟩
    exact List.pairwise_of_forall_mem_list fun _ _ e he id _ => (hquiet e he).1 id
  · refine h.connected.append ?_
    rintro before e after rfl socket hsocket
    rw [hus e (by simp)] at hsocket
    cases hsocket
  · exact fun cycle => (hsent cycle).trans_le (h.once cycle)
  · refine h.uploads.append ?_
    rintro before e after rfl hreport
    rw [(hquiet e (by simp)).2.2.1] at hreport
    cases hreport
  · intro cycle token hmem
    rcases List.mem_append.mp hmem with hmem | hmem
    · exact h.unbuilt cycle token hmem
    · exact hunbuilt cycle token hmem
  · exact List.forall_mem_append.mpr ⟨h.below, fun e he id _ => (hquiet e he).1 id⟩
  · exact fun cycle hcycle => (hsent cycle).trans (h.unsent cycle hcycle)
  · exact fun hs => List.forall_mem_append.mpr
      ⟨h.fresh (hsteady hs), fun e he => (hquiet e he).2.2.2⟩

/-- An operation on a socket that may be used. -/
theorem Base.operate (h : Base host endpoint opened next t)
    (hlive : Live host endpoint opened token socket t) (operation : SocketOperation) (ok : Bool)
    {next' : ℕ} (hreport : operation = .sendReport → next ≤ cycle ∧ cycle < next' ∧ Uploaded t)
    (hnext : next ≤ next') :
    Base host endpoint opened next'
      (t ++ [ReportEvent.operate cycle socket operation token ok]) := by
  have hsent : ∀ cycle',
      (ReportEvent.operate cycle socket operation token ok).isReportIn cycle' = true →
        operation = .sendReport ∧ cycle = cycle' := by
    intro cycle' h
    cases operation <;> simp_all [ReportEvent.isReportIn]
  have hsteady :
      Steady (t ++ [ReportEvent.operate cycle socket operation token ok]) → Steady t := by
    refine fun hs => hs.of_append fun e he _ _ _ _ => ?_
    rw [List.mem_singleton.mp he]
    rfl
  refine ⟨⟨?_, ?_, ?_, ?_, ?_⟩, ?_, ?_, ?_⟩
  · refine List.pairwise_append.mpr ⟨h.spared, List.pairwise_singleton _ _, ?_⟩
    intro e hmem later hlater id hbreaks
    rw [List.mem_singleton.mp hlater, ReportEvent.isOn, beq_eq_false_iff_ne]
    rintro rfl
    rw [hlive.unbroken e hmem] at hbreaks
    cases hbreaks
  · refine h.connected.concat fun s hs => ?_
    cases hs
    exact hlive.connected
  · intro cycle'
    rw [List.countP_append, List.countP_singleton]
    split_ifs with hnow
    · obtain ⟨hoperation, rfl⟩ := hsent cycle' hnow
      rw [h.unsent cycle (hreport hoperation).1]
    · exact h.once cycle'
  · refine h.uploads.concat fun hnow => ?_
    cases operation <;> first | exact (hreport rfl).2.2 | cases hnow
  · intro cycle' token' hmem
    rcases List.mem_append.mp hmem with hmem | hmem
    · exact h.unbuilt cycle' token' hmem
    · cases List.mem_singleton.mp hmem
  · refine List.forall_mem_append.mpr ⟨h.below, List.forall_mem_singleton.mpr fun id hid => ?_⟩
    rw [ReportEvent.isOn, beq_eq_false_iff_ne]
    have hlt := hlive.below
    omega
  · intro cycle' hcycle
    rw [List.countP_append, List.countP_singleton, h.unsent cycle' (hnext.trans hcycle)]
    split_ifs with hnow
    · obtain ⟨hoperation, rfl⟩ := hsent cycle' hnow
      exact absurd (hreport hoperation).2.1 (not_lt.mpr hcycle)
    · rfl
  · refine fun hs => List.forall_mem_append.mpr
      ⟨h.fresh (hsteady hs), List.forall_mem_singleton.mpr fun _ => ?_⟩
    have hcurrent := hlive.current (hsteady hs)
    exact ⟨hcurrent, hcurrent ▸ hlive.built⟩

theorem Base.mono (h : Base host endpoint opened next t) {opened' next' : ℕ}
    (hopened : opened ≤ opened') (hnext : next ≤ next') : Base host endpoint opened' next' t where
  toDisciplined := h.toDisciplined
  below := fun event hmem id hid => h.below event hmem id (hopened.trans hid)
  unsent := fun cycle hcycle => h.unsent cycle (hnext.trans hcycle)
  fresh := h.fresh

/-- The socket stays usable if no event breaks it and the token stays as it is. -/
theorem Live.append (h : Live host endpoint opened token socket t) {token' : String}
    (hunbroken : ∀ e ∈ us, e.breaks socket.id = false)
    (htoken : Steady (t ++ us) → Steady t ∧ token' = token) :
    Live host endpoint opened token' socket (t ++ us) := by
  refine ⟨h.below, List.forall_mem_append.mpr ⟨h.unbroken, hunbroken⟩, h.built, ?_, ?_⟩
  · obtain ⟨cycle, hmem⟩ := h.connected
    exact ⟨cycle, List.mem_append_left _ hmem⟩
  · intro hs
    rw [h.current (htoken hs).1]
    exact (htoken hs).2.symm

theorem Live.operate (h : Live host endpoint opened token socket t) (operation : SocketOperation) :
    Live host endpoint opened token socket
      (t ++ [ReportEvent.operate cycle socket operation token true]) := by
  refine h.append ?_ fun hs => ⟨hs.of_append fun e he _ _ _ _ => ?_, rfl⟩
  · exact List.forall_mem_singleton.mpr (by simp [ReportEvent.breaks])
  · rw [List.mem_singleton.mp he]
    rfl

/-- A socket with a new number that was just connected, with a URL built from the token. -/
theorem Base.live (h : Base host endpoint opened next t) (hid : socket.id = opened)
    (htoken : socket.token = token)
    (hbuilt : host.buildReportWsUrl endpoint socket.token = .ok socket.url)
    (hmem : .connect cycle socket true ∈ t) : Live host endpoint (opened + 1) token socket t := by
  refine ⟨by omega, ?_, hbuilt, ⟨cycle, hmem⟩, fun _ => htoken⟩
  intro event hmem
  by_contra hbreaks
  rw [Bool.not_eq_false] at hbreaks
  exact absurd (isOn_of_breaks hbreaks) (by rw [h.below event hmem socket.id hid.ge]; simp)

/-! ### Failures in a row -/

theorem failedToConnect_append
    (hus : ∀ e ∈ us, e.failsIn cycle = false ∧ e.connectsIn cycle = false) :
    failedToConnect (t ++ us) cycle = failedToConnect t cycle := by
  have hfails : us.any (·.failsIn cycle) = false :=
    List.any_eq_false.mpr fun e he => Bool.eq_false_iff.mp (hus e he).1
  have hconnects : us.any (·.connectsIn cycle) = false :=
    List.any_eq_false.mpr fun e he => Bool.eq_false_iff.mp (hus e he).2
  rw [failedToConnect, List.any_append, List.any_append, hfails, hconnects, Bool.or_false,
    Bool.or_false, failedToConnect]

theorem failedToConnect_eq_false (ht : ∀ e ∈ t, e.failsIn cycle = false) :
    failedToConnect t cycle = false := by
  rw [failedToConnect, List.any_eq_false.mpr fun e he => Bool.eq_false_iff.mp (ht e he),
    Bool.false_and]

theorem failedInARow_append {n : ℕ} (hus : ∀ e ∈ us, ∀ cycle < n,
      e.failsIn cycle = false ∧ e.connectsIn cycle = false) :
    failedInARow (t ++ us) n = failedInARow t n := by
  induction n with
  | zero => rfl
  | succ n ih =>
    rw [failedInARow, failedInARow, failedToConnect_append fun e he => hus e he n n.lt_succ_self,
      ih fun e he cycle hcycle => hus e he cycle (hcycle.trans n.lt_succ_self)]

/-- Events of a cycle that is the first to try after `t`. -/
theorem Counted.failedInARow_le_of_ne (h : Counted maxRetries failures cycle t)
    (hus : ∀ e ∈ us, ∀ n, n ≠ cycle → e.failsIn n = false ∧ e.connectsIn n = false) {n : ℕ}
    (hn : n ≠ cycle + 1) : failedInARow (t ++ us) n ≤ maxRetries.toNat := by
  rcases Nat.lt_or_ge cycle n with hlt | hle
  · -- A cycle after this one has not tried.
    obtain ⟨n, rfl⟩ : ∃ m, n = m + 1 := ⟨n - 1, by omega⟩
    have hfailed : failedToConnect (t ++ us) n = false := by
      refine failedToConnect_eq_false (List.forall_mem_append.mpr ⟨?_, ?_⟩)
      · exact fun e he => (h.untried e he n (by omega)).1
      · exact fun e he => (hus e he n (by omega)).1
    rw [failedInARow, hfailed]
    exact Nat.zero_le _
  · rw [failedInARow_append fun e he c hc => hus e he c (by omega)]
    exact h.bounded n

/-- An attempt of the next cycle that may connect. -/
theorem Counted.append (h : Counted maxRetries failures cycle t) {failures' : UInt32}
    (hus : ∀ e ∈ us, ∀ n, n ≠ cycle → e.failsIn n = false ∧ e.connectsIn n = false)
    (hcount : failedInARow (t ++ us) (cycle + 1) = failures'.toNat)
    (hbound : failures'.toNat ≤ maxRetries.toNat) :
    Counted maxRetries failures' (cycle + 1) (t ++ us) where
  count := hcount
  bounded := by
    intro n
    by_cases hn : n = cycle + 1
    · rw [hn, hcount]
      exact hbound
    · exact h.failedInARow_le_of_ne hus hn
  untried := by
    refine List.forall_mem_append.mpr ⟨fun e he n hn => ?_, fun e he n hn => ?_⟩
    · exact h.untried e he n (by omega)
    · exact hus e he n (by omega)

/-- Events that are no attempts to connect. -/
theorem Counted.other (h : Counted maxRetries failures cycle t)
    (hus : ∀ e ∈ us, ∀ n, e.failsIn n = false ∧ e.connectsIn n = false) :
    Counted maxRetries failures cycle (t ++ us) where
  count := (failedInARow_append fun e he n _ => hus e he n).trans h.count
  bounded := fun n => (failedInARow_append fun e he n _ => hus e he n).trans_le (h.bounded n)
  untried := List.forall_mem_append.mpr ⟨h.untried, fun e he n _ => hus e he n⟩

theorem Counted.connected (h : Counted maxRetries failures cycle t)
    (hus : ∀ e ∈ us, ∀ n, n ≠ cycle → e.failsIn n = false ∧ e.connectsIn n = false)
    (hconnects : ∃ e ∈ us, e.connectsIn cycle = true) :
    Counted maxRetries 0 (cycle + 1) (t ++ us) := by
  refine h.append hus ?_ (Nat.zero_le _)
  obtain ⟨e, he, hconnect⟩ := hconnects
  have hany : (t ++ us).any (·.connectsIn cycle) = true :=
    List.any_eq_true.mpr ⟨e, List.mem_append_right _ he, hconnect⟩
  rw [failedInARow, failedToConnect, hany, Bool.not_true, Bool.and_false]
  rfl

/-- A cycle that fails to connect is one failure more in a row. -/
theorem Counted.count_failed (h : Counted maxRetries failures cycle t)
    (hus : ∀ e ∈ us, ∀ n, n ≠ cycle → e.failsIn n = false ∧ e.connectsIn n = false)
    (hfails : ∃ e ∈ us, e.failsIn cycle = true) (hconnects : ∀ e ∈ us, e.connectsIn cycle = false) :
    failedInARow (t ++ us) (cycle + 1) = failures.toNat + 1 := by
  obtain ⟨e, he, hfail⟩ := hfails
  have hany : (t ++ us).any (·.failsIn cycle) = true :=
    List.any_eq_true.mpr ⟨e, List.mem_append_right _ he, hfail⟩
  have hnone : (t ++ us).any (·.connectsIn cycle) = false := by
    refine List.any_eq_false.mpr (List.forall_mem_append.mpr ⟨fun e he => ?_, fun e he => ?_⟩)
    · exact Bool.eq_false_iff.mp (h.untried e he cycle le_rfl).2
    · exact Bool.eq_false_iff.mp (hconnects e he)
  rw [failedInARow, failedToConnect, hany, hnone, Bool.not_false, Bool.and_true, if_pos rfl,
    failedInARow_append fun e he n hn => hus e he n hn.ne, h.count]

/-- The counter does not overflow. -/
theorem Counted.toNat_succ (h : Counted config.maxRetries failures cycle t)
    (hretrying : Retrying config) : (failures + 1).toNat = failures.toNat + 1 := by
  have hle := h.bounded cycle
  rw [h.count] at hle
  unfold Retrying at hretrying
  rw [UInt32.toNat_add]
  exact Nat.mod_eq_of_lt (by rw [UInt32.toNat_one]; omega)

/-- A cycle that did not try, because there is a socket. -/
theorem Counted.succ (h : Counted maxRetries 0 cycle t) : Counted maxRetries 0 (cycle + 1) t where
  count := by
    rw [failedInARow, failedToConnect_eq_false fun e he => (h.untried e he cycle le_rfl).1]
    rfl
  bounded := h.bounded
  untried := fun e he n hn => h.untried e he n (by omega)

/-! ## What the loop ensures -/

/-- How the trace looks when the loop ends early, and when it is observed unfinished. -/
structure Stopped (host : UrlHost) (config : ReportConfig) (reason : ReportEnd) (t : Trace) :
    Prop extends Disciplined host config.endpoint t where
  fresh : Steady t → ∀ event ∈ t, event.IsFresh host config.endpoint
  ends : Retrying config →
    ((∃ error, reason = .failed error) ↔
      ¬Uploaded t ∨ ∃ cycle, failedInARow t cycle = config.maxRetries.toNat + 1)
  last : Retrying config →
    ∀ cycle, failedInARow t cycle = config.maxRetries.toNat + 1 → Past cycle t

/-- A socket is in use, or was in this cycle. -/
structure Using (host : UrlHost) (config : ReportConfig) (opened next cycle : ℕ) (t : Trace) :
    Prop extends Base host config.endpoint opened next t where
  counted : Retrying config → Counted config.maxRetries 0 (cycle + 1) t
  uploaded : Uploaded t
  past : Past (cycle + 1) t

/-- The same, and the socket may still be used if it is not `gone`. -/
def Kept (host : UrlHost) (config : ReportConfig) (opened next cycle : ℕ) (token : String)
    (socket : ReportSocket) (gone : Bool) (t : Trace) : Prop :=
  Using host config opened next cycle t ∧
    (gone = false → Live host config.endpoint opened token socket t)

theorem Counted.failedInARow_ne (h : Counted maxRetries failures cycle t) (n : ℕ) :
    failedInARow t n ≠ maxRetries.toNat + 1 := by
  have hle := h.bounded n
  omega

theorem Base.unfinished (h : Base host config.endpoint opened next t)
    (hcounted : Retrying config → Counted config.maxRetries failures cycle t)
    (huploaded : Uploaded t) : Stopped host config .unfinished t where
  toDisciplined := h.toDisciplined
  fresh := h.fresh
  ends := by
    intro hretrying
    constructor
    · rintro ⟨error, herror⟩
      cases herror
    · rintro (hfirst | ⟨n, hcount⟩)
      · exact absurd huploaded hfirst
      · exact absurd hcount ((hcounted hretrying).failedInARow_ne n)
  last := fun hretrying n hcount => absurd hcount ((hcounted hretrying).failedInARow_ne n)

theorem Using.operate (h : Using host config opened next cycle t)
    (hlive : Live host config.endpoint opened token socket t) (operation : SocketOperation)
    (ok : Bool) {next' : ℕ}
    (hreport : operation = .sendReport → next ≤ cycle ∧ cycle < next') (hnext : next ≤ next') :
    Using host config opened next' cycle
      (t ++ [ReportEvent.operate cycle socket operation token ok]) where
  toBase := h.toBase.operate hlive operation ok
    (fun hoperation => ⟨(hreport hoperation).1, (hreport hoperation).2, h.uploaded⟩) hnext
  counted := fun hretrying => (h.counted hretrying).other
    (List.forall_mem_singleton.mpr fun _ => ⟨rfl, rfl⟩)
  uploaded := h.uploaded.append _
  past := h.past.append (List.forall_mem_singleton.mpr cycle.lt_succ_self)

/-- Without a report, the next one is still that of a later cycle. -/
theorem Using.next_cycle (h : Using host config opened next cycle t) :
    Using host config opened (next + 1) cycle t :=
  ⟨h.toBase.mono le_rfl next.le_succ, h.counted, h.uploaded, h.past⟩

section Programs

variable {W ι ρ π α : Type} {world : ReportWorld W ι ρ π}

open Program

theorem ensures_operate {f : W → Except TransportError α × W} {operation : SocketOperation}
    {next' : ℕ} (h : Using host config opened next cycle t)
    (hlive : Live host config.endpoint opened token socket t)
    (hreport : operation = .sendReport → next ≤ cycle ∧ cycle < next') (hnext : next ≤ next') :
    Ensures (operate cycle token socket operation f)
      (fun result => Kept host config opened next' cycle token socket !result.toBool)
      (Stopped host config) t := by
  refine Ensures.perform fun result => ⟨h.operate hlive operation _ hreport hnext, ?_⟩
  intro hok
  rw [Bool.not_eq_false'] at hok
  rw [hok]
  exact hlive.operate operation

/-- Reading, pings and ping results. -/
theorem ensures_operate_other {f : W → Except TransportError α × W} {operation : SocketOperation}
    (h : Kept host config opened next cycle token socket false t)
    (hreport : operation ≠ .sendReport) :
    Ensures (operate cycle token socket operation f)
      (fun result => Kept host config opened next cycle token socket !result.toBool)
      (Stopped host config) t :=
  ensures_operate h.1 (h.2 rfl) (fun hoperation => absurd hoperation hreport) le_rfl

/-- A message is only ever in the way of the loop by an error of the transport. -/
theorem ensures_processBackendMessage (bytes : List UInt8)
    (h : Kept host config opened next cycle token socket false t) :
    Ensures (processBackendMessage world cycle token socket bytes)
      (fun result t => (∀ error, result = .error error → ∃ e, error = .transport e) ∧
        Kept host config opened next cycle token socket (!result.toBool) t)
      (Stopped host config) t := by
  unfold processBackendMessage
  split
  · refine Ensures.bind (Ensures.ask fun result => ?_)
    refine (ensures_operate_other h (by decide)).seq ?_
    rintro (error | _) t hkept
    · exact Ensures.pure ⟨fun _ herror => ⟨error, by cases herror; rfl⟩, hkept⟩
    · exact Ensures.pure ⟨nofun, hkept⟩
  · refine Ensures.bind (Ensures.ask fun _ => ?_)
    exact Ensures.pure ⟨nofun, h⟩

theorem ensures_drainRound
    (h : Kept host config opened next cycle token socket false t) :
    Ensures (drainRound world cycle token socket ())
      (Sum.elim (fun _ => Kept host config opened next cycle token socket false)
        (Kept host config opened next cycle token socket))
      (Stopped host config) t := by
  refine (ensures_operate_other h (by decide)).seq ?_
  rintro (error | _ | bytes) t hkept
  · exact Ensures.pure hkept
  · exact Ensures.pure hkept
  · refine (ensures_processBackendMessage bytes hkept).seq ?_
    rintro (error | _) t ⟨htransport, hkept⟩
    · obtain ⟨e, rfl⟩ := htransport error rfl
      exact Ensures.pure hkept
    · exact Ensures.pure hkept

theorem ensures_drainBackendMessagesForCycle (fuel : ℕ)
    (h : Kept host config opened next cycle token socket false t) :
    Ensures (drainBackendMessagesForCycle world cycle token socket fuel)
      (Kept host config opened next cycle token socket) (Stopped host config) t := by
  refine Ensures.iterate (I := fun _ => Kept host config opened next cycle token socket false)
    ?_ ?_ fuel h
  · exact fun _ t h => h.1.toBase.unfinished h.1.counted h.1.uploaded
  · exact fun _ t h => ensures_drainRound h

theorem ensures_heartbeat {disconnect : Bool}
    (h : Kept host config opened next cycle token socket disconnect t) :
    Ensures (heartbeat world config cycle token socket disconnect)
      (Kept host config opened next cycle token socket) (Stopped host config) t := by
  unfold heartbeat
  split_ifs with hdue
  · rw [hdue.1] at h
    refine (ensures_operate_other h (by decide)).seq ?_
    exact fun _ t hkept => Ensures.pure hkept
  · exact Ensures.pure h

theorem ensures_exchange (fuel : ℕ)
    (h : Kept host config opened cycle cycle token socket false t) :
    Ensures (exchange world config cycle token socket fuel)
      (Kept host config opened (cycle + 1) cycle token socket) (Stopped host config) t := by
  refine (ensures_drainBackendMessagesForCycle fuel h).seq ?_
  rintro (_ | _) t hkept
  · refine Ensures.bind (Ensures.ask fun report => ?_)
    refine (ensures_operate hkept.1 (hkept.2 rfl) (fun _ => ⟨le_rfl, cycle.lt_succ_self⟩)
      cycle.le_succ).seq ?_
    intro sent t hkept
    refine Ensures.seq ?_ fun _ t hkept => ensures_heartbeat hkept
    cases sent with
    | error error => exact Ensures.pure hkept
    | ok _ => exact ensures_drainBackendMessagesForCycle fuel hkept
  · exact Ensures.pure ⟨hkept.1.next_cycle, nofun⟩

/-- The sockets that may be used: the one of the state, if it has any. -/
def AllLive (host : UrlHost) (config : ReportConfig) (opened : ℕ) (token : String)
    (socket : Option ReportSocket) (t : Trace) : Prop :=
  ∀ s ∈ socket, Live host config.endpoint opened token s t

theorem ensures_sleep (fuel polls : ℕ) {socket : Option ReportSocket}
    (h : Using host config opened next cycle t)
    (hlive : AllLive host config opened token socket t) :
    Ensures (sleepReportIntervalWithControlMessages world cycle token fuel polls socket)
      (fun socket t => Using host config opened next cycle t ∧
        AllLive host config opened token socket t) (Stopped host config) t := by
  induction polls generalizing socket t with
  | zero => exact Ensures.pure ⟨h, hlive⟩
  | succ polls ih =>
    cases socket with
    | none => exact Ensures.bind (Ensures.ask fun _ => ih h hlive)
    | some socket =>
      refine Ensures.bind (Ensures.ask fun _ => ?_)
      refine (ensures_drainBackendMessagesForCycle fuel ⟨h, fun _ => hlive socket rfl⟩).seq ?_
      rintro (_ | _) t hkept
      · refine ih hkept.1 ?_
        rintro s hs
        cases hs
        exact hkept.2 rfl
      · exact Ensures.pure ⟨hkept.1, nofun⟩

/-! ### Uploads and connects -/

/-- The outcome of an attempt after a recovery. -/
def retried : Except RuntimeError (Except TransportError α) → Except RuntimeError (α × Bool)
  | .error error => .error error
  | .ok (.ok a) => .ok (a, true)
  | .ok (.error error) => .error (.transport error)

/-- What `withTokenRecovery` answers and the events that it leaves, if `A` says this of an attempt
with a token. -/
inductive Recovering
    (A : String → Except RuntimeError (Except TransportError α) → Trace → Prop) (cycle : ℕ)
    (held : Bool) (token : String) : Except RuntimeError (α × Bool) × String → Trace → Prop
  | unbuilt {error : RuntimeError} {us : Trace} :
    A token (.error error) us → Recovering A cycle held token (.error error, token) us
  | first {a : α} {us : Trace} :
    A token (.ok (.ok a)) us → Recovering A cycle held token (.ok (a, false), token) us
  | refused {error : TransportError} {after : String} {us : Trace} :
    A token (.ok (.error error)) us →
      Recovering A cycle held token (.error (.transport error), after)
        (us ++ [.recover cycle held token false after])
  | second {error : TransportError} {after : String} {us vs : Trace}
      {result : Except RuntimeError (Except TransportError α)} :
    A token (.ok (.error error)) us → A after result vs →
      Recovering A cycle held token (retried result, after)
        (us ++ [.recover cycle held token true after] ++ vs)

theorem ensures_withTokenRecovery {attempt : String →
      ReportProgram W (Except RuntimeError (Except TransportError α))} {held : Bool}
    {A : String → Except RuntimeError (Except TransportError α) → Trace → Prop}
    (hattempt : ∀ token, Ensures (attempt token) (A token) (fun _ _ => False) []) :
    Ensures (withTokenRecovery world cycle held attempt token) (Recovering A cycle held token)
      (fun _ _ => False) [] := by
  refine (hattempt token).seq ?_
  rintro (error | error | a) us hfirst
  · exact Ensures.pure (.unbuilt hfirst)
  · refine Ensures.bind (Ensures.perform ?_)
    rintro ⟨_ | _, after⟩
    · exact Ensures.pure (.refused hfirst)
    · refine ((hattempt after).total_after _).seq ?_
      rintro (error | error | a) _ ⟨vs, rfl, hsecond⟩ <;>
        exact Ensures.pure (.second hfirst hsecond)
  · exact Ensures.pure (.first hfirst)

/-- What holds of the events of attempts and of the recovery holds of all. -/
theorem Recovering.forall_mem
    {A : String → Except RuntimeError (Except TransportError α) → Trace → Prop} {held : Bool}
    {result : Except RuntimeError (α × Bool) × String} {P : ReportEvent → Prop}
    (h : Recovering A cycle held token result us)
    (hattempt : ∀ token result us, A token result us → ∀ e ∈ us, P e)
    (hrecover : ∀ before recovered after, P (.recover cycle held before recovered after)) :
    ∀ e ∈ us, P e := by
  cases h with
  | unbuilt h | first h => exact hattempt _ _ _ h
  | refused h =>
    exact List.forall_mem_append.mpr
      ⟨hattempt _ _ _ h, List.forall_mem_singleton.mpr (hrecover _ _ _)⟩
  | second h hsecond =>
    refine List.forall_mem_append.mpr ⟨List.forall_mem_append.mpr ⟨hattempt _ _ _ h, ?_⟩, ?_⟩
    · exact List.forall_mem_singleton.mpr (hrecover _ _ _)
    · exact hattempt _ _ _ hsecond

/-- The events of an upload: calls of the cycle, of which one succeeds if the upload does. -/
structure UploadTried (cycle : ℕ) (result : Except RuntimeError (Except TransportError Unit))
    (us : Trace) : Prop where
  own : ∀ e ∈ us, ∃ url ok, e = .upload cycle url ok
  success : (∃ e ∈ us, e.uploadsIn cycle = true) ↔ result = .ok (.ok ())

theorem ensures_uploadBasicInfo (url : String) (info : BasicInfo ι) :
    Ensures (uploadBasicInfo world cycle url info)
      (fun result t' => t' = t ++ [.upload cycle url result.toBool]) (fun _ _ => False) t :=
  Ensures.perform fun _ => rfl

theorem ensures_attemptUpload (info : BasicInfo ι) (token : String) :
    Ensures (attemptUpload world config cycle info token) (UploadTried cycle)
      (fun _ _ => False) [] := by
  unfold attemptUpload
  cases buildBasicInfoUrl config.endpoint token with
  | error error => exact Ensures.pure ⟨nofun, by simp⟩
  | ok url =>
    refine Ensures.bind ((ensures_uploadBasicInfo url info).seq ?_)
    rintro (error | _) _ rfl
    · change Ensures (if isInvalidClientToken error ∨ info.kernelVersion = "" then _ else _) _ _ _
      split_ifs
      · refine Ensures.pure (Ensures.pure ⟨List.forall_mem_singleton.mpr ⟨_, _, rfl⟩, ?_⟩)
        simp [ReportEvent.uploadsIn, Except.toBool]
      · refine (ensures_uploadBasicInfo url info.withoutKernelVersion).mono ?_ fun _ _ h => h
        rintro (error | _) _ rfl <;>
          refine Ensures.pure ⟨List.forall_mem_append.mpr ⟨List.forall_mem_singleton.mpr
            ⟨_, _, rfl⟩, List.forall_mem_singleton.mpr ⟨_, _, rfl⟩⟩, ?_⟩ <;>
          simp [ReportEvent.uploadsIn, Except.toBool]
    · refine Ensures.pure (Ensures.pure ⟨List.forall_mem_singleton.mpr ⟨_, _, rfl⟩, ?_⟩)
      simp [ReportEvent.uploadsIn, Except.toBool]

/-- The events of a periodic upload with its recovery. -/
structure Uploading (cycle : ℕ) (held : Bool) (token : String)
    (result : Except RuntimeError (Unit × Bool) × String) (us : Trace) : Prop where
  own : ∀ e ∈ us, (∃ url ok, e = .upload cycle url ok) ∨
    ∃ before recovered after, e = .recover cycle held before recovered after
  success : (∃ e ∈ us, e.uploadsIn cycle = true) ↔ result.1.toBool = true
  kept : result.1 = .ok ((), false) → result.2 = token
  rotated : held = true → result.2 ≠ token → ∃ e ∈ us, cycle ∈ e.rotation

theorem mem_rotation {held recovered : Bool} {after : String} (hheld : held = true)
    (hne : after ≠ token) :
    cycle ∈ (ReportEvent.recover cycle held token recovered after).rotation := by
  rw [hheld, ReportEvent.rotation, if_neg hne.symm]
  rfl

/-- After an attempt that failed and its recovery, only what follows can be a success. -/
theorem UploadTried.exists_append {error : TransportError} {held recovered : Bool} {after : String}
    (h : UploadTried cycle (.ok (.error error)) us) (vs : Trace) :
    (∃ e ∈ us ++ [ReportEvent.recover cycle held token recovered after] ++ vs,
        e.uploadsIn cycle = true) ↔ ∃ e ∈ vs, e.uploadsIn cycle = true := by
  refine ⟨?_, fun ⟨e, he, hupload⟩ => ⟨e, List.mem_append_right _ he, hupload⟩⟩
  rintro ⟨e, he, hupload⟩
  rcases List.mem_append.mp he with he | he
  · rcases List.mem_append.mp he with he | he
    · cases h.success.mp ⟨e, he, hupload⟩
    · rw [List.mem_singleton.mp he] at hupload
      cases hupload
  · exact ⟨e, he, hupload⟩

theorem toBool_retried (result : Except RuntimeError (Except TransportError Unit)) :
    (retried result).toBool = true ↔ result = .ok (.ok ()) := by
  rcases result with error | error | _ <;> simp [retried, Except.toBool]

theorem Recovering.uploading {held : Bool} {result : Except RuntimeError (Unit × Bool) × String}
    (h : Recovering (fun _ => UploadTried cycle) cycle held token result us) :
    Uploading cycle held token result us := by
  have hown : ∀ e ∈ us, (∃ url ok, e = .upload cycle url ok) ∨
      ∃ before recovered after, e = .recover cycle held before recovered after :=
    h.forall_mem (fun _ _ _ h e he => .inl (h.own e he)) fun _ _ _ => .inr ⟨_, _, _, rfl⟩
  cases h with
  | unbuilt h =>
    exact ⟨hown, h.success.trans (by simp [Except.toBool]), nofun, fun _ hne => absurd rfl hne⟩
  | first h =>
    exact ⟨hown, h.success.trans (by simp [Except.toBool]), fun _ => rfl,
      fun _ hne => absurd rfl hne⟩
  | refused h =>
    refine ⟨hown, ?_, nofun, fun hheld hne => ?_⟩
    · rw [← List.append_nil (_ ++ _), h.exists_append]
      exact ⟨nofun, nofun⟩
    · exact ⟨_, List.mem_append_right _ (List.mem_singleton.mpr rfl), mem_rotation hheld hne⟩
  | @second error after us vs result h hsecond =>
    refine ⟨hown, ?_, ?_, fun hheld hne => ⟨_, List.mem_append_left _
      (List.mem_append_right _ (List.mem_singleton.mpr rfl)), mem_rotation hheld hne⟩⟩
    · rw [h.exists_append, hsecond.success, toBool_retried]
    · rcases result with error | error | _ <;> exact nofun

theorem ensures_upload (held : Bool) (info : BasicInfo ι) {E : ReportEnd → Trace → Prop} :
    Ensures (uploadBasicInfoWithTokenRecovery world config cycle held info token)
      (fun result t' => ∃ us, t' = t ++ us ∧ Uploading cycle held token result us) E t := by
  refine ((ensures_withTokenRecovery (ensures_attemptUpload info)).mono ?_
    fun _ _ h => h).total_after t
  exact fun _ _ h => h.uploading

/-- An event of a connect: neither an upload nor a rotation while a socket is held. -/
def OfConnect (cycle : ℕ) (event : ReportEvent) : Prop :=
  event.operated = none ∧ event.cycle = cycle ∧ event.rotation = none ∧
    ∀ n, event.uploadsIn n = false

/-- The event of an attempt to connect. -/
structure ConnectTried (host : UrlHost) (endpoint : String) (cycle id : ℕ) (token : String)
    (result : Except RuntimeError (Except TransportError ReportSocket)) (us : Trace) : Prop where
  own : ∀ e ∈ us, OfConnect cycle e
  unbuilt : ∀ cycle token, .unbuilt cycle token ∈ us →
    ∃ error, host.buildReportWsUrl endpoint token = .error error
  success : ∀ socket, result = .ok (.ok socket) → socket.id = id ∧ socket.token = token ∧
    host.buildReportWsUrl endpoint socket.token = .ok socket.url ∧ .connect cycle socket true ∈ us
  failure : (∀ socket, result ≠ .ok (.ok socket)) →
    (∃ e ∈ us, e.failsIn cycle = true) ∧ ∀ e ∈ us, e.connectsIn cycle = false

theorem ensures_attemptConnect (id : ℕ) (token : String) :
    Ensures (attemptConnect world host config cycle id token)
      (ConnectTried host config.endpoint cycle id token) (fun _ _ => False) [] := by
  unfold attemptConnect
  cases hurl : host.buildReportWsUrl config.endpoint token with
  | error error =>
    refine Ensures.bind (Ensures.emit (Ensures.pure ⟨?_, ?_, nofun, fun _ => ⟨?_, ?_⟩⟩))
    · exact List.forall_mem_singleton.mpr ⟨rfl, rfl, rfl, fun _ => rfl⟩
    · intro cycle' token' hmem
      cases List.mem_singleton.mp hmem
      exact ⟨error, hurl⟩
    · exact ⟨_, List.mem_singleton.mpr rfl, beq_self_eq_true _⟩
    · exact List.forall_mem_singleton.mpr rfl
  | ok url =>
    refine Ensures.bind (Ensures.perform ?_)
    have hunbuilt : ∀ (ok : Bool) (cycle' : ℕ) (token' : String),
        .unbuilt cycle' token' ∈ [ReportEvent.connect cycle ⟨id, token, url⟩ ok] →
          ∃ error, host.buildReportWsUrl config.endpoint token' = .error error := by
      intro ok cycle' token' hmem
      cases List.mem_singleton.mp hmem
    rintro (error | _)
    · refine Ensures.pure ⟨?_, hunbuilt false, nofun, fun _ => ⟨?_, ?_⟩⟩
      · exact List.forall_mem_singleton.mpr ⟨rfl, rfl, rfl, fun _ => rfl⟩
      · exact ⟨_, List.mem_singleton.mpr rfl, by simp [ReportEvent.failsIn, Except.toBool]⟩
      · exact List.forall_mem_singleton.mpr (Bool.and_false _)
    · refine Ensures.pure ⟨?_, hunbuilt true, ?_, fun hne => absurd rfl (hne _)⟩
      · exact List.forall_mem_singleton.mpr ⟨rfl, rfl, rfl, fun _ => rfl⟩
      · rintro socket hsocket
        cases hsocket
        exact ⟨rfl, rfl, hurl, List.mem_singleton.mpr rfl⟩

/-- The events of a connect with its recovery. -/
structure Connecting (host : UrlHost) (endpoint : String) (cycle id : ℕ)
    (result : Except RuntimeError (ReportSocket × Bool) × String) (us : Trace) : Prop where
  own : ∀ e ∈ us, OfConnect cycle e
  unbuilt : ∀ cycle token, .unbuilt cycle token ∈ us →
    ∃ error, host.buildReportWsUrl endpoint token = .error error
  success : ∀ socket recovered, result.1 = .ok (socket, recovered) →
    socket.id = id ∧ socket.token = result.2 ∧
      host.buildReportWsUrl endpoint socket.token = .ok socket.url ∧
      .connect cycle socket true ∈ us
  failure : ∀ error, result.1 = .error error →
    (∃ e ∈ us, e.failsIn cycle = true) ∧ ∀ e ∈ us, e.connectsIn cycle = false

theorem Recovering.connecting {id : ℕ} {result : Except RuntimeError (ReportSocket × Bool) × String}
    (h : Recovering (ConnectTried host endpoint cycle id) cycle false token result us) :
    Connecting host endpoint cycle id result us := by
  have hown : ∀ e ∈ us, OfConnect cycle e :=
    h.forall_mem (fun _ _ _ h => h.own) fun _ _ _ => ⟨rfl, rfl, rfl, fun _ => rfl⟩
  have hunbuilt : ∀ e ∈ us, ∀ cycle token, e = .unbuilt cycle token →
      ∃ error, host.buildReportWsUrl endpoint token = .error error := by
    refine h.forall_mem (fun _ _ _ h e he cycle token heq => ?_) nofun
    exact h.unbuilt cycle token (heq ▸ he)
  refine ⟨hown, fun cycle token hmem => hunbuilt _ hmem cycle token rfl, ?_, ?_⟩
  · intro socket recovered heq
    cases h with
    | unbuilt h | refused h => cases heq
    | first h =>
      cases heq
      exact h.success _ rfl
    | @second error after us vs result h hsecond =>
      have hresult : result = .ok (.ok socket) := by
        rcases result with error | error | socket' <;> cases heq
        rfl
      obtain ⟨hid, htoken, hbuilt, hmem⟩ := hsecond.success socket hresult
      exact ⟨hid, htoken, hbuilt, List.mem_append_right _ hmem⟩
  · intro error' heq
    cases h with
    | unbuilt h => exact h.failure nofun
    | first h => cases heq
    | refused h =>
      obtain ⟨⟨e, he, hfails⟩, hnone⟩ := h.failure nofun
      refine ⟨⟨e, List.mem_append_left _ he, hfails⟩, List.forall_mem_append.mpr ⟨hnone, ?_⟩⟩
      exact List.forall_mem_singleton.mpr rfl
    | @second error after us vs result h hsecond =>
      have hresult : ∀ socket, result ≠ .ok (.ok socket) := by
        rintro socket rfl
        cases heq
      obtain ⟨⟨e, he, hfails⟩, hnone⟩ := hsecond.failure hresult
      refine ⟨⟨e, List.mem_append_right _ he, hfails⟩, List.forall_mem_append.mpr ⟨?_, hnone⟩⟩
      exact List.forall_mem_append.mpr
        ⟨(h.failure nofun).2, List.forall_mem_singleton.mpr rfl⟩

theorem ensures_connect (id : ℕ) {E : ReportEnd → Trace → Prop} :
    Ensures (connectReportWithTokenRecovery world host config cycle id token)
      (fun result t' => ∃ us, t' = t ++ us ∧ Connecting host config.endpoint cycle id result us)
      E t := by
  refine ((ensures_withTokenRecovery (ensures_attemptConnect id)).mono ?_
    fun _ _ h => h).total_after t
  exact fun _ _ h => h.connecting

/-! ### Cycles -/

/-- What holds between the steps of the loop. -/
structure Between (host : UrlHost) (config : ReportConfig) (next cycle : ℕ) (state : ReportState)
    (t : Trace) : Prop extends Base host config.endpoint state.opened next t where
  counted : Retrying config → Counted config.maxRetries state.connectFailures cycle t
  live : AllLive host config state.opened state.token state.socket t
  idle : state.socket.isSome = true → state.connectFailures = 0
  uploaded : cycle ≠ 0 → Uploaded t

section Uploading

variable {held : Bool} {result : Except RuntimeError (Unit × Bool) × String}

theorem Uploading.quiet (h : Uploading cycle held token result us) :
    ∀ e ∈ us, e.operated = none ∧ e.cycle = cycle ∧
      (∀ n, e.failsIn n = false ∧ e.connectsIn n = false) ∧
      ∀ cycle token, e ≠ .unbuilt cycle token := by
  intro e he
  rcases h.own e he with ⟨url, ok, rfl⟩ | ⟨before, recovered, after, rfl⟩ <;>
    exact ⟨rfl, rfl, fun _ => ⟨rfl, rfl⟩, nofun⟩

theorem Uploading.steady (h : Uploading cycle held token result us) (hpast : Past cycle t)
    (hs : Steady (t ++ us)) : Steady t := by
  refine hs.of_append fun e he event hmem c hc => ?_
  by_contra hupload
  have hown := (h.quiet e he).2.1
  have hcycle := cycle_of_uploadsIn (Bool.of_not_eq_false hupload)
  have hlt := hpast event hmem
  rw [cycle_of_rotation hc] at hlt
  omega

/-- An upload that fails while a socket is held leaves the token as it is, or is not steady. -/
theorem Uploading.token_eq (h : Uploading cycle held token result us) (hpast : Past cycle t)
    (hs : Steady (t ++ us)) (hheld : held = true) (hfailed : result.1.toBool = false) :
    result.2 = token := by
  by_contra hne
  obtain ⟨e, he, hrotation⟩ := h.rotated hheld hne
  obtain ⟨e', he', hupload⟩ := hs e (List.mem_append_right _ he) cycle hrotation
  rcases List.mem_append.mp he' with he' | he'
  · exact absurd (hpast e' he') (by rw [cycle_of_uploadsIn hupload]; exact lt_irrefl _)
  · rw [h.success.mp ⟨e', he', hupload⟩] at hfailed
    cases hfailed

theorem Uploading.past (h : Uploading cycle held token result us) (hpast : Past cycle t) :
    Past (cycle + 1) (t ++ us) :=
  (hpast.mono cycle.le_succ).append fun e he => by rw [(h.quiet e he).2.1]; exact cycle.lt_succ_self

theorem Uploading.base (h : Uploading cycle held token result us) (hpast : Past cycle t)
    (hbase : Base host endpoint opened next t) : Base host endpoint opened next (t ++ us) := by
  refine hbase.quiet (fun e he => (h.quiet e he).1) ?_ (h.steady hpast)
  exact fun cycle' token' hmem => absurd rfl ((h.quiet _ hmem).2.2.2 cycle' token')

end Uploading

/-- After an upload: the socket of the state is dropped, or kept with the token it had, or the
upload failed. -/
theorem Between.upload {state : ReportState} {socket : Option ReportSocket}
    {result : Except RuntimeError (Unit × Bool) × String}
    (h : Between host config cycle cycle state t) (hpast : Past cycle t)
    (hup : Uploading cycle state.socket.isSome state.token result us)
    (hsocket : socket = none ∨
      socket = state.socket ∧ (result.1.toBool = true → result.2 = state.token))
    (hfirst : result.1.toBool = true ∨ cycle ≠ 0) :
    Between host config cycle cycle { state with token := result.2, socket } (t ++ us) ∧
      Uploaded (t ++ us) ∧ Past (cycle + 1) (t ++ us) := by
  have huploaded : Uploaded (t ++ us) := by
    rcases Nat.eq_zero_or_pos cycle with rfl | hpos
    · obtain ⟨e, he, hupload⟩ := hup.success.mpr (hfirst.resolve_right fun hne => hne rfl)
      exact ⟨e, List.mem_append_right _ he, hupload⟩
    · exact (h.uploaded hpos.ne').append us
  refine ⟨⟨hup.base hpast h.toBase, ?_, ?_, ?_, fun _ => huploaded⟩, huploaded, hup.past hpast⟩
  · exact fun hretrying => (h.counted hretrying).other fun e he => (hup.quiet e he).2.2.1
  · rcases hsocket with rfl | ⟨rfl, htoken⟩
    · exact nofun
    · intro s hs
      refine (h.live s hs).append ?_ fun hsteady => ⟨hup.steady hpast hsteady, ?_⟩
      · intro e he
        rcases hup.own e he with ⟨url, ok, rfl⟩ | ⟨before, recovered, after, rfl⟩ <;> rfl
      · cases hok : result.1.toBool with
        | true => exact htoken hok
        | false =>
          refine hup.token_eq hpast hsteady ?_ hok
          rw [Option.mem_def.mp hs]
          rfl
  · rcases hsocket with rfl | ⟨rfl, -⟩
    · exact nofun
    · exact h.idle

/-- The failure of the very first upload. -/
theorem Between.firstUploadFailed {state : ReportState} {held : Bool}
    {result : Except RuntimeError (Unit × Bool) × String}
    (h : Between host config 0 0 state t) (hpast : Past 0 t)
    (hup : Uploading 0 held state.token result us) (hfailed : result.1.toBool = false)
    (error : RuntimeError) : Stopped host config (.failed error) (t ++ us) where
  toDisciplined := (hup.base hpast h.toBase).toDisciplined
  fresh := (hup.base hpast h.toBase).fresh
  ends := by
    refine fun _ => ⟨fun _ => .inl ?_, fun _ => ⟨error, rfl⟩⟩
    rintro ⟨e, he, hupload⟩
    rcases List.mem_append.mp he with he | he
    · exact absurd (hpast e he) (Nat.not_lt_zero _)
    · rw [hup.success.mp ⟨e, he, hupload⟩] at hfailed
      cases hfailed
  last := by
    intro hretrying n hcount
    exact absurd hcount (((h.counted hretrying).other fun e he =>
      (hup.quiet e he).2.2.1).failedInARow_ne n)

theorem ensures_periodicUpload {state : ReportState}
    (h : Between host config cycle cycle state t) (hpast : Past cycle t) :
    Ensures (periodicUpload world config cycle state)
      (fun state t => Between host config cycle cycle state t ∧ Uploaded t ∧ Past (cycle + 1) t)
      (Stopped host config) t := by
  unfold periodicUpload
  split_ifs with hdue
  · refine Ensures.bind (Ensures.ask fun info => ?_)
    refine (ensures_upload state.socket.isSome info).seq ?_
    rintro ⟨result, token⟩ _ ⟨us, rfl, hup⟩
    rcases result with error | ⟨_, _ | _⟩
    · change Ensures (if cycle = 0 then _ else _) _ _ _
      split_ifs with hcycle
      · subst hcycle
        exact Ensures.stop (h.firstUploadFailed hpast hup rfl error)
      · exact Ensures.pure (h.upload hpast hup (.inr ⟨rfl, nofun⟩) (.inr hcycle))
    · exact Ensures.pure (h.upload hpast hup (.inr ⟨rfl, fun _ => hup.kept rfl⟩) (.inl rfl))
    · exact Ensures.pure (h.upload hpast hup (.inl rfl) (.inl rfl))
  · refine Ensures.pure ⟨h, h.uploaded ?_, hpast.mono cycle.le_succ⟩
    rintro rfl
    exact hdue (Nat.zero_mod _)

section Connecting

variable {id : ℕ} {result : Except RuntimeError (ReportSocket × Bool) × String}

theorem failsIn_of_ne {n : ℕ} (h : event.cycle ≠ n) :
    event.failsIn n = false ∧ event.connectsIn n = false := by
  cases event with
  | upload _ _ _ | recover _ _ _ _ _ | operate _ _ _ _ _ => exact ⟨rfl, rfl⟩
  | unbuilt cycle token => exact ⟨beq_false_of_ne h, rfl⟩
  | connect cycle socket ok =>
    have hcycle : (cycle == n) = false := beq_false_of_ne h
    rw [ReportEvent.failsIn, ReportEvent.connectsIn, hcycle]
    exact ⟨rfl, rfl⟩

theorem Connecting.base (h : Connecting host endpoint cycle id result us)
    (hbase : Base host endpoint opened next t) : Base host endpoint opened next (t ++ us) := by
  refine hbase.quiet (fun e he => (h.own e he).1) h.unbuilt fun hs => hs.of_append ?_
  exact fun e he _ _ n _ => (h.own e he).2.2.2 n

theorem Connecting.past (h : Connecting host endpoint cycle id result us)
    (hpast : Past (cycle + 1) t) : Past (cycle + 1) (t ++ us) :=
  hpast.append fun e he => by rw [(h.own e he).2.1]; exact cycle.lt_succ_self

/-- Only the cycle itself is tried. -/
theorem Connecting.tries (h : Connecting host endpoint cycle id result us) :
    ∀ e ∈ us, ∀ n, n ≠ cycle → e.failsIn n = false ∧ e.connectsIn n = false :=
  fun e he n hne => failsIn_of_ne (by rw [(h.own e he).2.1]; exact hne.symm)

end Connecting

theorem Between.connect {state : ReportState} {socket : ReportSocket} {recovered : Bool}
    (h : Between host config next cycle state t) (huploaded : Uploaded t)
    (hcon : Connecting host config.endpoint cycle state.opened (.ok (socket, recovered), token)
      us) :
    Between host config next (cycle + 1)
      { token, socket := some socket, connectFailures := 0, opened := state.opened + 1 }
      (t ++ us) := by
  obtain ⟨hid, htoken, hbuilt, hmem⟩ := hcon.success socket recovered rfl
  refine ⟨(hcon.base h.toBase).mono (Nat.le_succ _) le_rfl, fun hretrying => ?_, ?_, fun _ => rfl,
    fun _ => huploaded.append us⟩
  · exact (h.counted hretrying).connected hcon.tries
      ⟨_, hmem, by simp [ReportEvent.connectsIn]⟩
  · rintro s hs
    cases hs
    exact (hcon.base h.toBase).live hid htoken hbuilt (List.mem_append_right _ hmem)

theorem Between.connectFailed {state : ReportState} {error : RuntimeError}
    (h : Between host config cycle cycle state t) (huploaded : Uploaded t)
    (hcon : Connecting host config.endpoint cycle state.opened (.error error, token) us)
    (hbound : ¬state.connectFailures + 1 > config.maxRetries) :
    Between host config (cycle + 1) (cycle + 1)
      { state with token, socket := none, connectFailures := state.connectFailures + 1 }
      (t ++ us) where
  toBase := (hcon.base h.toBase).mono le_rfl (Nat.le_succ _)
  counted := by
    intro hretrying
    have hadd := (h.counted hretrying).toNat_succ hretrying
    obtain ⟨hfails, hnone⟩ := hcon.failure error rfl
    rw [gt_iff_lt, UInt32.lt_iff_toNat_lt, not_lt] at hbound
    exact (h.counted hretrying).append hcon.tries
      (((h.counted hretrying).count_failed hcon.tries hfails hnone).trans hadd.symm) hbound
  live := nofun
  idle := nofun
  uploaded := fun _ => huploaded.append us

/-- One cycle more than the retries failed in a row. -/
theorem Between.gaveUp {state : ReportState} {error : RuntimeError}
    (h : Between host config next cycle state t) (hpast : Past (cycle + 1) t)
    (hcon : Connecting host config.endpoint cycle state.opened (.error error, token) us)
    (hbound : state.connectFailures + 1 > config.maxRetries) :
    Stopped host config (.failed error) (t ++ us) where
  toDisciplined := (hcon.base h.toBase).toDisciplined
  fresh := (hcon.base h.toBase).fresh
  ends := by
    intro hretrying
    refine ⟨fun _ => .inr ⟨cycle + 1, ?_⟩, fun _ => ⟨error, rfl⟩⟩
    have hcounted := h.counted hretrying
    have hadd := hcounted.toNat_succ hretrying
    have hle := hcounted.bounded cycle
    have hcount := hcounted.count
    obtain ⟨hfails, hnone⟩ := hcon.failure error rfl
    rw [gt_iff_lt, UInt32.lt_iff_toNat_lt] at hbound
    rw [hcounted.count_failed hcon.tries hfails hnone]
    omega
  last := by
    intro hretrying n hcount
    have hn : n = cycle + 1 := by
      by_contra hne
      have hle := (h.counted hretrying).failedInARow_le_of_ne hcon.tries hne
      omega
    rw [hn]
    exact hcon.past hpast

/-- A cycle goes on with a socket, or ends without one. -/
theorem ensures_ensureConnected {state : ReportState}
    (h : Between host config cycle cycle state t) (huploaded : Uploaded t)
    (hpast : Past (cycle + 1) t) :
    Ensures (ensureConnected world host config cycle state)
      (fun next t => Past (cycle + 1) t ∧
        if next.2 then Between host config cycle (cycle + 1) next.1 t ∧
          next.1.socket.isSome = true
        else Between host config (cycle + 1) (cycle + 1) next.1 t)
      (Stopped host config) t := by
  unfold ensureConnected
  cases hsocket : state.socket with
  | some socket =>
    have hsome : state.socket.isSome = true := by
      rw [hsocket]
      rfl
    have hzero := h.idle hsome
    refine Ensures.pure ⟨hpast, ⟨h.toBase, fun hretrying => ?_, h.live, h.idle, fun _ => huploaded⟩,
      hsome⟩
    have hcounted := h.counted hretrying
    rw [hzero] at hcounted ⊢
    exact hcounted.succ
  | none =>
    refine (ensures_connect state.opened).seq ?_
    rintro ⟨error | ⟨socket, recovered⟩, token⟩ _ ⟨us, rfl, hcon⟩
    · change Ensures (if state.connectFailures + 1 > config.maxRetries then _ else _) _ _ _
      split_ifs with hbound
      · exact Ensures.stop (h.gaveUp hpast hcon hbound)
      · refine Ensures.bind (Ensures.ask fun _ => Ensures.pure ⟨hcon.past hpast, ?_⟩)
        exact h.connectFailed huploaded hcon hbound
    · exact Ensures.pure ⟨hcon.past hpast, h.connect huploaded hcon, rfl⟩

theorem ensures_exchangeSocket (fuel : ℕ) {socket : Option ReportSocket}
    (h : Using host config opened cycle cycle t)
    (hlive : AllLive host config opened token socket t) :
    Ensures (exchangeSocket world config fuel cycle token socket)
      (fun socket t => Using host config opened (cycle + 1) cycle t ∧
        AllLive host config opened token socket t) (Stopped host config) t := by
  cases socket with
  | none =>
    exact Ensures.pure ⟨h.next_cycle, nofun⟩
  | some socket =>
    refine (ensures_exchange fuel ⟨h, fun _ => hlive socket rfl⟩).seq ?_
    rintro (_ | _) t ⟨husing, hlive⟩
    · refine Ensures.pure ⟨husing, ?_⟩
      rintro s hs
      cases hs
      exact hlive rfl
    · exact Ensures.pure ⟨husing, nofun⟩

theorem ensures_exchangeAndSleep (cycles fuel : ℕ) {state : ReportState}
    (h : Between host config cycle (cycle + 1) state t) (hsocket : state.socket.isSome = true)
    (hpast : Past (cycle + 1) t) :
    Ensures (exchangeAndSleep world config cycles fuel cycle state)
      (fun state t => Between host config (cycle + 1) (cycle + 1) state t ∧ Past (cycle + 1) t)
      (Stopped host config) t := by
  have hzero := h.idle hsocket
  have hcounted : Retrying config → Counted config.maxRetries 0 (cycle + 1) t :=
    fun hretrying => hzero ▸ h.counted hretrying
  have hdone : ∀ socket t, Using host config state.opened (cycle + 1) cycle t ∧
      AllLive host config state.opened state.token socket t →
      Between host config (cycle + 1) (cycle + 1) { state with socket } t ∧ Past (cycle + 1) t := by
    rintro socket t ⟨husing, hlive⟩
    refine ⟨⟨husing.toBase, fun hretrying => ?_, hlive, fun _ => hzero, fun _ => husing.uploaded⟩,
      husing.past⟩
    exact hzero ▸ husing.counted hretrying
  refine (ensures_exchangeSocket fuel
    ⟨h.toBase, hcounted, h.uploaded (Nat.succ_ne_zero _), hpast⟩ h.live).seq ?_
  intro socket t hkept
  split_ifs
  · refine (ensures_sleep fuel config.pollsPerSleep hkept.1 hkept.2).seq ?_
    exact fun socket t hkept => Ensures.pure (hdone socket t hkept)
  · exact Ensures.pure (hdone socket t hkept)

/-- **A step of the loop.** -/
theorem ensures_reportCycle (cycles fuel : ℕ) {state : ReportState}
    (h : Between host config cycle cycle state t) (hpast : Past cycle t) :
    Ensures (reportCycle world host config cycles fuel state cycle)
      (fun state t => Between host config (cycle + 1) (cycle + 1) state t ∧ Past (cycle + 1) t)
      (Stopped host config) t := by
  refine (ensures_periodicUpload h hpast).seq ?_
  rintro state t ⟨h, huploaded, hpast⟩
  refine (ensures_ensureConnected h huploaded hpast).seq ?_
  rintro ⟨state, _ | _⟩ t ⟨hpast, h⟩
  · exact Ensures.pure ⟨h, hpast⟩
  · exact ensures_exchangeAndSleep cycles fuel h.1 h.2 hpast

theorem between_initialState (token : String) :
    Between host config 0 0 (initialState token) [] where
  spared := List.Pairwise.nil
  connected := throughout_nil
  once := fun _ => Nat.zero_le _
  uploads := throughout_nil
  unbuilt := nofun
  below := nofun
  unsent := fun _ _ => rfl
  fresh := fun _ => nofun
  counted := by
    refine fun _ => ⟨rfl, fun n => ?_, nofun⟩
    cases n <;> exact Nat.zero_le _
  live := nofun
  idle := nofun
  uploaded := fun hne => absurd rfl hne

section Results

variable (world : ReportWorld W ι ρ π) (host : UrlHost) (config : ReportConfig) (token : String)
  (cycles fuel : ℕ) (w : W)

/-- **The whole loop.** -/
theorem ensures_runReportCycles :
    Ensures (runReportCycles world host config token cycles fuel)
      (Between host config cycles cycles) (Stopped host config) [] := by
  -- The cycles that are left begin with the current one.
  let I : ReportState → List ℕ → Trace → Prop := fun state left t =>
    ∃ cycle, left = List.range' cycle left.length ∧ cycle + left.length = cycles ∧
      Between host config cycle cycle state t ∧ Past cycle t
  have hinitial : I (initialState token) (List.range cycles) [] := by
    refine ⟨0, ?_, ?_, between_initialState token, nofun⟩
    · rw [List.length_range, List.range_eq_range']
    · rw [List.length_range, Nat.zero_add]
  refine Ensures.mono (Ensures.fold (I := I) ?_ hinitial) ?_ fun _ _ h => h
  · rintro state cycle left t ⟨first, hleft, htotal, h, hpast⟩
    rw [List.length_cons, List.range'_succ, List.cons.injEq] at hleft
    obtain ⟨rfl, hleft⟩ := hleft
    rw [List.length_cons] at htotal
    refine (ensures_reportCycle cycles fuel h hpast).mono ?_ fun _ _ h => h
    exact fun _ _ h => ⟨cycle + 1, hleft, by omega, h⟩
  · rintro state t ⟨cycle, -, htotal, h, -⟩
    rw [List.length_nil, Nat.add_zero] at htotal
    exact htotal ▸ h

/-- Every run, however it ends, is disciplined, and fresh while uploads are steady. -/
theorem disciplined_and_fresh_run :
    Disciplined host config.endpoint
        (runReportCycles world host config token cycles fuel w).trace ∧
      (Steady (runReportCycles world host config token cycles fuel w).trace →
        ∀ event ∈ (runReportCycles world host config token cycles fuel w).trace,
          event.IsFresh host config.endpoint) := by
  have hrun := (ensures_runReportCycles world host config token cycles fuel).run w
  split at hrun
  · exact ⟨hrun.toDisciplined, hrun.fresh⟩
  · exact ⟨hrun.toDisciplined, hrun.fresh⟩

/-- **No report travels on a stale connection while uploads are steady.** -/
theorem reports_fresh
    (hsteady : Steady (runReportCycles world host config token cycles fuel w).trace) :
    ∀ event ∈ (runReportCycles world host config token cycles fuel w).trace,
      event.IsFresh host config.endpoint :=
  (disciplined_and_fresh_run world host config token cycles fuel w).2 hsteady

/-- **The discipline of the loop.** -/
theorem report_discipline :
    Disciplined host config.endpoint
        (runReportCycles world host config token cycles fuel w).trace ∧
      (Retrying config →
        ((∃ error, (runReportCycles world host config token cycles fuel w).result =
            .error (.failed error)) ↔
          FirstUploadFailed cycles (runReportCycles world host config token cycles fuel w).trace ∨
            ∃ cycle, failedInARow (runReportCycles world host config token cycles fuel w).trace
              cycle = config.maxRetries.toNat + 1) ∧
        ∀ cycle, failedInARow (runReportCycles world host config token cycles fuel w).trace cycle =
            config.maxRetries.toNat + 1 →
          ∀ event ∈ (runReportCycles world host config token cycles fuel w).trace,
            event.cycle < cycle) := by
  refine ⟨(disciplined_and_fresh_run world host config token cycles fuel w).1, fun hretrying => ?_⟩
  have hrun := (ensures_runReportCycles world host config token cycles fuel).run w
  split at hrun
  · next heq =>
    have hne := (hrun.counted hretrying).failedInARow_ne
    rw [heq]
    refine ⟨⟨nofun, ?_⟩, fun cycle hcount => absurd hcount (hne cycle)⟩
    rintro (⟨hpos, hfirst⟩ | ⟨cycle, hcount⟩)
    · exact absurd (hrun.uploaded hpos.ne') hfirst
    · exact absurd hcount (hne cycle)
  · next reason heq =>
    -- Without a cycle the loop does not end early.
    have hpos : 0 < cycles := by
      rw [Nat.pos_iff_ne_zero]
      rintro rfl
      cases heq
    have hfirst : FirstUploadFailed cycles
        (runReportCycles world host config token cycles fuel w).trace ↔
          ¬Uploaded (runReportCycles world host config token cycles fuel w).trace :=
      and_iff_right hpos
    rw [heq, hfirst, ← hrun.ends hretrying]
    refine ⟨⟨?_, ?_⟩, hrun.last hretrying⟩
    · rintro ⟨error, h⟩
      cases h
      exact ⟨error, rfl⟩
    · rintro ⟨error, rfl⟩
      exact ⟨error, rfl⟩

end Results

end Programs

/-! ## Runs of a small world -/

/-- The world counts uploads, and refuses those that `uploads` does not have. The recovery answers
with another token. Connects succeed if `connects` is true, and sockets always. -/
def countingWorld (uploads : ℕ → Bool) (connects : Bool) : ReportWorld ℕ Unit Unit Unit where
  basicInfo := fun w => (⟨"", ()⟩, w)
  uploadBasicInfo := fun _ _ w =>
    (if uploads w then .ok () else .error (.invalidClientToken "upload" "old" 401 ""), w + 1)
  recoverFromTransportError := fun _ _ w => ((true, "new"), w)
  connectReport := fun _ w => (if connects then .ok () else .error .socketClosed, w)
  generate := fun w => ((), w)
  sendReport := fun _ _ w => (.ok (), w)
  readMessage := fun _ w => (.ok none, w)
  sendPing := fun _ w => (.ok (), w)
  sendPingResult := fun _ _ w => (.ok (), w)
  parseSocketMessage := fun _ => .unknown none
  runPing := fun _ w => ((), w)
  handle := fun _ w => ((), w)
  sleepReportInterval := fun w => ((), w)
  sleepReconnectInterval := fun w => ((), w)

def plainConfig : ReportConfig where
  endpoint := "https://panel"
  maxRetries := 1
  heartbeatEvery := 1
  basicInfoEvery := 1
  pollsPerSleep := 1

/-- A run of the small world. -/
def plainRun (uploads : ℕ → Bool) (connects : Bool) (cycles : ℕ) :
    Run ℕ ReportEvent ReportEnd ReportState :=
  runReportCycles (countingWorld uploads connects) UrlHost.plain plainConfig "old" cycles 1 0

/-- The upload of the second cycle is refused and the token is rotated; the upload is then accepted,
and the report of that cycle is sent on a second socket. -/
theorem reports_fresh_recovered :
    .operate 1 ⟨1, "new", "wss://panel/api/clients/report?token=new"⟩ .sendReport "new" true ∈
        (plainRun (· != 1) true 2).trace ∧
      Steady (plainRun (· != 1) true 2).trace ∧
      ∀ event ∈ (plainRun (· != 1) true 2).trace,
        event.IsFresh UrlHost.plain "https://panel" := by
  have hsteady : Steady (plainRun (· != 1) true 2).trace := by
    unfold Steady
    decide +kernel
  exact ⟨by decide +kernel, hsteady, reports_fresh _ UrlHost.plain plainConfig "old" 2 1 0 hsteady⟩

/-- The second upload fails, the token is rotated and the upload fails again: the report of that
cycle is sent on the socket of the first. -/
theorem stale_report :
    ∃ event ∈ (plainRun (· == 0) true 2).trace, ¬event.IsFresh UrlHost.plain "https://panel" := by
  refine ⟨.operate 1 ⟨0, "old", "wss://panel/api/clients/report?token=old"⟩ .sendReport "new" true,
    by decide +kernel, ?_⟩
  intro hfresh
  exact absurd (hfresh (.inl rfl)).1 (by decide)

/-- With one retry, the second cycle that fails to connect is the last. -/
theorem report_discipline_gives_up :
    (plainRun (fun _ => true) false 9).result = .error (.failed (.transport .socketClosed)) ∧
      failedInARow (plainRun (fun _ => true) false 9).trace 2 = 2 ∧
      (∃ cycle, failedInARow (plainRun (fun _ => true) false 9).trace cycle = 2) ∧
      ∀ event ∈ (plainRun (fun _ => true) false 9).trace, event.cycle < 2 := by
  have hresult : (plainRun (fun _ => true) false 9).result =
      .error (.failed (.transport .socketClosed)) := rfl
  have hrow : failedInARow (plainRun (fun _ => true) false 9).trace 2 = 2 := by decide +kernel
  have hretrying : Retrying plainConfig := by
    unfold Retrying
    decide
  obtain ⟨-, hstops⟩ := report_discipline (countingWorld (fun _ => true) false) UrlHost.plain
    plainConfig "old" 9 1 0
  have huploaded : Uploaded (plainRun (fun _ => true) false 9).trace := by
    unfold Uploaded
    decide +kernel
  refine ⟨hresult, hrow, ?_, (hstops hretrying).2 2 hrow⟩
  exact ((hstops hretrying).1.mp ⟨_, hresult⟩).resolve_left fun hfirst => hfirst.2 huploaded

end ReportLoop

end KeliAgent
