import KeliAgent.Lib.History
import KeliAgent.Tunnel.Accounting
import KeliAgent.Tunnel.Effects

/-!
# Closed sessions fall silent

`close_session` and `close_all_sessions` take sessions out of the map, abort their readers through
the handles registered with the sessions, wait for them, and drop the frames of the sessions from
the outbound queue. The handle is registered last when a session is opened, so a close in between
finds none and does not wait.

* `closeHistory`: which session each frame of the queue is of, and which sessions were removed by a
  call that has returned.
* `ReaderKnown`: a close that aborts the reader of a session finds its handle, unless nobody opens
  the session or reads for it any more.
* **`closed_sessions_silent`**: no frame of a session removed by a call that has returned is in the
  queue, then or later.
* `close_during_accept_misses_reader`: a close during an accept returns, and the session goes on to
  queue its data.
-/

namespace KeliAgent

open Interleave AsyncTunnelCore

/-! ## Owners and ended readers -/

namespace Ledger

variable {l l' : Ledger} {a : Action} {ts ts' rest : List Token}

def idOf (l : Ledger) (n : ℕ) : Option UInt64 := l.cells[n]?.map (·.sessionId)

theorem idOf_modifyCell (l : Ledger) (m n : ℕ) {f : LedgerCell → LedgerCell}
    (hf : ∀ c, (f c).sessionId = c.sessionId) : (l.modifyCell m f).idOf n = l.idOf n := by
  rw [idOf, getElem?_modifyCell, idOf]
  split_ifs
  · cases l.cells[n]? with
    | none => rfl
    | some c => simp [hf]
  · rfl

@[simp] theorem idOf_setStatus (l : Ledger) (m n : ℕ) (status : ReaderStatus) :
    (l.setStatus m status).idOf n = l.idOf n :=
  idOf_modifyCell l m n (by intro c; rfl)

@[simp] theorem idOf_abort (l : Ledger) (m n : ℕ) : (l.abort m).idOf n = l.idOf n :=
  idOf_modifyCell l m n (by intro c; rfl)

/-- The id of a session never changes. -/
theorem Step.idOf (h : Step l a ts l' ts') {n : ℕ} {sessionId : UInt64}
    (hid : l.idOf n = some sessionId) : l'.idOf n = some sessionId := by
  cases h with
  | insert sessionId' ruleId =>
    obtain ⟨cell, hcell, hcell'⟩ := Option.map_eq_some_iff.mp hid
    rw [Ledger.idOf, getElem?_insert hcell]
    exact congrArg some hcell'
  | spawn | cancel | leave | endRule => rwa [idOf_setStatus]
  | abort => rwa [idOf_abort]
  | _ => exact hid

/-- The sessions in the map are there under their ids. -/
def Placed (l : Ledger) : Prop :=
  ∀ {sessionId n}, l.sessions.lookup sessionId = some n → l.idOf n = some sessionId

theorem Placed.step (h : l.Placed) (hstep : Step l a ts l' ts') : l'.Placed := by
  intro sessionId n hn
  have hkept : l.sessions.lookup sessionId = some n → l'.idOf n = some sessionId :=
    fun hn => hstep.idOf (h hn)
  cases hstep with
  | insert sessionId' ruleId =>
    by_cases hid : sessionId = sessionId'
    · subst hid
      have hlen : l.cells.length = n := by simpa [Ledger.insert] using hn
      subst hlen
      simp [Ledger.idOf, Ledger.insert]
    · rw [Ledger.insert, AList.lookup_insert_ne hid] at hn
      exact hkept hn
  | removeOwn | remove =>
    rw [lookup_erase] at hn
    split_ifs at hn
    exact hkept hn
  | drain => cases hn
  | _ => exact hkept hn

/-- The reader of a session that someone owns has not ended. -/
def Live (l : Ledger) (tokens : List Token) : Prop :=
  ∀ n ∈ owned tokens, ∃ cell, l.cells[n]? = some cell ∧ cell.status ≠ .finished

theorem mem_owned_perm {us : List Token} (hperm : ts.Perm us) {n : ℕ} :
    n ∈ owned ts ↔ n ∈ owned us :=
  ((hperm.filter _).map _).mem_iff

theorem Live.perm {us : List Token} (h : l.Live ts) (hperm : ts.Perm us) : l.Live us :=
  fun n hn => h n ((mem_owned_perm hperm).mpr hn)

/-- A session without an owner is not owned again. -/
theorem Step.not_owned (hstep : Step l a ts l' ts') {n : ℕ} (hn : n < l.cells.length)
    (howned : n ∉ owned (ts ++ rest)) : n ∉ owned (ts' ++ rest) := by
  rw [owned_append] at howned ⊢
  rcases hstep.owned_cases with ⟨-, hsub⟩ | ⟨rfl, hnew, -⟩
  · exact fun hmem => howned ((hsub.append_right _).subset hmem)
  · rw [hnew]
    intro hmem
    rcases List.mem_cons.mp hmem with rfl | hmem
    · exact lt_irrefl _ hn
    · exact howned (List.mem_append_right _ hmem)

theorem Step.length_le (hstep : Step l a ts l' ts') : l.cells.length ≤ l'.cells.length := by
  rcases hstep.owned_cases with ⟨hle, -⟩ | ⟨-, -, hlen⟩
  · exact hle
  · omega

section Live

/-- Setting the status of a session concerns its owner only. -/
theorem Live.setStatus {n : ℕ} {status : ReaderStatus} {tokens : List Token} (h : l.Live tokens)
    (hn : n ∈ owned tokens → status ≠ .finished) : (l.setStatus n status).Live tokens := by
  intro m hm
  obtain ⟨cell, hcell, hstatus⟩ := h m hm
  rw [Ledger.setStatus, getElem?_modifyCell]
  by_cases hnm : n = m
  · subst hnm
    exact ⟨{ cell with status }, by rw [if_pos rfl, hcell]; rfl, hn hm⟩
  · exact ⟨cell, by rw [if_neg hnm, hcell], hstatus⟩

theorem Solo.not_mem_rest {duty : Duty} {n : ℕ} (h : l.Solo (⟨duty, n⟩ :: rest))
    (howns : duty.owns = true) : n ∉ owned rest := by
  have hcons : owned (⟨duty, n⟩ :: rest) = n :: owned rest := by simp [owned, howns]
  have hnodup := h.1
  rw [hcons] at hnodup
  exact (List.nodup_cons.mp hnodup).1

theorem Live.step (h : l.Live (ts ++ rest)) (hsolo : l.Solo (ts ++ rest))
    (hstep : Step l a ts l' ts') : l'.Live (ts' ++ rest) := by
  have hrest : l.Live rest := fun n hn => h n (by
    rw [owned_append]
    exact List.mem_append_right _ hn)
  -- a step on a ledger with the same sessions, after which at most the same ones are owned
  have hsame : l'.cells = l.cells → owned (ts' ++ rest) ⊆ owned (ts ++ rest) →
      l'.Live (ts' ++ rest) := by
    intro hcells hsub n hn
    rw [hcells]
    exact h n (hsub hn)
  cases hstep with
  | insert sessionId ruleId =>
    intro n hn
    rcases List.mem_cons.mp hn with rfl | hn
    · exact ⟨⟨sessionId, ruleId, .notSpawned, false⟩, by simp [Ledger.insert], by simp⟩
    · obtain ⟨cell, hcell, hstatus⟩ := hrest n hn
      exact ⟨cell, getElem?_insert hcell _ _, hstatus⟩
  | spawn n => exact Live.setStatus h fun _ => by simp
  | cancel | leave => exact hrest.setStatus fun hmem => absurd hmem (hsolo.not_mem_rest rfl)
  | endRule =>
    exact Live.setStatus (l := l.setRule _ _) hrest fun hmem =>
      absurd hmem (hsolo.not_mem_rest rfl)
  | abort n =>
    intro m hm
    obtain ⟨cell, hcell, hstatus⟩ := h m hm
    rw [Ledger.abort, getElem?_modifyCell]
    by_cases hnm : n = m
    · exact ⟨{ cell with aborted := true }, by rw [if_pos hnm, hcell]; rfl, hstatus⟩
    · exact ⟨cell, by rw [if_neg hnm, hcell], hstatus⟩
  | drain =>
    refine hsame rfl ?_
    have hnone : owned (l.refs.map (⟨.closing, ·⟩)) = [] := by simp [owned, Duty.owns]
    rw [owned_append, owned_append, hnone]
    exact List.Subset.refl _
  | _ => exact hsame rfl (by simp [owned, Duty.owns])

end Live

end Ledger

/-! ## The history of closing -/

/-- The frames of the outbound queue with the sessions they are of, and the sessions that were
removed by a call that has returned. -/
structure CloseHistory where
  queue : List (ℕ × KtpFrame)
  returned : List ℕ
  deriving DecidableEq, Repr

/-- The sessions removed by the call that returns with the next turn of the task. `drained` are the
sessions that it took out of the map at once. -/
def TunnelTask.returns (drained : List ℕ) : TunnelTask → List ℕ
  | .close (.uncountRule ref) => [ref]
  | .closeAll (.await []) => drained
  | _ => []

/-- `close_all_sessions` takes all sessions out of the map. -/
def TunnelTask.drains (core : AsyncTunnelCore) (drained : List ℕ) : TunnelTask → List ℕ
  | .closeAll .drain => core.sessions.entries.map (·.2)
  | _ => drained

/-- The history after the turn. -/
def CloseHistory.after (h : CloseHistory) (core : AsyncTunnelCore) (t : TunnelTask)
    (drained : List ℕ) : CloseHistory where
  queue := (t.effect core).label core.outbound.capacity h.queue
  returned := h.returned ++ t.returns drained

def closeHistory : History AsyncTunnelCore TunnelTask TunnelAnswer CloseHistory (List ℕ) where
  fresh := []
  shared _ core t h drained := h.after core t drained
  task core t drained := t.drains core drained

/-- The core before any operation, with its history. -/
def closingStart (limits : TunnelRuntimeLimits) :
    Config (AsyncTunnelCore × CloseHistory) (TunnelTask × List ℕ) TunnelObservation :=
  ⟨(.new limits, ⟨[], []⟩), [], []⟩

/-! ## The condition -/

/-- The session that the task opens, up to its reader, or reads for. -/
def TunnelTask.serves : TunnelTask → Option ℕ
  | .opening (.countActive _ ref) | .opening (.countTotal _ ref) | .opening (.countRule _ ref)
  | .opening (.announce _ _ ref) | .opening (.spawnReader _ ref) => some ref
  | .reader ref _ => some ref
  | _ => none

/-- The session whose reader the task is about to abort. -/
def TunnelTask.aborts (answer : TunnelAnswer) : TunnelTask → Option ℕ
  | .close (.abort _ ref) => some ref
  | .closeAll (.next removed _) => removed[answer.pick % removed.length]?
  | _ => none

/-- A reader that is aborted has its handle registered, unless nobody opens its session or reads for
it any more. -/
def ReaderKnown (core : AsyncTunnelCore) (t : TunnelTask) (rest : List TunnelTask)
    (answer : TunnelAnswer) : Prop :=
  ∀ ref ∈ t.aborts answer, ∀ session ∈ core.arena[ref]?,
    session.readerHandle = true ∨ ∀ u ∈ rest, u.serves ≠ some ref

instance (core : AsyncTunnelCore) (t : TunnelTask) (rest : List TunnelTask)
    (answer : TunnelAnswer) : Decidable (ReaderKnown core t rest answer) :=
  inferInstanceAs (Decidable (∀ ref ∈ t.aborts answer, ∀ session ∈ core.arena[ref]?,
    session.readerHandle = true ∨ ∀ u ∈ rest, u.serves ≠ some ref))

/-- The owner of a session serves it. -/
theorem TunnelTask.serves_of_owned {t : TunnelTask} {ref : ℕ} (h : ref ∈ Ledger.owned t.tokens) :
    t.serves = some ref := by
  cases t with
  | opening task =>
    cases task <;> simp [tokens, OpenTask.tokens, Ledger.owned, Duty.owns] at h <;>
      simp [serves, h]
  | reader r task =>
    cases task <;> simp [tokens, ReaderTask.tokens, Ledger.owned, Duty.owns] at h <;>
      simp [serves, h]
  | close task => cases task <;> simp [tokens, CloseTask.tokens, Ledger.owned, Duty.owns] at h
  | closeAll task =>
    cases task <;> simp [tokens, CloseAllTask.tokens, Ledger.owned, Duty.owns] at h
  | writer | data | nextFrames => simp [tokens, Ledger.owned] at h

theorem exists_serves_of_owned {tasks : List TunnelTask} {ref : ℕ}
    (h : ref ∈ Ledger.owned (tokensOf tasks)) : ∃ u ∈ tasks, u.serves = some ref := by
  induction tasks with
  | nil => cases h
  | cons t ts ih =>
    rw [tokensOf_cons, Ledger.owned_append] at h
    rcases List.mem_append.mp h with h | h
    · exact ⟨t, List.mem_cons_self, TunnelTask.serves_of_owned h⟩
    · obtain ⟨u, hu, hserves⟩ := ih h
      exact ⟨u, List.mem_cons_of_mem _ hu, hserves⟩

/-- Only the owner of a session pushes its frames. -/
theorem TunnelTask.owned_of_push {core : AsyncTunnelCore} {t : TunnelTask} {ref : ℕ}
    {frame : KtpFrame} (h : t.effect core = .push ref frame) : ref ∈ Ledger.owned t.tokens := by
  cases t with
  | opening task =>
    cases task with
    | announce sessionId payload r =>
      simp only [effect] at h
      split at h <;> cases h
      simp [tokens, OpenTask.tokens, Ledger.owned, Duty.owns]
    | _ => cases h
  | reader r task =>
    cases task with
    | pushData chunk | pushClose =>
      cases hs : core.arena[r]? with
      | none => rw [effect, hs] at h; cases h
      | some session =>
        rw [effect, hs] at h
        cases h
        simp [tokens, ReaderTask.tokens, Ledger.owned, Duty.owns]
    | _ => cases h
  | close task => cases task <;> cases h
  | closeAll task =>
    cases task with
    | await readers => cases readers <;> cases h
    | _ => cases h
  | _ => cases h

/-! ## What tasks know of the sessions they close -/

/-- What is settled about sessions: their ids, that nobody serves them any more, and that no frame
of theirs is left either. Nothing of it is ever lost again. -/
structure Settled where
  isId : ℕ → UInt64 → Prop
  unowned : ℕ → Prop
  gone : ℕ → Prop

def settled (core : AsyncTunnelCore) (h : CloseHistory) (tasks : List TunnelTask) : Settled where
  isId ref sessionId := core.ledger.idOf ref = some sessionId
  unowned ref := ref < core.ledger.cells.length ∧ ref ∉ Ledger.owned (tokensOf tasks)
  gone ref := (ref < core.ledger.cells.length ∧ ref ∉ Ledger.owned (tokensOf tasks)) ∧
    ∀ entry ∈ h.queue, entry.1 ≠ ref

/-- What is settled stays settled. -/
structure Settled.Le (v w : Settled) : Prop where
  isId : ∀ {ref sessionId}, v.isId ref sessionId → w.isId ref sessionId
  unowned : ∀ {ref}, v.unowned ref → w.unowned ref
  gone : ∀ {ref}, v.gone ref → w.gone ref

/-- What a task relies on. -/
def TunnelTask.Knows (v : Settled) (drained : List ℕ) : TunnelTask → Prop
  | .opening (.countActive o ref) | .opening (.countTotal o ref) | .opening (.countRule o ref) =>
    v.isId ref o.sessionId
  | .opening (.announce sessionId _ ref) => v.isId ref sessionId
  | .close (.abort sessionId ref) | .close (.await sessionId ref) => v.isId ref sessionId
  | .close (.removeFrames sessionId ref) => v.isId ref sessionId ∧ v.unowned ref
  | .close (.uncountActive ref) | .close (.uncountRule ref) => v.gone ref
  | .closeAll (.next removed readers) | .closeAll (.uncountActive _ removed readers)
  | .closeAll (.uncountRule _ removed readers) =>
    ∀ ref ∈ drained, ref ∈ removed ∨ ref ∈ readers ∨ v.unowned ref
  | .closeAll (.await readers) => ∀ ref ∈ drained, ref ∈ readers ∨ v.unowned ref
  | _ => True

theorem TunnelTask.Knows.mono {v w : Settled} (hle : v.Le w) {drained : List ℕ} {t : TunnelTask}
    (h : t.Knows v drained) : t.Knows w drained := by
  have hlist : ∀ {removed readers : List ℕ},
      (∀ ref ∈ drained, ref ∈ removed ∨ ref ∈ readers ∨ v.unowned ref) →
        ∀ ref ∈ drained, ref ∈ removed ∨ ref ∈ readers ∨ w.unowned ref :=
    fun h ref href => (h ref href).imp_right (Or.imp_right hle.unowned)
  cases t with
  | opening task => cases task <;> first | exact hle.isId h | trivial
  | close task =>
    cases task <;> first | exact hle.isId h | exact hle.gone h | trivial |
      exact ⟨hle.isId h.1, hle.unowned h.2⟩
  | closeAll task =>
    cases task with
    | drain => trivial
    | await readers => exact fun ref href => (h ref href).imp_right hle.unowned
    | _ => exact hlist h
  | _ => trivial

/-- **The state of closing**: the labels of the frames are right, and whatever a task relies on and
whatever a returned call promises is settled. -/
structure ClosingState (core : AsyncTunnelCore) (h : CloseHistory)
    (tasks : List (TunnelTask × List ℕ)) : Prop where
  one : OneReader core (tasks.map (·.1))
  live : core.ledger.Live (tokensOf (tasks.map (·.1)))
  placed : core.ledger.Placed
  queue : h.queue.map (·.2) = core.outbound.frames.map (·.frame)
  labels : ∀ entry ∈ h.queue, core.ledger.idOf entry.1 = some entry.2.sessionId
  knows : ∀ t ∈ tasks, t.1.Knows (settled core h (tasks.map (·.1))) t.2
  returned : ∀ ref ∈ h.returned, (settled core h (tasks.map (·.1))).gone ref

section Turn

variable {core : AsyncTunnelCore} {h : CloseHistory} {answer : TunnelAnswer} {t : TunnelTask}
  {drained : List ℕ} {d : TunnelTurn} {rest : List TunnelTask}

/-- A turn leaves the frames in the queue there or removes them, and adds those of its session. -/
theorem mem_label {capacity : ℕ} {owned : List (ℕ × KtpFrame)} {effect : QueueEffect}
    {entry : ℕ × KtpFrame} (hentry : entry ∈ effect.label capacity owned) :
    entry ∈ owned ∨ effect = .push entry.1 entry.2 := by
  cases effect with
  | keep => exact Or.inl hentry
  | push ref frame =>
    rw [QueueEffect.label] at hentry
    split_ifs at hentry
    · exact Or.inl hentry
    · rcases List.mem_append.mp hentry with hentry | hentry
      · exact Or.inl hentry
      · rw [List.mem_singleton.mp hentry]
        exact Or.inr rfl
  | remove sessionId => exact Or.inl (List.mem_of_mem_filter hentry)
  | drain maxFrames => exact Or.inl (List.mem_of_mem_drop hentry)
  | clear => cases hentry

theorem settled_le (hone : OneReader core (t :: rest)) (hturn : t.turn answer core = some d) :
    (settled core h (t :: rest)).Le
      (settled d.shared (h.after core t drained) (d.tasks ++ rest)) := by
  obtain ⟨ts, ts', frame, hbefore, hafter, hstep⟩ :=
    t.ledgerMove answer (hone.rules t List.mem_cons_self) hturn
  have hpermBefore : (tokensOf (t :: rest)).Perm (ts ++ (frame ++ tokensOf rest)) := by
    rw [tokensOf_cons, ← List.append_assoc]
    exact hbefore.append_right _
  have hpermAfter : (tokensOf (d.tasks ++ rest)).Perm (ts' ++ (frame ++ tokensOf rest)) := by
    rw [tokensOf_append, ← List.append_assoc]
    exact hafter.append_right _
  have hunowned : ∀ {ref}, (settled core h (t :: rest)).unowned ref →
      (settled d.shared (h.after core t drained) (d.tasks ++ rest)).unowned ref := by
    rintro ref ⟨hlt, hnot⟩
    refine ⟨hlt.trans_le hstep.length_le, fun hn => ?_⟩
    exact hstep.not_owned hlt (fun hn => hnot ((Ledger.mem_owned_perm hpermBefore).mpr hn))
      ((Ledger.mem_owned_perm hpermAfter).mp hn)
  refine ⟨fun hid => hstep.idOf hid, hunowned, ?_⟩
  rintro ref ⟨hnot, hqueue⟩
  refine ⟨hunowned hnot, fun entry hentry href => ?_⟩
  rcases mem_label hentry with hentry | hpush
  · exact hqueue entry hentry href
  · refine hnot.2 ?_
    rw [tokensOf_cons, Ledger.owned_append, ← href]
    exact List.mem_append_left _ (TunnelTask.owned_of_push hpush)

theorem idOf_arena {ref : ℕ} {session : AsyncTunnelSession} (hs : core.arena[ref]? = some session) :
    core.ledger.idOf ref = some session.sessionId := by
  rw [Ledger.idOf, getElem?_cells, hs]
  rfl

/-- A frame is pushed under the id of its session. -/
theorem idOf_of_push {tasks : List TunnelTask} (hknows : t.Knows (settled core h tasks) drained)
    {ref : ℕ} {frame : KtpFrame} (hpush : t.effect core = .push ref frame) :
    core.ledger.idOf ref = some frame.sessionId := by
  cases t with
  | opening task =>
    cases task with
    | announce sessionId payload r =>
      simp only [TunnelTask.effect] at hpush
      split at hpush <;> cases hpush
      exact hknows
    | _ => cases hpush
  | reader r task =>
    cases task with
    | pushData chunk | pushClose =>
      cases hs : core.arena[r]? with
      | none =>
        rw [TunnelTask.effect, hs] at hpush
        cases hpush
      | some session =>
        rw [TunnelTask.effect, hs] at hpush
        cases hpush
        exact idOf_arena hs
    | _ => cases hpush
  | close task => cases task <;> cases hpush
  | closeAll task =>
    cases task with
    | await readers => cases readers <;> cases hpush
    | _ => cases hpush
  | _ => cases hpush

theorem lt_length_of_arena {ref : ℕ} {session : AsyncTunnelSession}
    (hs : core.arena[ref]? = some session) : ref < core.ledger.cells.length := by
  rw [length_cells]
  exact (List.getElem?_eq_some_iff.mp hs).1

/-- Nobody serves a session whose reader has ended. -/
theorem unowned_of_finished {tasks : List TunnelTask} (hlive : core.ledger.Live (tokensOf tasks))
    {ref : ℕ} (hfinished : core.arena[ref]?.map (·.readerStatus) = some .finished) :
    (settled core h tasks).unowned ref := by
  obtain ⟨session, hs, hstatus⟩ := Option.map_eq_some_iff.mp hfinished
  refine ⟨lt_length_of_arena hs, fun hn => ?_⟩
  obtain ⟨cell, hcell, hne⟩ := hlive ref hn
  rw [getElem?_cells, hs] at hcell
  cases hcell
  exact hne hstatus

/-- A reader that is aborted without a handle is not there. -/
theorem unowned_of_readerKnown (hknown : ReaderKnown core t rest answer) {ref : ℕ}
    (haborts : t.aborts answer = some ref) {session : AsyncTunnelSession}
    (hs : core.arena[ref]? = some session) (hhandle : ¬ session.readerHandle = true) :
    (settled core h (t :: rest)).unowned ref := by
  refine ⟨lt_length_of_arena hs, fun hn => ?_⟩
  have hrest := (hknown ref haborts session hs).resolve_left hhandle
  obtain ⟨u, hu, hserves⟩ := exists_serves_of_owned hn
  rcases List.mem_cons.mp hu with rfl | hu
  · cases u <;> first | cases haborts | cases hserves
  · exact hrest u hu hserves

theorem TunnelTask.knows_of_unbound {t : TunnelTask} (ht : t.unbound = true) {v : Settled} :
    t.Knows v drained := by
  cases t with
  | opening task => cases task <;> trivial
  | reader ref task | writer ref task => trivial
  | _ => cases ht

theorem OpenTask.knows_turn {task : OpenTask}
    (hle : (settled core h (.opening task :: rest)).Le
      (settled (task.turn answer core).shared (h.after core (.opening task) drained)
        ((task.turn answer core).tasks ++ rest)))
    (hknows : (TunnelTask.opening task).Knows (settled core h (.opening task :: rest)) drained) :
    ∀ u ∈ (task.turn answer core).tasks,
      u.Knows (settled (task.turn answer core).shared (h.after core (.opening task) drained)
        ((task.turn answer core).tasks ++ rest)) drained := by
  intro u hu
  rcases OpenTask.mem_tasks_turn hu with ⟨o, rfl, rfl⟩ | ⟨o, ref, rfl, rfl⟩ | ⟨o, ref, rfl, rfl⟩ |
    ⟨o, ref, rfl, rfl⟩ | hunbound
  · change (core.insertSession o.sessionId o.ruleId o.leg).ledger.idOf core.arena.length = _
    rw [ledger_insertSession, ← length_cells]
    simp [Ledger.idOf, Ledger.insert]
  · exact hle.isId hknows
  · exact hle.isId hknows
  · cases o with
    | egress => trivial
    | ingress => exact hle.isId hknows
  · exact TunnelTask.knows_of_unbound hunbound

theorem CloseTask.knows_turn {task : CloseTask} (hlabels : ∀ entry ∈ h.queue,
      core.ledger.idOf entry.1 = some entry.2.sessionId)
    (hlive : core.ledger.Live (tokensOf (.close task :: rest))) (hplaced : core.ledger.Placed)
    (hknown : ReaderKnown core (.close task) rest answer) (hturn : task.turn core = some d)
    (hle : (settled core h (.close task :: rest)).Le
      (settled d.shared (h.after core (.close task) drained) (d.tasks ++ rest)))
    (hknows : (TunnelTask.close task).Knows (settled core h (.close task :: rest)) drained) :
    ∀ u ∈ d.tasks, u.Knows
      (settled d.shared (h.after core (.close task) drained) (d.tasks ++ rest)) drained := by
  cases task with
  | remove sessionId =>
    cases hlookup : core.sessions.lookup sessionId with
    | none =>
      rw [CloseTask.turn, hlookup] at hturn
      cases hturn
      exact fun u hu => absurd hu List.not_mem_nil
    | some ref =>
      rw [CloseTask.turn, hlookup] at hturn
      cases hturn
      intro u hu
      cases List.mem_singleton.mp hu
      exact hle.isId (hplaced hlookup)
  | abort sessionId ref =>
    obtain ⟨session, hs, rfl⟩ := Option.map_eq_some_iff.mp hturn
    intro u hu
    rw [List.mem_singleton.mp hu]
    by_cases hhandle : session.readerHandle = true
    · rw [if_pos hhandle]
      exact hle.isId hknows
    · rw [if_neg hhandle] at hle ⊢
      exact ⟨hle.isId hknows, hle.unowned (unowned_of_readerKnown hknown rfl hs hhandle)⟩
  | await sessionId ref =>
    simp only [CloseTask.turn] at hturn
    split_ifs at hturn with hfinished
    cases hturn
    intro u hu
    cases List.mem_singleton.mp hu
    exact ⟨hle.isId hknows, hle.unowned (unowned_of_finished hlive hfinished)⟩
  | removeFrames sessionId ref =>
    cases hturn
    intro u hu
    cases List.mem_singleton.mp hu
    refine ⟨hle.unowned hknows.2, fun entry hentry href => ?_⟩
    -- the frames of the session have its id and were removed
    obtain ⟨hentry, hne⟩ := List.mem_filter.mp hentry
    have hid := hlabels entry hentry
    rw [href] at hid
    have hsame := Option.some.inj (hid.symm.trans hknows.1)
    exact of_decide_eq_true hne hsame
  | uncountActive ref =>
    cases hturn
    intro u hu
    cases List.mem_singleton.mp hu
    exact hle.gone hknows
  | uncountRule ref =>
    obtain ⟨session, hs, rfl⟩ := Option.map_eq_some_iff.mp hturn
    exact fun u hu => absurd hu List.not_mem_nil

theorem CloseAllTask.knows_turn {task : CloseAllTask}
    (hlive : core.ledger.Live (tokensOf (.closeAll task :: rest)))
    (hknown : ReaderKnown core (.closeAll task) rest answer) (hturn : task.turn answer core = some d)
    (hle : (settled core h (.closeAll task :: rest)).Le
      (settled d.shared (h.after core (.closeAll task) drained) (d.tasks ++ rest)))
    (hknows : (TunnelTask.closeAll task).Knows (settled core h (.closeAll task :: rest)) drained) :
    ∀ u ∈ d.tasks, u.Knows
      (settled d.shared (h.after core (.closeAll task) drained) (d.tasks ++ rest))
      ((TunnelTask.closeAll task).drains core drained) := by
  cases task with
  | drain =>
    cases hturn
    intro u hu
    cases List.mem_singleton.mp hu
    exact fun ref href => Or.inl href
  | next removed readers =>
    simp only [CloseAllTask.turn] at hturn
    split at hturn
    · rename_i hnone
      cases hturn
      intro u hu
      cases List.mem_singleton.mp hu
      have hnil : removed = [] := by
        by_contra hne
        have hlt := Nat.mod_lt answer.pick (List.length_pos_iff.mpr hne)
        exact absurd (List.getElem?_eq_none_iff.mp hnone) (Nat.not_le_of_lt hlt)
      subst hnil
      exact fun ref href =>
        ((hknows ref href).resolve_left List.not_mem_nil).imp_right hle.unowned
    · rename_i picked hpick
      obtain ⟨session, hs, rfl⟩ := Option.map_eq_some_iff.mp hturn
      obtain ⟨hlt, hget⟩ := List.getElem?_eq_some_iff.mp hpick
      have hperm := (List.getElem_cons_eraseIdx_perm hlt).symm
      rw [hget] at hperm
      intro u hu
      cases List.mem_singleton.mp hu
      intro ref href
      rcases hknows ref href with hremoved | hreader | hunowned
      · rcases List.mem_cons.mp (hperm.mem_iff.mp hremoved) with rfl | hleft
        · -- the session that is retired in this turn
          by_cases hhandle : session.readerHandle = true
          · rw [if_pos hhandle]
            exact Or.inr (Or.inl (List.mem_append_right _ List.mem_cons_self))
          · exact Or.inr (Or.inr
              (hle.unowned (unowned_of_readerKnown hknown hpick hs hhandle)))
        · exact Or.inl hleft
      · refine Or.inr (Or.inl ?_)
        split_ifs
        · exact List.mem_append_left _ hreader
        · exact hreader
      · exact Or.inr (Or.inr (hle.unowned hunowned))
  | uncountActive r removed readers =>
    cases hturn
    intro u hu
    cases List.mem_singleton.mp hu
    exact fun ref href => (hknows ref href).imp_right (Or.imp_right hle.unowned)
  | uncountRule r removed readers =>
    obtain ⟨session, hs, rfl⟩ := Option.map_eq_some_iff.mp hturn
    intro u hu
    cases List.mem_singleton.mp hu
    exact fun ref href => (hknows ref href).imp_right (Or.imp_right hle.unowned)
  | await readers =>
    cases readers with
    | nil =>
      cases hturn
      exact fun u hu => absurd hu List.not_mem_nil
    | cons r readers =>
      simp only [CloseAllTask.turn] at hturn
      split_ifs at hturn with hfinished
      cases hturn
      intro u hu
      cases List.mem_singleton.mp hu
      intro ref href
      rcases hknows ref href with hreader | hunowned
      · rcases List.mem_cons.mp hreader with rfl | hreader
        · exact Or.inr (hle.unowned (unowned_of_finished hlive hfinished))
        · exact Or.inl hreader
      · exact Or.inr (hle.unowned hunowned)

/-- What a returning call promises. -/
theorem gone_of_returns {tasks : List TunnelTask}
    (hle : (settled core h (t :: rest)).Le (settled d.shared (h.after core t drained) tasks))
    (hknows : t.Knows (settled core h (t :: rest)) drained) :
    ∀ ref ∈ t.returns drained, (settled d.shared (h.after core t drained) tasks).gone ref := by
  intro ref href
  cases t with
  | close task =>
    cases task with
    | uncountRule r =>
      cases List.mem_singleton.mp href
      exact hle.gone hknows
    | _ => cases href
  | closeAll task =>
    cases task with
    | await readers =>
      cases readers with
      | nil =>
        have hunowned := hle.unowned ((hknows ref href).resolve_left List.not_mem_nil)
        exact ⟨hunowned, fun entry hentry => absurd hentry List.not_mem_nil⟩
      | cons r readers => cases href
    | _ => cases href
  | _ => cases href

end Turn

/-! ## Runs -/

namespace ClosingState

variable {core : AsyncTunnelCore} {h : CloseHistory} {tasks rest : List (TunnelTask × List ℕ)}
  {t : TunnelTask × List ℕ}

theorem perm {tasks' : List (TunnelTask × List ℕ)} (hperm : tasks.Perm tasks')
    (hs : ClosingState core h tasks) : ClosingState core h tasks' := by
  have hplain : (tasks.map (·.1)).Perm (tasks'.map (·.1)) := hperm.map _
  have htokens : (tokensOf (tasks.map (·.1))).Perm (tokensOf (tasks'.map (·.1))) :=
    hplain.flatMap_right _
  have hunowned : ∀ {ref}, (settled core h (tasks.map (·.1))).unowned ref →
      (settled core h (tasks'.map (·.1))).unowned ref :=
    fun hn => ⟨hn.1, fun hmem => hn.2 ((Ledger.mem_owned_perm htokens).mpr hmem)⟩
  have hle : (settled core h (tasks.map (·.1))).Le (settled core h (tasks'.map (·.1))) :=
    ⟨fun hid => hid, hunowned, fun hgone => ⟨hunowned hgone.1, hgone.2⟩⟩
  exact {
    one := hs.one.perm hplain
    live := hs.live.perm htokens
    placed := hs.placed
    queue := hs.queue
    labels := hs.labels
    knows := fun t ht => (hs.knows t (hperm.mem_iff.mpr ht)).mono hle
    returned := fun ref href => hle.gone (hs.returned ref href) }

theorem start (op : TunnelOp) (hs : ClosingState core h tasks) :
    ClosingState core h ((op.task, []) :: tasks) := by
  have htokens : tokensOf (((op.task, ([] : List ℕ)) :: tasks).map (·.1)) =
      tokensOf (tasks.map (·.1)) := by
    rw [List.map_cons, tokensOf_cons, tokens_start, List.nil_append]
  have hsettled : settled core h (((op.task, ([] : List ℕ)) :: tasks).map (·.1)) =
      settled core h (tasks.map (·.1)) := by
    unfold settled
    rw [htokens]
  exact {
    one := hs.one.start op
    live := by
      rw [htokens]
      exact hs.live
    placed := hs.placed
    queue := hs.queue
    labels := hs.labels
    knows := by
      rw [hsettled]
      refine List.forall_mem_cons.mpr ⟨?_, hs.knows⟩
      cases op <;> trivial
    returned := by
      rw [hsettled]
      exact hs.returned }

theorem live_turn (hs : ClosingState core h (t :: rest)) {answer : TunnelAnswer} {d : TunnelTurn}
    (hturn : t.1.turn answer core = some d) :
    d.shared.ledger.Live (tokensOf (d.tasks ++ rest.map (·.1))) ∧ d.shared.ledger.Placed := by
  obtain ⟨ts, ts', frame, hbefore, hafter, hstep⟩ :=
    t.1.ledgerMove answer (hs.one.rules t.1 List.mem_cons_self) hturn
  have hperm : (tokensOf ((t :: rest).map (·.1))).Perm
      (ts ++ (frame ++ tokensOf (rest.map (·.1)))) := by
    rw [List.map_cons, tokensOf_cons, ← List.append_assoc]
    exact hbefore.append_right _
  refine ⟨((hs.live.perm hperm).step (hs.one.solo.perm hperm) hstep).perm ?_,
    Ledger.Placed.step (fun hn => hs.placed hn) hstep⟩
  rw [tokensOf_append, ← List.append_assoc]
  exact (hafter.append_right _).symm

theorem knows_turn (hs : ClosingState core h (t :: rest)) {answer : TunnelAnswer} {d : TunnelTurn}
    (hknown : ReaderKnown core t.1 (rest.map (·.1)) answer)
    (hturn : t.1.turn answer core = some d) :
    ∀ u ∈ d.tasks, u.Knows
      (settled d.shared (h.after core t.1 t.2) (d.tasks ++ rest.map (·.1))) (t.1.drains core t.2) := by
  have hle : (settled core h (t.1 :: rest.map (·.1))).Le
      (settled d.shared (h.after core t.1 t.2) (d.tasks ++ rest.map (·.1))) :=
    settled_le hs.one hturn
  have hknows := hs.knows t List.mem_cons_self
  have hlive := hs.live
  obtain ⟨t, drained⟩ := t
  cases t with
  | opening task =>
    cases hturn
    exact OpenTask.knows_turn hle hknows
  | close task => exact CloseTask.knows_turn hs.labels hlive hs.placed hknown hturn hle hknows
  | closeAll task => exact CloseAllTask.knows_turn hlive hknown hturn hle hknows
  | reader ref task | writer ref task | data task | nextFrames maxFrames =>
    intro u hu
    have hkind := (TunnelTask.frame_turn hturn nofun).1 u hu
    cases u <;> trivial

theorem turn (hs : ClosingState core h (t :: rest)) {answer : TunnelAnswer} {d : TunnelTurn}
    (hknown : ReaderKnown core t.1 (rest.map (·.1)) answer)
    (hturn : t.1.turn answer core = some d) :
    ClosingState d.shared (h.after core t.1 t.2)
      (d.tasks.map (·, t.1.drains core t.2) ++ rest) := by
  have hplain : (d.tasks.map (·, t.1.drains core t.2) ++ rest).map (·.1) =
      d.tasks ++ rest.map (·.1) := by
    simp [Function.comp_def]
  have hle : (settled core h (t.1 :: rest.map (·.1))).Le
      (settled d.shared (h.after core t.1 t.2) (d.tasks ++ rest.map (·.1))) :=
    settled_le hs.one hturn
  obtain ⟨hlive, hplaced⟩ := hs.live_turn hturn
  constructor
  · rw [hplain]
    exact hs.one.turn hturn
  · rw [hplain]
    exact hlive
  · exact hplaced
  · rw [(TunnelTask.core_turn hturn).2]
    exact QueueEffect.map_label hs.queue answer.now _
  · intro entry hentry
    rcases mem_label hentry with hentry | hpush
    · exact hle.isId (hs.labels entry hentry)
    · exact hle.isId (idOf_of_push (hs.knows t List.mem_cons_self) hpush)
  · rw [hplain]
    intro u hu
    rcases List.mem_append.mp hu with hu | hu
    · obtain ⟨v, hv, rfl⟩ := List.mem_map.mp hu
      exact hs.knows_turn hknown hturn v hv
    · exact (hs.knows u (List.mem_cons_of_mem _ hu)).mono hle
  · rw [hplain]
    intro ref href
    rcases List.mem_append.mp href with href | href
    · exact hle.gone (hs.returned ref href)
    · exact gone_of_returns hle (hs.knows t List.mem_cons_self) ref href

theorem empty (limits : TunnelRuntimeLimits) : ClosingState (.new limits) ⟨[], []⟩ [] where
  one := OneReader.empty limits
  live := fun _ hn => absurd hn List.not_mem_nil
  placed := fun hn => nomatch hn
  queue := rfl
  labels := fun _ hentry => absurd hentry List.not_mem_nil
  knows := fun _ ht => absurd ht List.not_mem_nil
  returned := fun _ href => absurd href List.not_mem_nil

end ClosingState

/-- **Closed sessions fall silent.** In every run in which each aborted reader has its handle
registered, or is not there, the history tells the sessions that the frames of the queue are of, and
none of them was removed by a call that has returned. -/
theorem closed_sessions_silent (limits : TunnelRuntimeLimits)
    {actions : List (Action TunnelAnswer TunnelOp)}
    {c : Config AsyncTunnelCore TunnelTask TunnelObservation}
    (halong : tunnelSystem.Along ReaderKnown (tunnelStart limits) actions)
    (hrun : tunnelSystem.run (tunnelStart limits) actions = some c) :
    ∃ d, (tunnelSystem.record closeHistory).run (closingStart limits) actions = some d ∧
      d.erase = c ∧
      d.shared.2.queue.map (·.2) = c.shared.outbound.frames.map (·.frame) ∧
      (∀ entry ∈ d.shared.2.queue,
        c.shared.arena[entry.1]?.map (·.sessionId) = some entry.2.sessionId) ∧
      ∀ ref ∈ d.shared.2.returned, ∀ entry ∈ d.shared.2.queue, entry.1 ≠ ref := by
  have herase : (closingStart limits).erase = tunnelStart limits := rfl
  rw [← herase] at halong hrun
  obtain ⟨d, hd, rfl⟩ := tunnelSystem.exists_record closeHistory hrun
  have hs := @System.inv_run _ _ _ _ _ (tunnelSystem.record closeHistory)
    (fun s t ts answer => ReaderKnown s.1 t.1 (ts.map (·.1)) answer)
    (fun s tasks _ => ClosingState s.1 s.2 tasks)
    (fun hperm hs => hs.perm hperm) (fun op hs => hs.start op)
    (fun hs hknown hstep => by
      obtain ⟨d', hturn, rfl⟩ := Option.map_eq_some_iff.mp hstep
      exact hs.turn hknown hturn)
    _ _ _ (ClosingState.empty limits) (tunnelSystem.along_record closeHistory halong) hd
  refine ⟨d, hd, rfl, hs.queue, fun entry hentry => ?_, fun ref href => (hs.returned ref href).2⟩
  have hid := hs.labels entry hentry
  rw [Ledger.idOf, getElem?_cells, Option.map_map] at hid
  exact hid

/-! ### A close during an accept -/

/-- The accept of a connection, up to the start of its reader. -/
def acceptUpToReader : List (Action TunnelAnswer TunnelOp) :=
  .start (.accept ⟨7, "127.0.0.1", 8080, "127.0.0.1:40000"⟩) ::
    List.replicate 8 (.turn 0 (oneByte 97))

/-- The accept is completed, and the session is closed. -/
def acceptThenClose : List (Action TunnelAnswer TunnelOp) :=
  acceptUpToReader ++ List.replicate 2 (.turn 0 (oneByte 97)) ++
    [.start (.closeSession 1), .turn 0 (oneByte 97), .turn 0 (oneByte 97), .turn 2 (oneByte 97)] ++
    List.replicate 4 (.turn 0 (oneByte 97))

theorem closed_sessions_silent_accepted :
    tunnelSystem.Along ReaderKnown (tunnelStart .default) acceptThenClose ∧
    ∃ d, (tunnelSystem.record closeHistory).run (closingStart .default) acceptThenClose = some d ∧
      d.shared.2.returned = [0] ∧
      ∀ ref ∈ d.shared.2.returned, ∀ entry ∈ d.shared.2.queue, entry.1 ≠ ref := by
  have halong : tunnelSystem.Along ReaderKnown (tunnelStart .default) acceptThenClose := by
    decide +kernel
  obtain ⟨d, hd, -, -, -, hsilent⟩ := closed_sessions_silent .default halong rfl
  refine ⟨halong, d, hd, ?_, hsilent⟩
  have hreturned : ((tunnelSystem.record closeHistory).run (closingStart .default)
      acceptThenClose).map (·.shared.2.returned) = some [0] := by decide +kernel
  rw [hd] at hreturned
  exact Option.some.inj hreturned

/-- The session is closed before the handle of its reader is registered: the close returns, and then
the reader queues what it reads. -/
theorem close_during_accept_misses_reader :
    ∃ d, (tunnelSystem.record closeHistory).run (closingStart .default)
        (acceptUpToReader ++ .start (.closeSession 1) :: List.replicate 5 (.turn 0 (oneByte 97)) ++
          [.turn 1 (oneByte 97), .turn 0 (oneByte 97), .turn 0 (oneByte 97)]) = some d ∧
      d.shared.2.returned = [0] ∧ d.shared.1.sessions.lookup 1 = none ∧
      d.shared.1.outbound.frames.map (·.frame) = [dataFrame .ingress 1 [97]] ∧
      d.shared.2.queue = [(0, dataFrame .ingress 1 [97])] := by
  refine ⟨_, rfl, ?_, ?_, ?_, ?_⟩ <;> decide +kernel

end KeliAgent
