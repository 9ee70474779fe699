import KeliAgent.Tunnel.Ledger
import KeliAgent.Tunnel.Tasks

/-!
# Accounting of sessions

The interleaved core refines the ledger of sessions: each turn of a task is a step of the ledger
(**`turn_step`**), where the tokens of a task say what it still owes. So whatever the
interleaving, in every state with nothing half done the counters are exact and a reader only ever
removes its own session, provided that

* a session is inserted only under an id all of whose earlier sessions have ended, and
* no session is taken out of the map between its insertion and the end of its counting

(**`sessions_accounted`**). Without the first, a repeated id leaves a session counted for ever
(`repeated_id_leaks_count`).
-/

namespace KeliAgent

open Interleave AsyncTunnelCore

/-! ## The ledger of a core -/

def AsyncTunnelSession.cell (session : AsyncTunnelSession) : LedgerCell where
  sessionId := session.sessionId
  ruleId := session.ruleId
  status := session.readerStatus
  aborted := session.readerAborted

namespace AsyncTunnelCore

def ledger (core : AsyncTunnelCore) : Ledger where
  sessions := core.sessions
  cells := core.arena.map (·.cell)
  active := core.stats.activeSessions
  ruleCounts := core.stats.ruleSessionCounts

section Ledger

variable (core : AsyncTunnelCore)

theorem length_cells : core.ledger.cells.length = core.arena.length := by
  simp [ledger]

theorem getElem?_cells (ref : ℕ) :
    core.ledger.cells[ref]? = core.arena[ref]?.map (·.cell) := by
  simp [ledger]

theorem ledger_modifySession {ref : ℕ} {f : AsyncTunnelSession → AsyncTunnelSession}
    (g : LedgerCell → LedgerCell)
    (hf : ∀ session, core.arena[ref]? = some session → (f session).cell = g session.cell) :
    (core.modifySession ref f).ledger = core.ledger.modifyCell ref g := by
  have hcells : (core.arena.modify ref f).map (·.cell) =
      (core.arena.map (·.cell)).modify ref g := by
    refine List.ext_getElem? fun i => ?_
    rw [List.getElem?_map, List.getElem?_modify, List.getElem?_modify, List.getElem?_map]
    by_cases hi : ref = i
    · subst hi
      cases hs : core.arena[ref]? with
      | none => rfl
      | some session => simp [hf session hs]
    · simp [hi]
  rw [ledger, modifySession, hcells]
  rfl

/-- Changes to the channel or the counter of pending bytes do not concern the ledger. -/
theorem ledger_modifySession_same {ref : ℕ} {f : AsyncTunnelSession → AsyncTunnelSession}
    (hf : ∀ session, core.arena[ref]? = some session → (f session).cell = session.cell) :
    (core.modifySession ref f).ledger = core.ledger := by
  rw [ledger_modifySession core id hf, Ledger.modifyCell, List.modify_id]

theorem ledger_insertSession (sessionId ruleId : UInt64) (leg : FrameLeg) :
    (core.insertSession sessionId ruleId leg).ledger = core.ledger.insert sessionId ruleId := by
  simp [ledger, insertSession, Ledger.insert, AsyncTunnelSession.cell, AsyncTunnelSession.new]

theorem ledger_spawnSessionReader (ref : ℕ) :
    (core.spawnSessionReader ref).ledger = core.ledger.setStatus ref .running :=
  ledger_modifySession core _ fun _ _ => rfl

theorem ledger_finishReader (ref : ℕ) :
    (core.finishReader ref).ledger = core.ledger.setStatus ref .finished :=
  ledger_modifySession core _ fun _ _ => rfl

@[simp] theorem ledger_setReaderTask (ref : ℕ) : (core.setReaderTask ref).ledger = core.ledger :=
  ledger_modifySession_same core fun _ _ => rfl

@[simp] theorem ledger_dropReceiver (ref : ℕ) : (core.dropReceiver ref).ledger = core.ledger :=
  ledger_modifySession_same core fun _ _ => rfl

theorem ledger_abortReader {ref : ℕ} {session : AsyncTunnelSession}
    (hs : core.arena[ref]? = some session) :
    (core.abortReader ref).ledger =
      if session.readerHandle then core.ledger.abort ref else core.ledger := by
  by_cases hhandle : session.readerHandle
  · rw [if_pos hhandle]
    refine ledger_modifySession core _ fun session' hs' => ?_
    cases Option.some.inj (hs.symm.trans hs')
    rw [if_pos hhandle]
    rfl
  · rw [if_neg hhandle]
    refine ledger_modifySession_same core fun session' hs' => ?_
    cases Option.some.inj (hs.symm.trans hs')
    rw [if_neg hhandle]

@[simp] theorem ledger_announce (sessionId : UInt64) (payload : TunnelSessionOpenPayload)
    (now : ℕ) : (core.announce sessionId payload now).2.ledger = core.ledger := by
  unfold announce
  cases encodeSessionOpenPayload payload <;> rfl

@[simp] theorem ledger_nextFrames (maxFrames now : ℕ) :
    (core.nextFrames maxFrames now).2.ledger = core.ledger := by
  have hdwell : ∀ (queued : List QueuedKtpFrame) (stats : TunnelRuntimeStats),
      (AsyncTunnelFrameQueue.recordDwell stats now queued).activeSessions = stats.activeSessions ∧
        (AsyncTunnelFrameQueue.recordDwell stats now queued).ruleSessionCounts =
          stats.ruleSessionCounts := by
    intro queued
    induction queued with
    | nil => exact fun _ => ⟨rfl, rfl⟩
    | cons frame queued ih => exact fun stats => ih _
  obtain ⟨hactive, hrules⟩ := hdwell (core.outbound.frames.take maxFrames) core.stats
  simp [ledger, nextFrames, AsyncTunnelFrameQueue.drain, hactive, hrules]

end Ledger

end AsyncTunnelCore

/-! ## The tokens of tasks -/

def OpenTask.tokens : OpenTask → List Token
  | .countActive _ ref => [⟨.uncounted, ref⟩]
  | .countTotal _ ref | .countRule _ ref => [⟨.unruled, ref⟩]
  | .announce _ _ ref | .spawnReader _ ref => [⟨.opening, ref⟩]
  | _ => []

def ReaderTask.tokens (ref : ℕ) : ReaderTask → List Token
  | .uncountActive => [⟨.ending, ref⟩]
  | .uncountRule => [⟨.endingRule, ref⟩]
  | _ => [⟨.reader, ref⟩]

def CloseTask.tokens : CloseTask → List Token
  | .remove _ => []
  | .abort _ ref | .await _ ref | .removeFrames _ ref | .uncountActive ref => [⟨.closing, ref⟩]
  | .uncountRule ref => [⟨.closingRule, ref⟩]

def CloseAllTask.tokens : CloseAllTask → List Token
  | .drain | .await _ => []
  | .next removed _ => removed.map (⟨.closing, ·⟩)
  | .uncountActive ref removed _ => ⟨.closing, ref⟩ :: removed.map (⟨.closing, ·⟩)
  | .uncountRule ref removed _ => ⟨.closingRule, ref⟩ :: removed.map (⟨.closing, ·⟩)

def TunnelTask.tokens : TunnelTask → List Token
  | .opening task => task.tokens
  | .reader ref task => task.tokens ref
  | .close task => task.tokens
  | .closeAll task => task.tokens
  | .writer _ _ | .data _ | .nextFrames _ => []

def tokensOf (tasks : List TunnelTask) : List Token := tasks.flatMap TunnelTask.tokens

@[simp] theorem tokensOf_nil : tokensOf [] = [] := rfl

@[simp] theorem tokensOf_cons (t : TunnelTask) (ts : List TunnelTask) :
    tokensOf (t :: ts) = t.tokens ++ tokensOf ts := by
  simp [tokensOf]

@[simp] theorem tokensOf_append (ts us : List TunnelTask) :
    tokensOf (ts ++ us) = tokensOf ts ++ tokensOf us := by
  simp [tokensOf]

/-- The step of the ledger that a turn of the task makes. -/
def TunnelTask.action (core : AsyncTunnelCore) : TunnelTask → Ledger.Action
  | .opening (.insert o) => .insert o.sessionId
  | .close (.remove sessionId) => (core.sessions.lookup sessionId).elim .other .remove
  | .closeAll .drain => .drain
  | _ => .other

/-- An operation counts the session that it opened for the rule of that session. -/
def TunnelTask.RuleKnown (l : Ledger) : TunnelTask → Prop
  | .opening (.countActive o ref) | .opening (.countTotal o ref)
  | .opening (.countRule o ref) => l.ruleOf ref = some o.ruleId
  | _ => True

/-! ## Turns are steps of the ledger -/

/-- The turn is a step of the ledger on some of the tokens of the task. -/
def LedgerMove (core : AsyncTunnelCore) (t : TunnelTask) (d : TunnelTurn) : Prop :=
  ∃ ts ts' frame, t.tokens.Perm (ts ++ frame) ∧ (tokensOf d.tasks).Perm (ts' ++ frame) ∧
    Ledger.Step core.ledger (t.action core) ts d.shared.ledger ts'

section Moves

variable {core : AsyncTunnelCore} {t : TunnelTask} {d : TunnelTurn}

/-- A turn that does not concern the ledger. -/
theorem ledgerMove_idle (haction : t.action core = .other) (hledger : d.shared.ledger = core.ledger)
    (htokens : tokensOf d.tasks = t.tokens) : LedgerMove core t d := by
  refine ⟨[], [], t.tokens, List.Perm.refl _, htokens ▸ List.Perm.refl _, ?_⟩
  rw [haction, hledger]
  exact .idle

/-- A turn that uses all tokens of its task. -/
theorem ledgerMove_step
    (h : Ledger.Step core.ledger (t.action core) t.tokens d.shared.ledger (tokensOf d.tasks)) :
    LedgerMove core t d :=
  ⟨t.tokens, tokensOf d.tasks, [], by simp, by simp, h⟩

theorem OpenTask.ledgerMove (answer : TunnelAnswer) (core : AsyncTunnelCore) (task : OpenTask)
    (hrule : (TunnelTask.opening task).RuleKnown core.ledger) :
    LedgerMove core (.opening task) (task.turn answer core) := by
  cases task with
  | egressCheck sessionId ruleId =>
    unfold OpenTask.turn
    cases core.ensureAgentSessionCapacity <;> exact ledgerMove_idle rfl rfl rfl
  | egressDial sessionId ruleId =>
    unfold OpenTask.turn
    cases dialResult answer.dial <;> exact ledgerMove_idle rfl rfl rfl
  | ingressCheck sessionId payload =>
    unfold OpenTask.turn
    cases core.ensureAgentSessionCapacity <;> exact ledgerMove_idle rfl rfl rfl
  | drawId payload => exact ledgerMove_idle rfl rfl rfl
  | insert opening =>
    apply ledgerMove_step
    simp only [OpenTask.turn, ledger_insertSession, ← length_cells]
    exact .insert opening.sessionId opening.ruleId
  | countActive opening ref => exact ledgerMove_step (.countActive ref)
  | countTotal opening ref => exact ledgerMove_idle rfl rfl rfl
  | countRule opening ref =>
    apply ledgerMove_step
    cases opening <;> exact .countRule hrule
  | announce sessionId payload ref =>
    have hledger := ledger_announce core sessionId payload answer.now
    simp only [OpenTask.turn]
    split <;> rename_i h <;> rw [h] at hledger
    · apply ledgerMove_step
      simp only [ledger_dropReceiver, hledger]
      exact .giveUp ref
    · exact ledgerMove_idle rfl hledger rfl
  | spawnReader opening ref =>
    apply ledgerMove_step
    simp only [OpenTask.turn, ledger_spawnSessionReader]
    exact .spawn ref
  | spawnWriter opening ref => exact ledgerMove_idle rfl rfl rfl
  | setReader opening ref => exact ledgerMove_idle rfl (ledger_setReaderTask core ref) rfl

theorem ReaderTask.ledgerMove_push (answer : TunnelAnswer) (core : AsyncTunnelCore) (ref : ℕ)
    (frame : KtpFrame) {task next : ReaderTask} (htokens : next.tokens ref = task.tokens ref) :
    LedgerMove core (.reader ref task) (ReaderTask.push answer core ref frame next) := by
  obtain ⟨seen, hpush⟩ := ReaderTask.exists_push core answer ref frame next
  rw [hpush]
  refine ledgerMove_idle rfl rfl ?_
  rw [tokensOf_cons, tokensOf_nil, List.append_nil]
  exact htokens

theorem ReaderTask.ledgerMove (answer : TunnelAnswer) {core : AsyncTunnelCore} {ref : ℕ}
    {session : AsyncTunnelSession} (hs : core.arena[ref]? = some session) (task : ReaderTask) :
    LedgerMove core (.reader ref task) (task.turn answer core ref session) := by
  have hcell : core.ledger.cells[ref]? = some session.cell := by
    rw [getElem?_cells, hs, Option.map_some]
  have hrule : core.ledger.ruleOf ref = some session.ruleId := by
    rw [Ledger.ruleOf, hcell]
    rfl
  cases task with
  | read =>
    simp only [ReaderTask.turn]
    by_cases haborted : session.readerAborted = true
    · rw [if_pos haborted]
      apply ledgerMove_step
      simp only [ledger_finishReader]
      exact .cancel hcell haborted
    · rw [if_neg haborted]
      split <;> exact ledgerMove_idle rfl rfl rfl
  | countBytes chunk => exact ledgerMove_idle rfl rfl rfl
  | pushData chunk => exact ledgerMove_push answer core ref _ rfl
  | pushClose => exact ledgerMove_push answer core ref _ rfl
  | remove =>
    apply ledgerMove_step
    simp only [ReaderTask.turn]
    split
    · rename_i hnone
      simp only [ledger_finishReader]
      exact .leave hcell hnone
    · rename_i hsome
      exact .removeOwn hcell hsome
  | uncountActive => exact ledgerMove_step (.endActive ref)
  | uncountRule =>
    apply ledgerMove_step
    simp only [ReaderTask.turn, ledger_finishReader]
    exact .endRule hrule

theorem WriterTask.ledgerMove (answer : TunnelAnswer) {core : AsyncTunnelCore} {ref : ℕ}
    {session : AsyncTunnelSession} (hs : core.arena[ref]? = some session) (task : WriterTask)
    {d : TunnelTurn} (hturn : task.turn answer core ref session = some d) :
    LedgerMove core (.writer ref task) d := by
  have hsame : ∀ session' : AsyncTunnelSession, session'.cell = session.cell →
      (core.modifySession ref fun _ => session').ledger = core.ledger := by
    intro session' hcell
    refine ledger_modifySession_same core fun s h => ?_
    rw [hcell, Option.some.inj (h.symm.trans hs)]
  cases task with
  | receive =>
    simp only [WriterTask.turn] at hturn
    split at hturn <;> cases hturn
    exact ledgerMove_idle rfl (hsame _ rfl) rfl
  | countBytes payload =>
    cases hturn
    exact ledgerMove_idle rfl rfl rfl
  | write payload =>
    simp only [WriterTask.turn] at hturn
    split at hturn <;> cases hturn <;> exact ledgerMove_idle rfl rfl rfl
  | release payload done =>
    cases hturn
    exact ledgerMove_idle rfl (hsame _ rfl) (by cases done <;> rfl)
  | stop =>
    cases hturn
    exact ledgerMove_idle rfl (ledger_dropReceiver core ref) rfl

theorem DataTask.ledgerMove {core : AsyncTunnelCore} (task : DataTask) {d : TunnelTurn}
    (hturn : task.turn core = some d) : LedgerMove core (.data task) d := by
  have hsame : ∀ {ref : ℕ} {session session' : AsyncTunnelSession},
      core.arena[ref]? = some session → session'.cell = session.cell →
        (core.modifySession ref fun _ => session').ledger = core.ledger := by
    intro ref session session' hs hcell
    refine ledger_modifySession_same core fun s h => ?_
    rw [hcell, Option.some.inj (h.symm.trans hs)]
  cases task with
  | lookup sessionId payload =>
    simp only [DataTask.turn] at hturn
    split at hturn <;> cases hturn <;> exact ledgerMove_idle rfl rfl rfl
  | reserve ref payload =>
    obtain ⟨session, hs, rfl⟩ := Option.map_eq_some_iff.mp hturn
    split
    · exact ledgerMove_idle rfl rfl rfl
    · rename_i reserved hreserve
      refine ledgerMove_idle rfl (hsame hs ?_) rfl
      simp only [AsyncTunnelSession.reservePendingBytes] at hreserve
      split_ifs at hreserve
      cases hreserve
      rfl
  | send ref payload =>
    obtain ⟨session, hs, rfl⟩ := Option.map_eq_some_iff.mp hturn
    split
    · rename_i sent hsend
      refine ledgerMove_idle rfl (hsame hs ?_) rfl
      simp only [AsyncTunnelSession.trySend] at hsend
      split_ifs at hsend
      cases hsend
      rfl
    · exact ledgerMove_idle rfl rfl rfl
  | release ref payload =>
    cases hturn
    exact ledgerMove_idle rfl (ledger_modifySession_same core fun _ _ => rfl) rfl

theorem CloseTask.ledgerMove {core : AsyncTunnelCore} (task : CloseTask) {d : TunnelTurn}
    (hturn : task.turn core = some d) : LedgerMove core (.close task) d := by
  cases task with
  | remove sessionId =>
    cases hlookup : core.sessions.lookup sessionId with
    | none =>
      have haction : (TunnelTask.close (.remove sessionId)).action core = .other :=
        congrArg (Option.elim · _ _) hlookup
      rw [CloseTask.turn, hlookup] at hturn
      cases hturn
      exact ledgerMove_idle haction rfl rfl
    | some ref =>
      have haction : (TunnelTask.close (.remove sessionId)).action core = .remove ref :=
        congrArg (Option.elim · _ _) hlookup
      rw [CloseTask.turn, hlookup] at hturn
      cases hturn
      apply ledgerMove_step
      rw [haction]
      exact .remove hlookup
  | abort sessionId ref =>
    obtain ⟨session, hs, rfl⟩ := Option.map_eq_some_iff.mp hturn
    have hledger := ledger_abortReader core hs
    by_cases hhandle : session.readerHandle
    · rw [if_pos hhandle] at hledger
      apply ledgerMove_step
      simp only [hledger, if_pos hhandle]
      exact .abort ref
    · rw [if_neg hhandle] at hledger
      refine ledgerMove_idle rfl hledger ?_
      simp only [if_neg hhandle]
      rfl
  | await sessionId ref =>
    simp only [CloseTask.turn] at hturn
    split_ifs at hturn
    cases hturn
    exact ledgerMove_idle rfl rfl rfl
  | removeFrames sessionId ref =>
    cases hturn
    exact ledgerMove_idle rfl rfl rfl
  | uncountActive ref =>
    cases hturn
    exact ledgerMove_step (.closeActive ref)
  | uncountRule ref =>
    obtain ⟨session, hs, rfl⟩ := Option.map_eq_some_iff.mp hturn
    refine ledgerMove_step (.closeRule ?_)
    rw [Ledger.ruleOf, getElem?_cells, hs]
    rfl

theorem CloseAllTask.ledgerMove (answer : TunnelAnswer) {core : AsyncTunnelCore}
    (task : CloseAllTask) {d : TunnelTurn} (hturn : task.turn answer core = some d) :
    LedgerMove core (.closeAll task) d := by
  cases task with
  | drain =>
    cases hturn
    apply ledgerMove_step
    simp only [tokensOf_cons, tokensOf_nil, List.append_nil]
    exact .drain
  | next removed readers =>
    simp only [CloseAllTask.turn] at hturn
    split at hturn
    · rename_i hnone
      cases hturn
      -- no session is left
      have hnil : removed = [] := by
        by_contra hne
        have hlt := Nat.mod_lt answer.pick (List.length_pos_iff.mpr hne)
        exact absurd (List.getElem?_eq_none_iff.mp hnone) (Nat.not_le_of_lt hlt)
      subst hnil
      exact ledgerMove_idle rfl rfl rfl
    · rename_i ref hpick
      obtain ⟨session, hs, rfl⟩ := Option.map_eq_some_iff.mp hturn
      obtain ⟨hlt, rfl⟩ := List.getElem?_eq_some_iff.mp hpick
      have hperm := (List.getElem_cons_eraseIdx_perm hlt).symm
      have hledger := ledger_abortReader core hs
      split_ifs at hledger
      · refine ⟨[⟨.closing, removed[answer.pick % removed.length]⟩],
          [⟨.closing, removed[answer.pick % removed.length]⟩],
          (removed.eraseIdx (answer.pick % removed.length)).map (⟨.closing, ·⟩), ?_, ?_, ?_⟩
        · exact hperm.map (Token.mk .closing)
        · simp only [tokensOf_cons, tokensOf_nil, List.append_nil]
          exact List.Perm.refl _
        · rw [hledger]
          exact .abort _
      · refine ⟨[], [], removed.map (⟨.closing, ·⟩), List.Perm.refl _, ?_, ?_⟩
        · simp only [tokensOf_cons, tokensOf_nil, List.append_nil]
          exact (hperm.map (Token.mk .closing)).symm
        · rw [hledger]
          exact .idle
  | uncountActive ref removed readers =>
    cases hturn
    refine ⟨_, _, removed.map (⟨.closing, ·⟩), List.Perm.refl _, ?_, .closeActive ref⟩
    simp only [tokensOf_cons, tokensOf_nil, List.append_nil]
    exact List.Perm.refl _
  | uncountRule ref removed readers =>
    obtain ⟨session, hs, rfl⟩ := Option.map_eq_some_iff.mp hturn
    refine ⟨_, _, removed.map (⟨.closing, ·⟩), List.Perm.refl _, ?_, .closeRule ?_⟩
    · simp only [tokensOf_cons, tokensOf_nil, List.append_nil]
      exact List.Perm.refl _
    · rw [Ledger.ruleOf, getElem?_cells, hs]
      rfl
  | await readers =>
    cases readers with
    | nil =>
      cases hturn
      exact ledgerMove_idle rfl rfl rfl
    | cons ref readers =>
      simp only [CloseAllTask.turn] at hturn
      split_ifs at hturn
      cases hturn
      exact ledgerMove_idle rfl rfl rfl

/-- **A turn is a step of the ledger.** -/
theorem TunnelTask.ledgerMove (answer : TunnelAnswer) {core : AsyncTunnelCore} {t : TunnelTask}
    (hrule : t.RuleKnown core.ledger) {d : TunnelTurn} (hturn : t.turn answer core = some d) :
    LedgerMove core t d := by
  cases t with
  | opening task =>
    cases hturn
    exact task.ledgerMove answer core hrule
  | reader ref task =>
    obtain ⟨session, hs, rfl⟩ := Option.map_eq_some_iff.mp hturn
    exact task.ledgerMove answer hs
  | writer ref task =>
    obtain ⟨session, hs, hturn⟩ := Option.bind_eq_some_iff.mp hturn
    exact task.ledgerMove answer hs hturn
  | data task => exact task.ledgerMove hturn
  | close task => exact task.ledgerMove hturn
  | closeAll task => exact task.ledgerMove answer hturn
  | nextFrames maxFrames =>
    cases hturn
    exact ledgerMove_idle rfl (ledger_nextFrames core maxFrames answer.now) rfl

end Moves

/-! ## Turns in order -/

/-- The session that the task has put into the map and has yet to count. -/
def TunnelTask.counting : TunnelTask → Option ℕ
  | .opening (.countActive _ ref) | .opening (.countTotal _ ref) | .opening (.countRule _ ref) =>
    some ref
  | _ => none

/-- A session is inserted only under an id whose earlier sessions have all ended, and none is taken
out of the map while the task that opened it still counts it. -/
def InOrder (core : AsyncTunnelCore) (t : TunnelTask) (rest : List TunnelTask)
    (_ : TunnelAnswer) : Prop :=
  match t.action core with
  | .insert sessionId =>
    ∀ session ∈ core.arena, session.sessionId = sessionId → session.readerStatus = .finished
  | .remove ref => ∀ u ∈ rest, u.counting ≠ some ref
  | .drain => ∀ u ∈ rest, u.counting = none
  | .other => True

instance (core : AsyncTunnelCore) (t : TunnelTask) (rest : List TunnelTask)
    (answer : TunnelAnswer) : Decidable (InOrder core t rest answer) := by
  unfold InOrder
  exact match t.action core with
  | .insert sessionId => inferInstanceAs (Decidable (∀ session ∈ core.arena,
      session.sessionId = sessionId → session.readerStatus = .finished))
  | .remove ref => inferInstanceAs (Decidable (∀ u ∈ rest, u.counting ≠ some ref))
  | .drain => inferInstanceAs (Decidable (∀ u ∈ rest, u.counting = none))
  | .other => inferInstanceAs (Decidable True)

/-- Only a task that counts a session holds a token that lacks a count. -/
theorem TunnelTask.counting_of_lacksRule {t : TunnelTask} {token : Token} (htoken : token ∈ t.tokens)
    (hlacks : token.duty.lacksRule = true) : t.counting = some token.ref := by
  cases t with
  | opening task =>
    cases task <;> simp only [TunnelTask.tokens, OpenTask.tokens, List.mem_singleton,
      List.not_mem_nil] at htoken <;> subst htoken <;> first | rfl | cases hlacks
  | reader ref task =>
    cases task <;> simp only [TunnelTask.tokens, ReaderTask.tokens, List.mem_singleton] at htoken <;>
      subst htoken <;> cases hlacks
  | close task =>
    cases task <;> simp only [TunnelTask.tokens, CloseTask.tokens, List.mem_singleton,
      List.not_mem_nil] at htoken <;> subst htoken <;> cases hlacks
  | closeAll task =>
    have hduty : token.duty = .closing ∨ token.duty = .closingRule := by
      cases task <;> simp only [TunnelTask.tokens, CloseAllTask.tokens, List.mem_cons,
        List.mem_map, List.not_mem_nil] at htoken <;> aesop
    rcases hduty with h | h <;> rw [h] at hlacks <;> cases hlacks
  | writer | data | nextFrames => cases htoken

/-- A turn that needs an order uses no tokens of its task. -/
theorem TunnelTask.tokens_of_action {core : AsyncTunnelCore} {t : TunnelTask}
    (h : t.action core ≠ .other) : t.tokens = [] := by
  cases t with
  | opening task => cases task <;> first | rfl | exact absurd rfl h
  | close task => cases task <;> first | rfl | exact absurd rfl h
  | closeAll task => cases task <;> first | rfl | exact absurd rfl h
  | _ => exact absurd rfl h

theorem orderly_of_inOrder {core : AsyncTunnelCore} {t : TunnelTask} {rest : List TunnelTask}
    {answer : TunnelAnswer} (h : InOrder core t rest answer) {frame : List Token}
    (hframe : frame ⊆ t.tokens) :
    core.ledger.Orderly (frame ++ tokensOf rest) (t.action core) := by
  have hrest : t.action core ≠ .other → ∀ token ∈ frame ++ tokensOf rest,
      ∃ u ∈ rest, token ∈ u.tokens := by
    intro haction token htoken
    rcases List.mem_append.mp htoken with htoken | htoken
    · have := hframe htoken
      rw [TunnelTask.tokens_of_action haction] at this
      cases this
    · exact List.mem_flatMap.mp htoken
  unfold InOrder at h
  cases haction : t.action core with
  | other => trivial
  | insert sessionId =>
    rw [haction] at h
    intro cell hcell hid
    obtain ⟨session, hsession, rfl⟩ := List.mem_map.mp hcell
    exact h session hsession hid
  | remove ref =>
    rw [haction] at h hrest
    intro token htoken hlacks href
    obtain ⟨u, hu, htoken⟩ := hrest nofun token htoken
    exact h u hu (href ▸ TunnelTask.counting_of_lacksRule htoken hlacks)
  | drain =>
    rw [haction] at h hrest
    intro token htoken
    obtain ⟨u, hu, htoken⟩ := hrest nofun token htoken
    by_contra hlacks
    rw [Bool.not_eq_false] at hlacks
    have := h u hu
    rw [TunnelTask.counting_of_lacksRule htoken hlacks] at this
    cases this

/-! ## Runs -/

theorem TunnelTask.ruleKnown_of_unbound {t : TunnelTask} (h : t.unbound = true) {l : Ledger} :
    t.RuleKnown l := by
  cases t with
  | opening task => cases task <;> trivial
  | _ => trivial

/-- What a turn leaves behind still knows the rule of its session. -/
theorem ruleKnown_turn {answer : TunnelAnswer} {core : AsyncTunnelCore} {t : TunnelTask}
    {d : TunnelTurn} (hturn : t.turn answer core = some d) (hrule : t.RuleKnown core.ledger)
    {a : Ledger.Action} {ts ts' : List Token}
    (hstep : Ledger.Step core.ledger a ts d.shared.ledger ts') :
    ∀ u ∈ d.tasks, u.RuleKnown d.shared.ledger := by
  have hkept : ∀ {ref : ℕ} {ruleId : UInt64}, core.ledger.ruleOf ref = some ruleId →
      d.shared.ledger.ruleOf ref = some ruleId := fun h => hstep.ruleOf h
  cases t with
  | opening task =>
    cases hturn
    intro u hu
    rcases OpenTask.mem_tasks_turn hu with ⟨o, rfl, rfl⟩ | ⟨o, ref, rfl, rfl⟩ | ⟨o, ref, rfl, rfl⟩ |
      ⟨o, ref, rfl, rfl⟩ | hunbound
    · change (core.insertSession o.sessionId o.ruleId o.leg).ledger.ruleOf core.arena.length = _
      rw [ledger_insertSession, ← length_cells]
      simp [Ledger.ruleOf, Ledger.insert]
    · exact hkept hrule
    · exact hkept hrule
    · cases o <;> trivial
    · exact TunnelTask.ruleKnown_of_unbound hunbound
  | reader ref task | writer ref task | data task | close task | closeAll task
  | nextFrames maxFrames =>
    intro u hu
    cases u with
    | opening task' =>
      have hkind := (TunnelTask.frame_turn hturn (by simp [TunnelTask.kind])).1 _ hu
      cases hkind
    | _ => trivial

theorem rulesKnown_turn {answer : TunnelAnswer} {core : AsyncTunnelCore} {t : TunnelTask}
    {rest : List TunnelTask} {d : TunnelTurn} (hturn : t.turn answer core = some d)
    (hrules : ∀ u ∈ t :: rest, u.RuleKnown core.ledger) {a : Ledger.Action} {ts ts' : List Token}
    (hstep : Ledger.Step core.ledger a ts d.shared.ledger ts') :
    ∀ u ∈ d.tasks ++ rest, u.RuleKnown d.shared.ledger := by
  intro u hu
  rcases List.mem_append.mp hu with hu | hu
  · exact ruleKnown_turn hturn (hrules t List.mem_cons_self) hstep u hu
  · have hknown := hrules u (List.mem_cons_of_mem _ hu)
    cases u with
    | opening task => cases task <;> first | trivial | exact hstep.ruleOf hknown
    | _ => trivial

theorem tokens_start (op : TunnelOp) : op.task.tokens = [] := by
  cases op <;> rfl

theorem ruleKnown_start (op : TunnelOp) (l : Ledger) : op.task.RuleKnown l := by
  cases op <;> trivial

/-- No session has two tasks that open it or read for it. -/
structure OneReader (core : AsyncTunnelCore) (tasks : List TunnelTask) : Prop where
  solo : core.ledger.Solo (tokensOf tasks)
  rules : ∀ t ∈ tasks, t.RuleKnown core.ledger

namespace OneReader

variable {core : AsyncTunnelCore} {t : TunnelTask} {tasks rest : List TunnelTask}

theorem perm {tasks' : List TunnelTask} (hperm : tasks.Perm tasks') (h : OneReader core tasks) :
    OneReader core tasks' where
  solo := h.solo.perm (hperm.flatMap_right _)
  rules := fun t ht => h.rules t (hperm.mem_iff.mpr ht)

theorem start (op : TunnelOp) (h : OneReader core tasks) : OneReader core (op.task :: tasks) where
  solo := by
    rw [tokensOf_cons, tokens_start]
    exact h.solo
  rules := List.forall_mem_cons.mpr ⟨ruleKnown_start op _, h.rules⟩

theorem turn (h : OneReader core (t :: rest)) {answer : TunnelAnswer} {d : TunnelTurn}
    (hturn : t.turn answer core = some d) : OneReader d.shared (d.tasks ++ rest) := by
  obtain ⟨ts, ts', frame, hbefore, hafter, hstep⟩ :=
    t.ledgerMove answer (h.rules t List.mem_cons_self) hturn
  refine ⟨?_, rulesKnown_turn hturn h.rules hstep⟩
  have hsolo : core.ledger.Solo (ts ++ (frame ++ tokensOf rest)) := by
    refine h.solo.perm ?_
    rw [tokensOf_cons, ← List.append_assoc]
    exact hbefore.append_right _
  refine (hsolo.step hstep).perm ?_
  rw [tokensOf_append, ← List.append_assoc]
  exact (hafter.append_right _).symm

theorem empty (limits : TunnelRuntimeLimits) : OneReader (.new limits) [] :=
  ⟨Ledger.inv_empty.solo, fun _ ht => absurd ht List.not_mem_nil⟩

/-- The reader of a session is its only one. -/
theorem kind_ne (h : OneReader core (t :: rest)) {ref : ℕ} (hkind : t.kind = .reader ref) :
    ∀ u ∈ rest, u.kind ≠ .reader ref := by
  intro u hu hkind'
  have howner : ∀ v : TunnelTask, v.kind = .reader ref →
      ∃ duty : Duty, v.tokens = [⟨duty, ref⟩] ∧ duty.owns = true := by
    intro v hv
    cases v with
    | reader r task =>
      cases hv
      cases task <;> exact ⟨_, rfl, rfl⟩
    | _ => cases hv
  obtain ⟨duty, htokens, howns⟩ := howner t hkind
  obtain ⟨duty', htokens', howns'⟩ := howner u hkind'
  have hsolo := h.solo
  rw [tokensOf_cons, htokens] at hsolo
  have hmem : ⟨duty', ref⟩ ∈ tokensOf rest :=
    List.mem_flatMap.mpr ⟨u, hu, htokens' ▸ List.mem_singleton.mpr rfl⟩
  have hnone := hsolo.other howns hmem rfl
  rw [howns'] at hnone
  cases hnone

end OneReader

/-- The ledger of the core is consistent with what its tasks still owe. -/
structure Accounted (core : AsyncTunnelCore) (tasks : List TunnelTask) : Prop where
  inv : core.ledger.Inv (tokensOf tasks)
  rules : ∀ t ∈ tasks, t.RuleKnown core.ledger

namespace Accounted

variable {core : AsyncTunnelCore} {t : TunnelTask} {tasks rest : List TunnelTask}

theorem perm {tasks' : List TunnelTask} (hperm : tasks.Perm tasks') (h : Accounted core tasks) :
    Accounted core tasks' where
  inv := h.inv.perm (hperm.flatMap_right _)
  rules := fun t ht => h.rules t (hperm.mem_iff.mpr ht)

theorem start (op : TunnelOp) (h : Accounted core tasks) :
    Accounted core (op.task :: tasks) where
  inv := by
    rw [tokensOf_cons, tokens_start]
    exact h.inv
  rules := List.forall_mem_cons.mpr ⟨ruleKnown_start op _, h.rules⟩

theorem turn (h : Accounted core (t :: rest)) {answer : TunnelAnswer}
    (horder : InOrder core t rest answer) {d : TunnelTurn}
    (hturn : t.turn answer core = some d) : Accounted d.shared (d.tasks ++ rest) := by
  obtain ⟨ts, ts', frame, hbefore, hafter, hstep⟩ :=
    t.ledgerMove answer (h.rules t List.mem_cons_self) hturn
  refine ⟨?_, rulesKnown_turn hturn h.rules hstep⟩
  have hinv : core.ledger.Inv (ts ++ (frame ++ tokensOf rest)) := by
    refine h.inv.perm ?_
    rw [tokensOf_cons, ← List.append_assoc]
    exact hbefore.append_right _
  have hframe : frame ⊆ t.tokens :=
    fun token htoken => hbefore.mem_iff.mpr (List.mem_append_right _ htoken)
  refine (hinv.step hstep (orderly_of_inOrder horder hframe)).perm ?_
  rw [tokensOf_append, ← List.append_assoc]
  exact (hafter.append_right _).symm

theorem run (limits : TunnelRuntimeLimits) {actions : List (Action TunnelAnswer TunnelOp)}
    {c : Config AsyncTunnelCore TunnelTask TunnelObservation}
    (halong : tunnelSystem.Along InOrder (tunnelStart limits) actions)
    (hrun : tunnelSystem.run (tunnelStart limits) actions = some c) :
    Accounted c.shared c.tasks := by
  have hstart : Accounted (tunnelStart limits).shared (tunnelStart limits).tasks :=
    ⟨Ledger.inv_empty, fun t ht => absurd ht List.not_mem_nil⟩
  exact @System.inv_run _ _ _ _ _ tunnelSystem InOrder (fun core tasks _ => Accounted core tasks)
    (fun hperm h => h.perm hperm) (fun op h => h.start op)
    (fun h horder hturn => h.turn horder hturn) _ _ _ hstart halong hrun

end Accounted

/-! ## The counters -/

/-- The task is between its first and its last update of the map and the counters. -/
def TunnelTask.halfDone : TunnelTask → Bool
  | .opening (.countActive _ _) | .opening (.countTotal _ _) | .opening (.countRule _ _)
  | .opening (.announce _ _ _) | .opening (.spawnReader _ _) => true
  | .reader _ .uncountActive | .reader _ .uncountRule => true
  | .close (.remove _) | .closeAll .drain | .closeAll (.await _) => false
  | .close _ | .closeAll _ => true
  | _ => false

theorem TunnelTask.duty_of_not_halfDone {t : TunnelTask} (h : t.halfDone = false) :
    ∀ token ∈ t.tokens, token.duty = .reader := by
  intro token htoken
  cases t with
  | opening task => cases task <;> first | cases h; done | cases htoken
  | reader ref task => cases task <;> first | cases h; done | cases List.mem_singleton.mp htoken; rfl
  | close task => cases task <;> first | cases h; done | cases htoken
  | closeAll task => cases task <;> first | cases h; done | cases htoken
  | _ => cases htoken

/-- The number of sessions of a rule in the map. -/
def AsyncTunnelCore.sessionsOfRule (core : AsyncTunnelCore) (ruleId : UInt64) : ℕ :=
  core.sessions.entries.countP fun entry =>
    core.arena[entry.2]?.map (·.ruleId) = some ruleId

theorem AsyncTunnelCore.countP_refs (core : AsyncTunnelCore) (ruleId : UInt64) :
    core.ledger.refs.countP (core.ledger.hasRule ruleId) = core.sessionsOfRule ruleId := by
  rw [Ledger.refs, List.countP_map, sessionsOfRule]
  refine List.countP_congr fun entry _ => ?_
  simp only [Function.comp_apply, Ledger.hasRule, Ledger.ruleOf, getElem?_cells, Option.map_map]
  rfl

/-- **The accounting of sessions.** In every state that is reached in order: the sessions in the map
are there under their ids and their readers have not ended; a reader about to remove a session
finds its own one or none; and when nothing is half done, both counters are exact, so that nothing
is counted once all sessions have ended. -/
theorem sessions_accounted (limits : TunnelRuntimeLimits)
    {actions : List (Action TunnelAnswer TunnelOp)}
    {c : Config AsyncTunnelCore TunnelTask TunnelObservation}
    (halong : tunnelSystem.Along InOrder (tunnelStart limits) actions)
    (hrun : tunnelSystem.run (tunnelStart limits) actions = some c) :
    (∀ sessionId ref, c.shared.sessions.lookup sessionId = some ref →
      ∃ session, c.shared.arena[ref]? = some session ∧ session.sessionId = sessionId ∧
        session.readerStatus ≠ .finished) ∧
    (∀ ref session, .reader ref .remove ∈ c.tasks → c.shared.arena[ref]? = some session →
      ∀ found ∈ c.shared.sessions.lookup session.sessionId, found = ref) ∧
    ((∀ t ∈ c.tasks, t.halfDone = false) →
      c.shared.stats.activeSessions = c.shared.sessions.entries.length ∧
      (∀ ruleId, c.shared.stats.ruleSessionCounts ruleId = c.shared.sessionsOfRule ruleId) ∧
      ((∀ session ∈ c.shared.arena, session.readerStatus = .finished) →
        c.shared.stats.activeSessions = 0)) := by
  have h := Accounted.run limits halong hrun
  refine ⟨?_, ?_, ?_⟩
  · intro sessionId ref hlookup
    obtain ⟨cell, hcell, hid, hstatus, -⟩ := h.inv.consistent.held hlookup
    rw [getElem?_cells] at hcell
    obtain ⟨session, hs, rfl⟩ := Option.map_eq_some_iff.mp hcell
    exact ⟨session, hs, hid, hstatus⟩
  · intro ref session hmem hs found hfound
    have hcell : c.shared.ledger.cells[ref]? = some session.cell := by
      rw [getElem?_cells, hs, Option.map_some]
    obtain ⟨cell, hcell', hstatus⟩ :=
      h.inv.good ⟨.reader, ref⟩ (List.mem_flatMap.mpr ⟨_, hmem, List.mem_singleton.mpr rfl⟩)
    cases Option.some.inj (hcell.symm.trans hcell')
    refine h.inv.consistent.own hcell ?_ hfound
    rw [show session.cell.status = .running from hstatus]
    exact nofun
  · intro hdone
    have hreaders : ∀ token ∈ tokensOf c.tasks, token.duty = .reader := by
      intro token htoken
      obtain ⟨t, ht, htoken⟩ := List.mem_flatMap.mp htoken
      exact TunnelTask.duty_of_not_halfDone (hdone t ht) token htoken
    obtain ⟨hactive, hrules⟩ := h.inv.settled hreaders
    refine ⟨hactive.trans (List.length_map _), fun ruleId => ?_, fun hended => ?_⟩
    · exact (hrules ruleId).trans (c.shared.countP_refs ruleId)
    · have hrefs := h.inv.consistent.refs_of_finished (by
        intro cell hcell
        obtain ⟨session, hsession, rfl⟩ := List.mem_map.mp hcell
        exact hended session hsession)
      exact hactive.trans (by rw [hrefs]; rfl)

/-! ### A repeated id -/

/-- The turns of an egress open that is not interrupted. -/
def openFirst (sessionId : UInt64) : List (Action TunnelAnswer TunnelOp) :=
  .start (.openEgress sessionId 7) :: List.replicate 9 (.turn 0 endOfStream)

/-- The reader at a position meets the end of its stream and ends. -/
def readerEnds (position turns : ℕ) : List (Action TunnelAnswer TunnelOp) :=
  .turn position endOfStream :: List.replicate turns (.turn 0 endOfStream)

theorem sessions_accounted_reopened :
    tunnelSystem.Along InOrder (tunnelStart .default)
      (openFirst 1 ++ readerEnds 1 4 ++ openFirst 1 ++ readerEnds 1 4) ∧
    ∃ c, tunnelSystem.run (tunnelStart .default)
        (openFirst 1 ++ readerEnds 1 4 ++ openFirst 1 ++ readerEnds 1 4) = some c ∧
      c.shared.stats.activeSessions = 0 := by
  have halong : tunnelSystem.Along InOrder (tunnelStart .default)
      (openFirst 1 ++ readerEnds 1 4 ++ openFirst 1 ++ readerEnds 1 4) := by decide +kernel
  refine ⟨halong, _, rfl, ?_⟩
  exact ((sessions_accounted .default halong rfl).2.2 (by decide +kernel)).2.2 (by decide +kernel)

/-- The server opens the id `1` twice. The reader of the first session is then about to remove the
second one; and when both readers have ended and the map is empty, one session is still counted. -/
theorem repeated_id_leaks_count :
    (∃ c, tunnelSystem.run (tunnelStart .default)
        (openFirst 1 ++ openFirst 1 ++ readerEnds 3 1) = some c ∧
      .reader 0 .remove ∈ c.tasks ∧ c.shared.arena[0]?.map (·.sessionId) = some 1 ∧
      c.shared.sessions.lookup 1 = some 1) ∧
    ∃ c, tunnelSystem.run (tunnelStart .default)
        (openFirst 1 ++ openFirst 1 ++ readerEnds 3 4 ++ readerEnds 1 2) = some c ∧
      (∀ t ∈ c.tasks, t.halfDone = false) ∧
      (∀ session ∈ c.shared.arena, session.readerStatus = .finished) ∧
      c.shared.sessions.entries.length = 0 ∧ c.shared.stats.activeSessions = 1 := by
  refine ⟨⟨_, rfl, ?_, ?_, ?_⟩, _, rfl, ?_, ?_, ?_, ?_⟩ <;> decide +kernel

end KeliAgent
