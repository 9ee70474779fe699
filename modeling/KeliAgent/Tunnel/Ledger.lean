import KeliAgent.Tunnel.Core

/-!
# The ledger of sessions

What the counters of the core are for, apart from frames and bytes: the map of the sessions, the
number of active sessions and the number of sessions of each rule. The three are updated one after
the other, so between two updates a task owes the ledger something. A `Token` says what: a session
that is in the map but not yet counted, or out of it but still counted.

* `Ledger.Step`: all updates, each with the tokens it takes and gives.
* `Solo`: a session has at most one task that opens it or reads for it; kept by every step.
* `Balanced`: a counter and what it lacks are the sessions in the map and what it owes.
* **`Inv.step`**: the ledger stays consistent, if no session is inserted under the id of
  another one whose reader has not ended, and none is removed before it is counted (`Orderly`).
* **`Inv.settled`**: when nothing is owed, the counters are the numbers of sessions in the map.
-/

namespace KeliAgent

/-- A session, as the ledger sees it. -/
structure LedgerCell where
  sessionId : UInt64
  ruleId : UInt64
  status : ReaderStatus
  aborted : Bool
  deriving DecidableEq, Repr

structure Ledger where
  sessions : AList fun _ : UInt64 => ℕ
  cells : List LedgerCell
  active : ℕ
  ruleCounts : UInt64 → ℕ

/-- What a task has yet to do about a session: count it, count it for its rule, spawn its reader;
read for it; uncount it, uncount it for its rule, as its reader or as the one who closes it. -/
inductive Duty where
  | uncounted | unruled | opening
  | reader | ending | endingRule
  | closing | closingRule
  deriving DecidableEq, Repr

namespace Duty

/-- The duties of the task that opens the session and then of its reader. -/
def owns : Duty → Bool
  | .closing | .closingRule => false
  | _ => true

def lacksActive : Duty → Bool
  | .uncounted => true
  | _ => false

def lacksRule : Duty → Bool
  | .uncounted | .unruled => true
  | _ => false

def owesActive : Duty → Bool
  | .ending | .closing => true
  | _ => false

def owesRule : Duty → Bool
  | .ending | .endingRule | .closing | .closingRule => true
  | _ => false

end Duty

structure Token where
  duty : Duty
  ref : ℕ
  deriving DecidableEq, Repr

namespace Ledger

section Definitions

variable (l : Ledger)

/-- The sessions in the map. -/
def refs : List ℕ := l.sessions.entries.map (·.2)

def ruleOf (n : ℕ) : Option UInt64 := l.cells[n]?.map (·.ruleId)

def insert (sessionId ruleId : UInt64) : Ledger :=
  { l with
    sessions := l.sessions.insert sessionId l.cells.length
    cells := l.cells ++ [⟨sessionId, ruleId, .notSpawned, false⟩] }

def erase (sessionId : UInt64) : Ledger := { l with sessions := l.sessions.erase sessionId }

def clear : Ledger := { l with sessions := ∅ }

def modifyCell (n : ℕ) (f : LedgerCell → LedgerCell) : Ledger :=
  { l with cells := l.cells.modify n f }

def setStatus (n : ℕ) (status : ReaderStatus) : Ledger :=
  l.modifyCell n fun cell => { cell with status }

def abort (n : ℕ) : Ledger := l.modifyCell n fun cell => { cell with aborted := true }

def setActive (active : ℕ) : Ledger := { l with active }

def setRule (ruleId : UInt64) (count : ℕ) : Ledger :=
  { l with ruleCounts := Function.update l.ruleCounts ruleId count }

end Definitions

/-- The steps that need not always be in order. -/
inductive Action where
  | insert (sessionId : UInt64)
  | remove (n : ℕ)
  | drain
  | other
  deriving DecidableEq, Repr

/-- The updates of the ledger: what is done, the tokens taken, the ledger after it, and the tokens
given. -/
inductive Step (l : Ledger) : Action → List Token → Ledger → List Token → Prop where
  | idle : Step l .other [] l []
  | insert (sessionId ruleId : UInt64) :
    Step l (.insert sessionId) [] (l.insert sessionId ruleId) [⟨.uncounted, l.cells.length⟩]
  | countActive (n : ℕ) :
    Step l .other [⟨.uncounted, n⟩] (l.setActive (l.active + 1)) [⟨.unruled, n⟩]
  | countRule {n : ℕ} {ruleId : UInt64} (hrule : l.ruleOf n = some ruleId) :
    Step l .other [⟨.unruled, n⟩] (l.setRule ruleId (l.ruleCounts ruleId + 1)) [⟨.opening, n⟩]
  | giveUp (n : ℕ) : Step l .other [⟨.opening, n⟩] l []
  | spawn (n : ℕ) : Step l .other [⟨.opening, n⟩] (l.setStatus n .running) [⟨.reader, n⟩]
  | cancel {n : ℕ} {cell : LedgerCell} (hcell : l.cells[n]? = some cell) (h : cell.aborted = true) :
    Step l .other [⟨.reader, n⟩] (l.setStatus n .finished) []
  | leave {n : ℕ} {cell : LedgerCell} (hcell : l.cells[n]? = some cell)
      (h : l.sessions.lookup cell.sessionId = none) :
    Step l .other [⟨.reader, n⟩] (l.setStatus n .finished) []
  | removeOwn {n m : ℕ} {cell : LedgerCell} (hcell : l.cells[n]? = some cell)
      (h : l.sessions.lookup cell.sessionId = some m) :
    Step l .other [⟨.reader, n⟩] (l.erase cell.sessionId) [⟨.ending, n⟩]
  | endActive (n : ℕ) :
    Step l .other [⟨.ending, n⟩] (l.setActive (l.active - 1)) [⟨.endingRule, n⟩]
  | endRule {n : ℕ} {ruleId : UInt64} (hrule : l.ruleOf n = some ruleId) :
    Step l .other [⟨.endingRule, n⟩]
      ((l.setRule ruleId (l.ruleCounts ruleId - 1)).setStatus n .finished) []
  | remove {sessionId : UInt64} {n : ℕ} (h : l.sessions.lookup sessionId = some n) :
    Step l (.remove n) [] (l.erase sessionId) [⟨.closing, n⟩]
  | drain : Step l .drain [] l.clear (l.refs.map (⟨.closing, ·⟩))
  | abort (n : ℕ) : Step l .other [⟨.closing, n⟩] (l.abort n) [⟨.closing, n⟩]
  | closeActive (n : ℕ) :
    Step l .other [⟨.closing, n⟩] (l.setActive (l.active - 1)) [⟨.closingRule, n⟩]
  | closeRule {n : ℕ} {ruleId : UInt64} (hrule : l.ruleOf n = some ruleId) :
    Step l .other [⟨.closingRule, n⟩] (l.setRule ruleId (l.ruleCounts ruleId - 1)) []

/-! ## The map -/

section Map

variable {l : Ledger} {sessionId : UInt64} {n : ℕ}

theorem mem_refs : n ∈ l.refs ↔ ∃ sessionId, l.sessions.lookup sessionId = some n := by
  rw [refs, List.mem_map]
  constructor
  · rintro ⟨⟨sessionId, m⟩, hmem, rfl⟩
    exact ⟨sessionId, AList.mem_lookup_iff.mpr hmem⟩
  · rintro ⟨sessionId, h⟩
    exact ⟨⟨sessionId, n⟩, AList.mem_lookup_iff.mp h, rfl⟩

theorem refs_insert (ruleId : UInt64) (h : l.sessions.lookup sessionId = none) :
    (l.insert sessionId ruleId).refs = l.cells.length :: l.refs := by
  rw [refs, insert, AList.entries_insert_of_notMem (AList.lookup_eq_none.mp h), List.map_cons, refs]

theorem refs_erase (h : l.sessions.lookup sessionId = some n) :
    l.refs.Perm (n :: (l.erase sessionId).refs) := by
  have hmem : sessionId ∈ l.sessions := AList.lookup_isSome.mp (by rw [h]; rfl)
  obtain ⟨m, l₁, l₂, -, hentries, herase⟩ := List.exists_of_kerase hmem
  have hm : m = n := by
    have hentry : ⟨sessionId, m⟩ ∈ l.sessions.entries := by
      rw [hentries]
      exact List.mem_append_right _ List.mem_cons_self
    exact Option.some.inj ((AList.mem_lookup_iff.mpr hentry).symm.trans h)
  subst hm
  have hrefs : (l.erase sessionId).refs = (l₁ ++ l₂).map (·.2) := by
    rw [← herase]
    rfl
  rw [hrefs, refs, hentries, List.map_append, List.map_append, List.map_cons]
  exact List.perm_middle

end Map

/-! ## One task for each session -/

/-- The sessions that the tokens own. -/
def owned (tokens : List Token) : List ℕ := (tokens.filter (·.duty.owns)).map (·.ref)

/-- A session has at most one task that opens it or reads for it. -/
def Solo (l : Ledger) (tokens : List Token) : Prop :=
  (owned tokens).Nodup ∧ ∀ n ∈ owned tokens, n < l.cells.length

theorem owned_append (ts us : List Token) : owned (ts ++ us) = owned ts ++ owned us := by
  simp [owned]

theorem Solo.perm {l : Ledger} {ts us : List Token} (hperm : ts.Perm us) (h : Solo l ts) :
    Solo l us := by
  have howned : (owned ts).Perm (owned us) := (hperm.filter _).map _
  exact ⟨howned.nodup h.1, fun n hn => h.2 n (howned.mem_iff.mpr hn)⟩

/-- A step passes on the sessions of its tokens, or adds a new one. -/
theorem Step.owned_cases {l l' : Ledger} {a : Action} {ts ts' : List Token}
    (h : Step l a ts l' ts') :
    l.cells.length ≤ l'.cells.length ∧ (owned ts').Sublist (owned ts) ∨
      ts = [] ∧ owned ts' = [l.cells.length] ∧ l'.cells.length = l.cells.length + 1 := by
  cases h with
  | insert sessionId ruleId => exact Or.inr ⟨rfl, rfl, by simp [Ledger.insert]⟩
  | drain =>
    refine Or.inl ⟨le_rfl, ?_⟩
    have hnone : owned (l.refs.map (⟨.closing, ·⟩)) = [] := by simp [owned, Duty.owns]
    rw [hnone]
    exact List.nil_sublist _
  | _ =>
    refine Or.inl ⟨?_, ?_⟩
    · simp [setStatus, Ledger.abort, modifyCell, setActive, setRule, erase]
    · simp [owned, Duty.owns]

theorem Solo.step {l l' : Ledger} {a : Action} {ts ts' rest : List Token}
    (h : Solo l (ts ++ rest)) (hstep : Step l a ts l' ts') : Solo l' (ts' ++ rest) := by
  obtain ⟨hnodup, hknown⟩ := h
  rw [owned_append] at hnodup hknown
  rw [Solo, owned_append]
  rcases hstep.owned_cases with ⟨hlen, hsub⟩ | ⟨rfl, hnew, hlen⟩
  · have hsub' := hsub.append_right (owned rest)
    exact ⟨hnodup.sublist hsub', fun n hn => (hknown n (hsub'.subset hn)).trans_le hlen⟩
  · simp only [owned, List.filter_nil, List.map_nil, List.nil_append] at hnodup hknown
    rw [hnew, hlen]
    refine ⟨List.nodup_cons.mpr ⟨fun hn => lt_irrefl _ (hknown _ hn), hnodup⟩, ?_⟩
    intro n hn
    rcases List.mem_cons.mp hn with rfl | hn
    · exact Nat.lt_succ_self _
    · exact (hknown n hn).trans (Nat.lt_succ_self _)

/-! ## The map, the sessions and the tokens -/

/-- A session in the map is there under its id, not ended and not aborted; and a session that has
not ended is the only one that may be in the map under its id. -/
structure Consistent (l : Ledger) : Prop where
  held : ∀ {sessionId n}, l.sessions.lookup sessionId = some n →
    ∃ cell, l.cells[n]? = some cell ∧ cell.sessionId = sessionId ∧ cell.status ≠ .finished ∧
      cell.aborted = false
  own : ∀ {n m cell}, l.cells[n]? = some cell → cell.status ≠ .finished →
    l.sessions.lookup cell.sessionId = some m → m = n

/-- What a duty tells about its session. -/
def Fits (l : Ledger) (duty : Duty) (n : ℕ) (cell : LedgerCell) : Prop :=
  match duty with
  | .uncounted | .unruled =>
    cell.status = .notSpawned ∧ l.sessions.lookup cell.sessionId = some n
  | .opening => cell.status = .notSpawned
  | .reader => cell.status = .running
  | .ending | .endingRule => cell.status = .running ∧ l.sessions.lookup cell.sessionId ≠ some n
  | .closing | .closingRule => l.sessions.lookup cell.sessionId ≠ some n

/-- Only what the id of the session finds matters. -/
theorem Fits.congr {l l' : Ledger} {duty : Duty} {n : ℕ} {cell : LedgerCell}
    (h : l.Fits duty n cell)
    (hlookup : l'.sessions.lookup cell.sessionId = l.sessions.lookup cell.sessionId) :
    l'.Fits duty n cell := by
  unfold Fits at h ⊢
  rw [hlookup]
  exact h

def Good (l : Ledger) (token : Token) : Prop :=
  ∃ cell, l.cells[token.ref]? = some cell ∧ l.Fits token.duty token.ref cell

theorem Good.lt_length {l : Ledger} {token : Token} (h : l.Good token) :
    token.ref < l.cells.length := by
  obtain ⟨cell, hcell, -⟩ := h
  exact (List.getElem?_eq_some_iff.mp hcell).1

theorem Consistent.lt_length {l : Ledger} (h : l.Consistent) {n : ℕ} (hn : n ∈ l.refs) :
    n < l.cells.length := by
  obtain ⟨sessionId, hlookup⟩ := mem_refs.mp hn
  obtain ⟨cell, hcell, -⟩ := h.held hlookup
  exact (List.getElem?_eq_some_iff.mp hcell).1

theorem getElem?_modifyCell (l : Ledger) (n m : ℕ) (f : LedgerCell → LedgerCell) :
    (l.modifyCell n f).cells[m]? = if n = m then l.cells[m]?.map f else l.cells[m]? := by
  rw [modifyCell, List.getElem?_modify]
  split_ifs <;> simp

section Insert

variable {l : Ledger} {sessionId : UInt64}

/-- All sessions that were created under the id have ended. -/
def Free (l : Ledger) (sessionId : UInt64) : Prop :=
  ∀ cell ∈ l.cells, cell.sessionId = sessionId → cell.status = .finished

theorem Consistent.lookup_of_free (h : l.Consistent) (hfree : l.Free sessionId) :
    l.sessions.lookup sessionId = none := by
  by_contra hsome
  obtain ⟨n, hn⟩ := Option.ne_none_iff_exists'.mp hsome
  obtain ⟨cell, hcell, hid, hstatus, -⟩ := h.held hn
  exact hstatus (hfree cell (List.mem_of_getElem? hcell) hid)

theorem getElem?_insert {n : ℕ} {cell : LedgerCell} (h : l.cells[n]? = some cell)
    (sessionId ruleId : UInt64) : (l.insert sessionId ruleId).cells[n]? = some cell :=
  (List.getElem?_append_left (List.getElem?_eq_some_iff.mp h).1).trans h

theorem Consistent.insert (h : l.Consistent) (hfree : l.Free sessionId) (ruleId : UInt64) :
    (l.insert sessionId ruleId).Consistent where
  held := by
    intro i n hn
    by_cases hi : i = sessionId
    · subst hi
      have hlen : l.cells.length = n := by simpa [Ledger.insert] using hn
      subst hlen
      exact ⟨⟨i, ruleId, .notSpawned, false⟩, by simp [Ledger.insert], rfl, nofun, rfl⟩
    · have hn' : l.sessions.lookup i = some n := by
        simpa [Ledger.insert, AList.lookup_insert_ne hi] using hn
      obtain ⟨cell, hcell, hcell'⟩ := h.held hn'
      exact ⟨cell, getElem?_insert hcell sessionId ruleId, hcell'⟩
  own := by
    intro n m cell hcell hstatus hm
    rcases lt_or_ge n l.cells.length with hlt | hge
    · -- an earlier session that has not ended has another id
      have hcell' : l.cells[n]? = some cell :=
        (List.getElem?_append_left hlt).symm.trans hcell
      have hne : cell.sessionId ≠ sessionId :=
        fun he => hstatus (hfree cell (List.mem_of_getElem? hcell') he)
      rw [Ledger.insert, AList.lookup_insert_ne hne] at hm
      exact h.own hcell' hstatus hm
    · have hn : n = l.cells.length := by
        have := (List.getElem?_eq_some_iff.mp hcell).1
        simp only [Ledger.insert, List.length_append, List.length_singleton] at this
        omega
      subst hn
      have hnew : cell.sessionId = sessionId := by
        have hc : some (⟨sessionId, ruleId, .notSpawned, false⟩ : LedgerCell) = some cell := by
          simpa [Ledger.insert] using hcell
        cases hc
        rfl
      rw [hnew] at hm
      simpa [Ledger.insert] using hm.symm

theorem Good.insert {token : Token} (h : l.Good token) (hfree : l.Free sessionId)
    (ruleId : UInt64) : (l.insert sessionId ruleId).Good token := by
  have hlt := h.lt_length
  obtain ⟨cell, hcell, hfits⟩ := h
  refine ⟨cell, getElem?_insert hcell sessionId ruleId, ?_⟩
  by_cases hid : cell.sessionId = sessionId
  · -- the session has ended, and the new one took its place
    have hstatus := hfree cell (List.mem_of_getElem? hcell) hid
    have hlookup : (l.insert sessionId ruleId).sessions.lookup cell.sessionId ≠ some token.ref := by
      rw [hid, Ledger.insert, AList.lookup_insert]
      exact fun he => absurd (Option.some.inj he) (Nat.ne_of_gt hlt)
    cases hduty : token.duty <;> simp [Fits, hduty, hstatus] at hfits ⊢ <;> exact hlookup
  · exact hfits.congr (by rw [Ledger.insert, AList.lookup_insert_ne hid])

end Insert

section Erase

variable {l : Ledger} {sessionId : UInt64}

theorem lookup_erase (l : Ledger) (sessionId i : UInt64) :
    (l.erase sessionId).sessions.lookup i =
      if i = sessionId then none else l.sessions.lookup i := by
  by_cases hi : i = sessionId
  · subst hi
    simp [Ledger.erase]
  · rw [if_neg hi, Ledger.erase, AList.lookup_erase_ne hi]

theorem Consistent.erase (h : l.Consistent) (sessionId : UInt64) :
    (l.erase sessionId).Consistent where
  held := by
    intro i n hn
    rw [lookup_erase] at hn
    split_ifs at hn
    exact h.held hn
  own := by
    intro n m cell hcell hstatus hm
    rw [lookup_erase] at hm
    split_ifs at hm
    exact h.own hcell hstatus hm

/-- A token stays good unless its session was to be in the map under the id. -/
theorem Good.erase {token : Token} (h : l.Good token)
    (hkeep : token.duty.lacksRule → l.sessions.lookup sessionId ≠ some token.ref) :
    (l.erase sessionId).Good token := by
  obtain ⟨cell, hcell, hfits⟩ := h
  refine ⟨cell, hcell, ?_⟩
  by_cases hid : cell.sessionId = sessionId
  · have hnone : (l.erase sessionId).sessions.lookup cell.sessionId = none := by
      rw [lookup_erase, if_pos hid]
    rw [← hid] at hkeep
    cases hduty : token.duty <;> simp [Fits, hduty, hnone, Duty.lacksRule] at hfits hkeep ⊢ <;>
      simp_all
  · exact hfits.congr (by rw [lookup_erase, if_neg hid])

theorem consistent_clear (l : Ledger) : l.clear.Consistent where
  held := by
    intro i n hn
    cases hn
  own := by
    intro n m cell _ _ hm
    cases hm

theorem Good.clear {token : Token} (h : l.Good token) (hkeep : token.duty.lacksRule = false) :
    l.clear.Good token := by
  obtain ⟨cell, hcell, hfits⟩ := h
  refine ⟨cell, hcell, ?_⟩
  have hnone : l.clear.sessions.lookup cell.sessionId = none := rfl
  cases hduty : token.duty <;> simp [Fits, hduty, hnone, Duty.lacksRule] at hfits hkeep ⊢ <;>
    simp_all

end Erase

section Modify

variable {l : Ledger} {n : ℕ} {cell : LedgerCell} {f : LedgerCell → LedgerCell}

/-- A session changes its status, or is aborted: in the map only if it stays fit for it, and it
does not come back to life. -/
theorem Consistent.modifyCell (h : l.Consistent) (hcell : l.cells[n]? = some cell)
    (hid : ∀ c, (f c).sessionId = c.sessionId)
    (hheld : l.sessions.lookup cell.sessionId = some n →
      (f cell).status ≠ .finished ∧ (f cell).aborted = false)
    (hown : (f cell).status ≠ .finished → cell.status ≠ .finished) :
    (l.modifyCell n f).Consistent where
  held := by
    intro i m hm
    obtain ⟨c, hc, hi, hc'⟩ := h.held hm
    rw [getElem?_modifyCell]
    by_cases hnm : n = m
    · subst hnm
      cases Option.some.inj (hcell.symm.trans hc)
      subst hi
      exact ⟨f cell, by simp [hcell], hid cell, hheld hm⟩
    · exact ⟨c, by rw [if_neg hnm, hc], hi, hc'⟩
  own := by
    intro k m c hc hstatus hm
    rw [getElem?_modifyCell] at hc
    by_cases hnk : n = k
    · subst hnk
      rw [if_pos rfl, hcell] at hc
      cases hc
      rw [hid] at hm
      exact h.own hcell (hown hstatus) hm
    · rw [if_neg hnk] at hc
      exact h.own hc hstatus hm

/-- The tokens of other sessions, and those of whoever closes the session, are not concerned. -/
theorem Good.modifyCell {token : Token} (h : l.Good token)
    (hid : ∀ c, (f c).sessionId = c.sessionId)
    (hother : token.ref = n → token.duty.owns = false) : (l.modifyCell n f).Good token := by
  obtain ⟨c, hc, hfits⟩ := h
  by_cases hn : n = token.ref
  · refine ⟨f c, by rw [getElem?_modifyCell, if_pos hn, hc]; rfl, ?_⟩
    have howns := hother hn.symm
    have hsame : (l.modifyCell n f).sessions = l.sessions := rfl
    cases hduty : token.duty <;> simp [Fits, hduty, Duty.owns, hsame] at hfits howns ⊢ <;>
      rwa [hid]
  · exact ⟨c, by rw [getElem?_modifyCell, if_neg hn, hc], hfits⟩

theorem Good.abort {token : Token} (h : l.Good token) (n : ℕ) : (l.abort n).Good token := by
  obtain ⟨c, hc, hfits⟩ := h
  by_cases hn : n = token.ref
  · refine ⟨{ c with aborted := true }, ?_, hfits⟩
    rw [Ledger.abort, getElem?_modifyCell, if_pos hn, hc]
    rfl
  · exact ⟨c, by rw [Ledger.abort, getElem?_modifyCell, if_neg hn, hc], hfits⟩

end Modify

/-! ## Steps keep the map, the sessions and the tokens together -/

/-- What a step may not do to the other tasks: no session is inserted under the id of another one
that has not ended, and none is removed before it is counted. -/
def Orderly (l : Ledger) (rest : List Token) : Action → Prop
  | .insert sessionId => l.Free sessionId
  | .remove n => ∀ t ∈ rest, t.duty.lacksRule → t.ref ≠ n
  | .drain => ∀ t ∈ rest, t.duty.lacksRule = false
  | .other => True

/-- The other tasks do not own the session of an owner. -/
theorem Solo.other {l : Ledger} {duty : Duty} {n : ℕ} {rest : List Token}
    (h : l.Solo (⟨duty, n⟩ :: rest)) (howns : duty.owns) {t : Token} (ht : t ∈ rest)
    (hn : t.ref = n) : t.duty.owns = false := by
  by_contra htrue
  have hmem : n ∈ owned rest :=
    List.mem_map.mpr ⟨t, List.mem_filter.mpr ⟨ht, by simpa using htrue⟩, hn⟩
  have hcons : owned (⟨duty, n⟩ :: rest) = n :: owned rest := by simp [owned, howns]
  have hnodup := h.1
  rw [hcons] at hnodup
  exact (List.nodup_cons.mp hnodup).1 hmem

section Finish

variable {l : Ledger} {n : ℕ} {cell : LedgerCell}

theorem Consistent.finish (h : l.Consistent) (hcell : l.cells[n]? = some cell)
    (hgone : l.sessions.lookup cell.sessionId ≠ some n) :
    (l.setStatus n .finished).Consistent :=
  h.modifyCell hcell (fun _ => rfl) (fun hn => absurd hn hgone) (fun hne => absurd rfl hne)

/-- The other tokens after the status of the session of an owner changed. -/
theorem good_setStatus {duty : Duty} {rest : List Token} (hsolo : l.Solo (⟨duty, n⟩ :: rest))
    (howns : duty.owns) (hgood : ∀ t ∈ rest, l.Good t) (status : ReaderStatus) :
    ∀ t ∈ rest, (l.setStatus n status).Good t :=
  fun t ht => (hgood t ht).modifyCell (fun _ => rfl) (hsolo.other howns ht)

end Finish

theorem Step.placed {l l' : Ledger} {a : Action} {ts ts' rest : List Token}
    (hstep : Step l a ts l' ts') (hsolo : l.Solo (ts ++ rest)) (hc : l.Consistent)
    (hgood : ∀ t ∈ ts ++ rest, l.Good t) (horderly : l.Orderly rest a) :
    l'.Consistent ∧ ∀ t ∈ ts' ++ rest, l'.Good t := by
  have hrest : ∀ t ∈ rest, l.Good t := fun t ht => hgood t (List.mem_append_right _ ht)
  have hself : ∀ {duty n}, ts = [⟨duty, n⟩] → l.Good ⟨duty, n⟩ := by
    rintro duty n rfl
    exact hgood _ (List.mem_append_left _ List.mem_cons_self)
  cases hstep with
  | idle => exact ⟨hc, hgood⟩
  | insert sessionId ruleId =>
    refine ⟨hc.insert horderly ruleId, List.forall_mem_cons.mpr ⟨?_, ?_⟩⟩
    · exact ⟨⟨sessionId, ruleId, .notSpawned, false⟩, by simp [Ledger.insert], rfl,
        by simp [Ledger.insert]⟩
    · exact fun t ht => (hrest t ht).insert horderly ruleId
  | countActive n =>
    obtain ⟨cell, hcell, hfits⟩ := hself rfl
    exact ⟨⟨hc.held, hc.own⟩, List.forall_mem_cons.mpr ⟨⟨cell, hcell, hfits⟩, hrest⟩⟩
  | countRule hrule =>
    obtain ⟨cell, hcell, hstatus, -⟩ := hself rfl
    exact ⟨⟨hc.held, hc.own⟩, List.forall_mem_cons.mpr ⟨⟨cell, hcell, hstatus⟩, hrest⟩⟩
  | giveUp n => exact ⟨hc, hrest⟩
  | spawn n =>
    obtain ⟨cell, hcell, hstatus⟩ := hself rfl
    refine ⟨hc.modifyCell hcell (fun _ => rfl) ?_ ?_, List.forall_mem_cons.mpr ⟨?_, ?_⟩⟩
    · intro hn
      obtain ⟨cell', hcell', -, -, haborted⟩ := hc.held hn
      cases Option.some.inj (hcell.symm.trans hcell')
      exact ⟨nofun, haborted⟩
    · intro _
      rw [hstatus]
      exact nofun
    · exact ⟨{ cell with status := .running },
        by rw [setStatus, getElem?_modifyCell, if_pos rfl, hcell]; rfl, rfl⟩
    · exact good_setStatus hsolo rfl hrest _
  | cancel hcell haborted =>
    refine ⟨hc.finish hcell fun hn => ?_, good_setStatus hsolo rfl hrest _⟩
    obtain ⟨cell', hcell', -, -, haborted'⟩ := hc.held hn
    cases Option.some.inj (hcell.symm.trans hcell')
    rw [haborted] at haborted'
    cases haborted'
  | leave hcell hnone =>
    refine ⟨hc.finish hcell fun hn => ?_, good_setStatus hsolo rfl hrest _⟩
    rw [hnone] at hn
    cases hn
  | @removeOwn n m cell hcell hm =>
    obtain ⟨cell', hcell', hstatus⟩ := hself rfl
    cases Option.some.inj (hcell.symm.trans hcell')
    refine ⟨hc.erase _, List.forall_mem_cons.mpr ⟨⟨cell, hcell, hstatus, ?_⟩, ?_⟩⟩
    · rw [lookup_erase, if_pos rfl]
      exact nofun
    · intro t ht
      refine (hrest t ht).erase fun hlacks htm => ?_
      -- the session under the id is the reader's own, which is counted
      have hmn : m = n := hc.own hcell (by rw [hstatus]; exact nofun) hm
      have hn : t.ref = n := (Option.some.inj (htm.symm.trans hm)).trans hmn
      have howns := hsolo.other rfl ht hn
      cases hduty : t.duty <;> simp [hduty, Duty.lacksRule, Duty.owns] at hlacks howns
  | endActive n =>
    obtain ⟨cell, hcell, hfits⟩ := hself rfl
    exact ⟨⟨hc.held, hc.own⟩, List.forall_mem_cons.mpr ⟨⟨cell, hcell, hfits⟩, hrest⟩⟩
  | @endRule n ruleId hrule =>
    obtain ⟨cell, hcell, -, hgone⟩ := hself rfl
    have hc' : (l.setRule ruleId (l.ruleCounts ruleId - 1)).Consistent := ⟨hc.held, hc.own⟩
    have hsolo' : (l.setRule ruleId (l.ruleCounts ruleId - 1)).Solo (⟨.endingRule, n⟩ :: rest) :=
      hsolo
    exact ⟨hc'.finish hcell hgone, good_setStatus hsolo' rfl hrest _⟩
  | @remove sessionId n hn =>
    obtain ⟨cell, hcell, hid, -⟩ := hc.held hn
    refine ⟨hc.erase _, List.forall_mem_cons.mpr ⟨⟨cell, hcell, ?_⟩, ?_⟩⟩
    · change (l.erase sessionId).sessions.lookup cell.sessionId ≠ some n
      rw [lookup_erase, if_pos hid]
      exact nofun
    · intro t ht
      refine (hrest t ht).erase fun hlacks htm => ?_
      exact horderly t ht hlacks (Option.some.inj (htm.symm.trans hn))
  | drain =>
    refine ⟨consistent_clear l, fun t ht => ?_⟩
    rcases List.mem_append.mp ht with ht | ht
    · obtain ⟨n, hn, rfl⟩ := List.mem_map.mp ht
      obtain ⟨sessionId, hlookup⟩ := mem_refs.mp hn
      obtain ⟨cell, hcell, -⟩ := hc.held hlookup
      exact ⟨cell, hcell, nofun⟩
    · exact (hrest t ht).clear (horderly t ht)
  | abort n =>
    obtain ⟨cell, hcell, hgone⟩ := hself rfl
    refine ⟨hc.modifyCell hcell (fun _ => rfl) (fun hn => absurd hn hgone) (fun hne => hne),
      List.forall_mem_cons.mpr ⟨(hself rfl).abort n, fun t ht => (hrest t ht).abort n⟩⟩
  | closeActive n =>
    obtain ⟨cell, hcell, hfits⟩ := hself rfl
    exact ⟨⟨hc.held, hc.own⟩, List.forall_mem_cons.mpr ⟨⟨cell, hcell, hfits⟩, hrest⟩⟩
  | closeRule hrule => exact ⟨⟨hc.held, hc.own⟩, hrest⟩

/-! ## Balances -/

/-- How many of the tokens have such a duty, for a session that is counted. -/
def due (has : Duty → Bool) (counts : ℕ → Bool) (tokens : List Token) : ℕ :=
  tokens.countP fun token => has token.duty && counts token.ref

/-- The counter and what it lacks are the sessions in the map and what it owes. -/
def Balanced (count : ℕ) (lacks owes : Duty → Bool) (counts : ℕ → Bool) (refs : List ℕ)
    (tokens : List Token) : Prop :=
  count + due lacks counts tokens = refs.countP counts + due owes counts tokens

@[simp] theorem due_nil (has : Duty → Bool) (counts : ℕ → Bool) : due has counts [] = 0 := rfl

@[simp] theorem due_append (has : Duty → Bool) (counts : ℕ → Bool) (ts us : List Token) :
    due has counts (ts ++ us) = due has counts ts + due has counts us := by
  simp [due]

@[simp] theorem due_cons (has : Duty → Bool) (counts : ℕ → Bool) (t : Token) (ts : List Token) :
    due has counts (t :: ts) =
      due has counts ts + if has t.duty && counts t.ref then 1 else 0 := by
  simp [due, List.countP_cons]

theorem due_congr {has : Duty → Bool} {counts counts' : ℕ → Bool} {tokens : List Token}
    (h : ∀ t ∈ tokens, counts' t.ref = counts t.ref) :
    due has counts' tokens = due has counts tokens :=
  List.countP_congr fun t ht => by rw [h t ht]

theorem due_perm {has : Duty → Bool} {counts : ℕ → Bool} {ts us : List Token} (h : ts.Perm us) :
    due has counts ts = due has counts us := h.countP_eq _

/-- The sessions that wait to be counted are different sessions in the map. -/
theorem due_lacks_le {l : Ledger} {tokens : List Token} (hsolo : l.Solo tokens)
    (hgood : ∀ t ∈ tokens, l.Good t) {lacks : Duty → Bool}
    (hlacks : ∀ duty, lacks duty → duty.lacksRule) (counts : ℕ → Bool) :
    due lacks counts tokens ≤ l.refs.countP counts := by
  have hsub : ((tokens.filter fun t => lacks t.duty && counts t.ref).map (·.ref)).Sublist
      (owned tokens) := by
    refine List.Sublist.map _ (List.monotone_filter_right _ fun t ht => ?_)
    have := hlacks t.duty (Bool.and_eq_true_iff.mp ht).1
    cases hduty : t.duty <;> simp_all [Duty.lacksRule, Duty.owns]
  have hmem : ((tokens.filter fun t => lacks t.duty && counts t.ref).map (·.ref)) ⊆
      l.refs.filter counts := by
    intro n hn
    obtain ⟨t, ht, rfl⟩ := List.mem_map.mp hn
    obtain ⟨ht, hduty⟩ := List.mem_filter.mp ht
    obtain ⟨hlack, hcounts⟩ := Bool.and_eq_true_iff.mp hduty
    obtain ⟨cell, hcell, hfits⟩ := hgood t ht
    have hlookup : l.sessions.lookup cell.sessionId = some t.ref := by
      have := hlacks t.duty hlack
      cases hd : t.duty <;> simp_all [Duty.lacksRule, Fits]
    exact List.mem_filter.mpr ⟨mem_refs.mpr ⟨_, hlookup⟩, hcounts⟩
  have hle := (List.Nodup.subperm (hsolo.1.sublist hsub) hmem).length_le
  rwa [List.length_map, ← List.countP_eq_length_filter, ← List.countP_eq_length_filter] at hle

section Balance

variable {l : Ledger} {count : ℕ} {lacks owes : Duty → Bool} {counts : ℕ → Bool}
  {tokens rest : List Token}

theorem Balanced.perm {refs : List ℕ} {us : List Token}
    (h : Balanced count lacks owes counts refs tokens) (hperm : tokens.Perm us) :
    Balanced count lacks owes counts refs us := by
  unfold Balanced at h ⊢
  rw [← due_perm hperm, ← due_perm hperm, h]

/-- What is owed was counted. -/
theorem Balanced.owes_le {refs : List ℕ} (h : Balanced count lacks owes counts refs tokens)
    (hle : due lacks counts tokens ≤ refs.countP counts) : due owes counts tokens ≤ count := by
  unfold Balanced at h
  omega

/-- A new session in the map waits to be counted. -/
theorem Balanced.insert {sessionId ruleId : UInt64} {counts' : ℕ → Bool}
    (h : Balanced count lacks owes counts l.refs rest)
    (hnone : l.sessions.lookup sessionId = none) (hrefs : ∀ n ∈ l.refs, counts' n = counts n)
    (hrest : ∀ t ∈ rest, counts' t.ref = counts t.ref) (hlacks : lacks .uncounted = true)
    (howes : owes .uncounted = false) :
    Balanced count lacks owes counts' (l.insert sessionId ruleId).refs
      (⟨.uncounted, l.cells.length⟩ :: rest) := by
  unfold Balanced at h ⊢
  rw [refs_insert ruleId hnone, List.countP_cons, List.countP_congr fun n hn => by rw [hrefs n hn],
    due_cons, due_cons, due_congr hrest, due_congr hrest]
  simp only [hlacks, howes, Bool.true_and, Bool.false_and, Bool.false_eq_true, if_false]
  omega

/-- A session that leaves the map is owed. -/
theorem Balanced.erase {sessionId : UInt64} {n : ℕ} {duty : Duty} {ts : List Token}
    (h : Balanced count lacks owes counts l.refs (ts ++ rest))
    (hn : l.sessions.lookup sessionId = some n) (hts : due lacks counts ts = 0)
    (hts' : due owes counts ts = 0) (hlacks : lacks duty = false) (howes : owes duty = true) :
    Balanced count lacks owes counts (l.erase sessionId).refs (⟨duty, n⟩ :: rest) := by
  have hcount := (refs_erase hn).countP_eq counts
  rw [List.countP_cons] at hcount
  unfold Balanced at h ⊢
  rw [due_append, due_append, hts, hts'] at h
  rw [due_cons, due_cons]
  simp only [hlacks, howes, Bool.true_and, Bool.false_and, Bool.false_eq_true, if_false]
  omega

theorem Balanced.drain (h : Balanced count lacks owes counts l.refs rest)
    (hlacks : lacks .closing = false) (howes : owes .closing = true) :
    Balanced count lacks owes counts l.clear.refs (l.refs.map (⟨.closing, ·⟩) ++ rest) := by
  have hl : due lacks counts (l.refs.map (⟨.closing, ·⟩)) = 0 := by
    simp [due, List.countP_map, Function.comp_def, hlacks]
  have ho : due owes counts (l.refs.map (⟨.closing, ·⟩)) = l.refs.countP counts := by
    simp [due, List.countP_map, Function.comp_def, howes]
  have hclear : l.clear.refs = [] := rfl
  unfold Balanced at h ⊢
  rw [due_append, due_append, hl, ho, hclear, List.countP_nil]
  omega

end Balance

/-- Which sessions a counter of a rule counts. -/
def hasRule (l : Ledger) (ruleId : UInt64) (n : ℕ) : Bool := l.ruleOf n = some ruleId

theorem hasRule_modifyCell (l : Ledger) (n : ℕ) (f : LedgerCell → LedgerCell)
    (hf : ∀ c, (f c).ruleId = c.ruleId) (ruleId : UInt64) :
    (l.modifyCell n f).hasRule ruleId = l.hasRule ruleId := by
  funext m
  have hrule : (l.modifyCell n f).ruleOf m = l.ruleOf m := by
    rw [ruleOf, getElem?_modifyCell, ruleOf]
    split_ifs
    · cases l.cells[m]? with
      | none => rfl
      | some c => simp [hf]
    · rfl
  rw [hasRule, hrule, hasRule]

section Fields

variable (l : Ledger) (n active count : ℕ) (ruleId ruleId' : UInt64) (status : ReaderStatus)

@[simp] theorem hasRule_setStatus : (l.setStatus n status).hasRule ruleId = l.hasRule ruleId :=
  hasRule_modifyCell l n _ (by intro c; rfl) ruleId

@[simp] theorem hasRule_abort : (l.abort n).hasRule ruleId = l.hasRule ruleId :=
  hasRule_modifyCell l n _ (by intro c; rfl) ruleId

@[simp] theorem hasRule_setActive : (l.setActive active).hasRule ruleId = l.hasRule ruleId := rfl

@[simp] theorem hasRule_setRule :
    (l.setRule ruleId' count).hasRule ruleId = l.hasRule ruleId := rfl

@[simp] theorem refs_setStatus : (l.setStatus n status).refs = l.refs := rfl

@[simp] theorem refs_abort : (l.abort n).refs = l.refs := rfl

@[simp] theorem refs_setActive : (l.setActive active).refs = l.refs := rfl

@[simp] theorem refs_setRule : (l.setRule ruleId count).refs = l.refs := rfl

@[simp] theorem active_setStatus : (l.setStatus n status).active = l.active := rfl

@[simp] theorem active_abort : (l.abort n).active = l.active := rfl

@[simp] theorem active_setActive : (l.setActive active).active = active := rfl

@[simp] theorem active_setRule : (l.setRule ruleId count).active = l.active := rfl

@[simp] theorem ruleCounts_setStatus : (l.setStatus n status).ruleCounts = l.ruleCounts := rfl

@[simp] theorem ruleCounts_abort : (l.abort n).ruleCounts = l.ruleCounts := rfl

@[simp] theorem ruleCounts_setActive : (l.setActive active).ruleCounts = l.ruleCounts := rfl

@[simp] theorem ruleCounts_setRule :
    (l.setRule ruleId count).ruleCounts = Function.update l.ruleCounts ruleId count := rfl

end Fields

theorem hasRule_insert {l : Ledger} {n : ℕ} (hn : n < l.cells.length)
    (sessionId ruleId ruleId' : UInt64) :
    (l.insert sessionId ruleId).hasRule ruleId' n = l.hasRule ruleId' n := by
  rw [hasRule, hasRule, ruleOf, ruleOf, Ledger.insert, List.getElem?_append_left hn]

/-- **The ledger is consistent.** -/
structure Inv (l : Ledger) (tokens : List Token) : Prop where
  solo : l.Solo tokens
  consistent : l.Consistent
  good : ∀ t ∈ tokens, l.Good t
  active : Balanced l.active Duty.lacksActive Duty.owesActive (fun _ => true) l.refs tokens
  rules : ∀ ruleId, Balanced (l.ruleCounts ruleId) Duty.lacksRule Duty.owesRule (l.hasRule ruleId)
    l.refs tokens

theorem Inv.perm {l : Ledger} {ts us : List Token} (h : l.Inv ts) (hperm : ts.Perm us) :
    l.Inv us where
  solo := h.solo.perm hperm
  consistent := h.consistent
  good := fun t ht => h.good t (hperm.mem_iff.mpr ht)
  active := h.active.perm hperm
  rules := fun ruleId => (h.rules ruleId).perm hperm

section StepBalance

variable {l l' : Ledger} {a : Action} {ts ts' rest : List Token}

/-- The session under the id of a reader is its own. -/
theorem Inv.lookup_reader {n m : ℕ} {cell : LedgerCell} (h : l.Inv (⟨.reader, n⟩ :: rest))
    (hcell : l.cells[n]? = some cell) (hm : l.sessions.lookup cell.sessionId = some m) :
    m = n := by
  obtain ⟨cell', hcell', hstatus⟩ := h.good _ List.mem_cons_self
  cases Option.some.inj (hcell.symm.trans hcell')
  exact h.consistent.own hcell (by rw [hstatus]; exact nofun) hm

theorem Inv.active_step (h : l.Inv (ts ++ rest)) (hstep : Step l a ts l' ts')
    (horderly : l.Orderly rest a) :
    Balanced l'.active Duty.lacksActive Duty.owesActive (fun _ => true) l'.refs (ts' ++ rest) := by
  have hactive := h.active
  have howes := h.active.owes_le (due_lacks_le h.solo h.good
    (by intro duty hduty; cases duty <;> first | rfl | cases hduty) _)
  cases hstep with
  | insert sessionId ruleId =>
    exact hactive.insert (h.consistent.lookup_of_free horderly) (fun _ _ => rfl) (fun _ _ => rfl)
      rfl rfl
  | removeOwn hcell hm =>
    cases h.lookup_reader hcell hm
    exact hactive.erase hm rfl rfl rfl rfl
  | remove hn => exact hactive.erase hn rfl rfl rfl rfl
  | drain => exact hactive.drain rfl rfl
  | _ =>
    simp [Balanced, Duty.lacksActive, Duty.owesActive] at hactive howes ⊢
    omega

theorem hasRule_of_ruleOf {n : ℕ} {ruleId : UInt64} (h : l.ruleOf n = some ruleId)
    (ruleId' : UInt64) : l.hasRule ruleId' n = decide (ruleId' = ruleId) := by
  simp [hasRule, h, eq_comm]

theorem Inv.rules_step (h : l.Inv (ts ++ rest)) (hstep : Step l a ts l' ts')
    (horderly : l.Orderly rest a) (ruleId : UInt64) :
    Balanced (l'.ruleCounts ruleId) Duty.lacksRule Duty.owesRule (l'.hasRule ruleId) l'.refs
      (ts' ++ rest) := by
  have hrules := h.rules ruleId
  have howes := hrules.owes_le (due_lacks_le h.solo h.good (fun _ hduty => hduty) _)
  cases hstep with
  | insert sessionId ruleId' =>
    refine hrules.insert (h.consistent.lookup_of_free horderly) (fun n hn => ?_) (fun t ht => ?_)
      rfl rfl
    · exact hasRule_insert (h.consistent.lt_length hn) _ _ _
    · exact hasRule_insert (h.good t ht).lt_length _ _ _
  | removeOwn hcell hm =>
    cases h.lookup_reader hcell hm
    exact hrules.erase hm (by simp [Duty.lacksRule]) (by simp [Duty.owesRule]) rfl rfl
  | remove hn => exact hrules.erase hn rfl rfl rfl rfl
  | drain => exact hrules.drain rfl rfl
  | @countRule n ruleId' hrule | @endRule n ruleId' hrule | @closeRule n ruleId' hrule =>
    have hself := hasRule_of_ruleOf hrule ruleId
    simp only [Balanced, List.cons_append, List.nil_append, due_cons, hself] at hrules howes ⊢
    by_cases hr : ruleId = ruleId'
    · subst hr
      simp [Duty.lacksRule, Duty.owesRule] at hrules howes ⊢
      omega
    · simp [Duty.lacksRule, Duty.owesRule, hr] at hrules howes ⊢
      omega
  | _ =>
    simp [Balanced, Duty.lacksRule, Duty.owesRule] at hrules howes ⊢
    omega

/-- **A step in order keeps the ledger consistent.** -/
theorem Inv.step (h : l.Inv (ts ++ rest)) (hstep : Step l a ts l' ts')
    (horderly : l.Orderly rest a) : l'.Inv (ts' ++ rest) where
  solo := h.solo.step hstep
  consistent := (hstep.placed h.solo h.consistent h.good horderly).1
  good := (hstep.placed h.solo h.consistent h.good horderly).2
  active := h.active_step hstep horderly
  rules := h.rules_step hstep horderly

end StepBalance

/-- The rule of a session never changes. -/
theorem Step.ruleOf {l l' : Ledger} {a : Action} {ts ts' : List Token} (h : Step l a ts l' ts')
    {n : ℕ} {ruleId : UInt64} (hrule : l.ruleOf n = some ruleId) : l'.ruleOf n = some ruleId := by
  have hmodify : ∀ (l : Ledger) (m : ℕ) (f : LedgerCell → LedgerCell),
      (∀ c, (f c).ruleId = c.ruleId) → l.ruleOf n = some ruleId →
        (l.modifyCell m f).ruleOf n = some ruleId := by
    intro l m f hf hrule
    have := congrFun (hasRule_modifyCell l m f hf ruleId) n
    simpa [hasRule, hrule] using this
  cases h with
  | insert sessionId ruleId' =>
    obtain ⟨cell, hcell, hid⟩ := Option.map_eq_some_iff.mp hrule
    rw [Ledger.ruleOf, getElem?_insert hcell]
    exact congrArg some hid
  | spawn m => exact hmodify l m _ (fun _ => rfl) hrule
  | cancel => exact hmodify l _ _ (fun _ => rfl) hrule
  | leave => exact hmodify l _ _ (fun _ => rfl) hrule
  | endRule => exact hmodify _ _ _ (fun _ => rfl) hrule
  | abort m => exact hmodify l m _ (fun _ => rfl) hrule
  | _ => exact hrule

/-! ## A settled ledger -/

theorem due_eq_zero {has : Duty → Bool} (counts : ℕ → Bool) {tokens : List Token}
    (h : ∀ t ∈ tokens, has t.duty = false) : due has counts tokens = 0 := by
  rw [due, List.countP_eq_zero]
  intro t ht
  simp [h t ht]

/-- **When only readers are left, the counters are the numbers of sessions in the map.** -/
theorem Inv.settled {l : Ledger} {tokens : List Token} (h : l.Inv tokens)
    (hreaders : ∀ t ∈ tokens, t.duty = .reader) :
    l.active = l.refs.length ∧ ∀ ruleId, l.ruleCounts ruleId = l.refs.countP (l.hasRule ruleId) := by
  have hzero : ∀ (has : Duty → Bool) (counts : ℕ → Bool), has .reader = false →
      due has counts tokens = 0 :=
    fun has counts hhas => due_eq_zero counts fun t ht => by rw [hreaders t ht, hhas]
  refine ⟨?_, fun ruleId => ?_⟩
  · have hactive := h.active
    unfold Balanced at hactive
    rw [hzero _ _ rfl, hzero _ _ rfl, List.countP_true] at hactive
    exact hactive
  · have hrule := h.rules ruleId
    unfold Balanced at hrule
    rw [hzero _ _ rfl, hzero _ _ rfl] at hrule
    exact hrule

/-- Ended sessions are not in the map. -/
theorem Consistent.refs_of_finished {l : Ledger} (h : l.Consistent)
    (hfinished : ∀ cell ∈ l.cells, cell.status = .finished) : l.refs = [] := by
  refine List.eq_nil_iff_forall_not_mem.mpr fun n hn => ?_
  obtain ⟨sessionId, hlookup⟩ := mem_refs.mp hn
  obtain ⟨cell, hcell, -, hstatus, -⟩ := h.held hlookup
  exact hstatus (hfinished cell (List.mem_of_getElem? hcell))

theorem inv_empty : Inv ⟨∅, [], 0, fun _ => 0⟩ [] where
  solo := ⟨List.nodup_nil, nofun⟩
  consistent := ⟨nofun, nofun⟩
  good := nofun
  active := rfl
  rules := fun _ => rfl

end Ledger

end KeliAgent
