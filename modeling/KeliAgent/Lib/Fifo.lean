import Mathlib

/-!
# What becomes of the items of a queue

A queue hands its items out in the order they came in, and may discard some of the waiting ones,
wherever they stand. The log of a queue has one entry for each item that was ever put in, in that
order, with what became of it.

* `handOut k`: the first `k` waiting items are handed out; `discard p`: the waiting items with `p`
  are discarded.
* **`Explains`**: the log without its discarded entries is what was handed out and then what waits.
  It is kept by `append`, `handOut` and `discard`.
-/

namespace Fifo

/-- What became of an item. -/
inductive Fate where
  | queued | handedOut | discarded
  deriving DecidableEq, Repr

structure Entry (α : Type) where
  item : α
  fate : Fate
  deriving DecidableEq, Repr

variable {α : Type}

/-- The first `k` waiting items are handed out. -/
def handOut : ℕ → List (Entry α) → List (Entry α)
  | _, [] => []
  | 0, log => log
  | k + 1, entry :: log =>
    if entry.fate = .queued then ⟨entry.item, .handedOut⟩ :: handOut k log
    else entry :: handOut (k + 1) log

/-- The waiting items with `p` are discarded. -/
def discard (p : α → Bool) (log : List (Entry α)) : List (Entry α) :=
  log.map fun entry =>
    if entry.fate = .queued ∧ p entry.item then ⟨entry.item, .discarded⟩ else entry

/-- The entries that were not discarded. -/
def kept (log : List (Entry α)) : List (Entry α) := log.filter fun entry => entry.fate ≠ .discarded

/-- **The log explains a queue**: apart from what was discarded, its items were handed out or are
still waiting, in the order they came in. -/
def Explains (log : List (Entry α)) (handed waiting : List α) : Prop :=
  kept log = handed.map (⟨·, .handedOut⟩) ++ waiting.map (⟨·, .queued⟩)

@[simp] theorem kept_cons_queued (item : α) (log : List (Entry α)) :
    kept (⟨item, .queued⟩ :: log) = ⟨item, .queued⟩ :: kept log := rfl

@[simp] theorem kept_cons_handedOut (item : α) (log : List (Entry α)) :
    kept (⟨item, .handedOut⟩ :: log) = ⟨item, .handedOut⟩ :: kept log := rfl

@[simp] theorem kept_cons_discarded (item : α) (log : List (Entry α)) :
    kept (⟨item, .discarded⟩ :: log) = kept log := rfl

theorem handOut_zero (log : List (Entry α)) : handOut 0 log = log := by
  cases log <;> rfl

@[simp] theorem map_item_handOut (k : ℕ) (log : List (Entry α)) :
    (handOut k log).map (·.item) = log.map (·.item) := by
  induction log generalizing k with
  | nil => cases k <;> rfl
  | cons entry log ih =>
    cases k with
    | zero => rfl
    | succ k =>
      rw [handOut]
      split_ifs
      · simp only [List.map_cons, ih]
      · simp only [List.map_cons, ih]

@[simp] theorem map_item_discard (p : α → Bool) (log : List (Entry α)) :
    (discard p log).map (·.item) = log.map (·.item) := by
  rw [discard, List.map_map]
  apply List.map_congr_left
  intro entry _
  simp only [Function.comp_apply]
  split_ifs <;> rfl

theorem kept_handOut (k : ℕ) (log : List (Entry α)) :
    kept (handOut k log) = handOut k (kept log) := by
  induction log generalizing k with
  | nil => cases k <;> rfl
  | cons entry log ih =>
    cases k with
    | zero => rw [handOut_zero, handOut_zero]
    | succ k =>
      obtain ⟨item, fate⟩ := entry
      cases fate with
      | queued => simp [handOut, ih]
      | handedOut => simp [handOut, ih]
      | discarded => simp [handOut, ih]

/-- What was handed out before stays so. -/
theorem handOut_handedOut (k : ℕ) (handed : List α) (log : List (Entry α)) :
    handOut k (handed.map (⟨·, .handedOut⟩) ++ log) =
      handed.map (⟨·, .handedOut⟩) ++ handOut k log := by
  induction handed with
  | nil => rfl
  | cons item handed ih =>
    cases k with
    | zero => rw [handOut_zero, handOut_zero]
    | succ k => simpa [handOut] using ih

theorem handOut_queued (k : ℕ) (waiting : List α) :
    handOut k (waiting.map (⟨·, .queued⟩)) =
      (waiting.take k).map (⟨·, .handedOut⟩) ++ (waiting.drop k).map (⟨·, .queued⟩) := by
  induction waiting generalizing k with
  | nil => cases k <;> rfl
  | cons item waiting ih =>
    cases k with
    | zero => rfl
    | succ k => simp [handOut, ih]

theorem kept_discard (p : α → Bool) (log : List (Entry α)) :
    kept (discard p log) =
      (kept log).filter fun entry => ¬(entry.fate = .queued ∧ p entry.item) := by
  induction log with
  | nil => rfl
  | cons entry log ih =>
    obtain ⟨item, fate⟩ := entry
    rw [discard, List.map_cons, ← discard]
    cases fate with
    | queued => by_cases hp : p item <;> simp [hp, ih]
    | handedOut => simp [ih]
    | discarded => simp [ih]

namespace Explains

variable {log : List (Entry α)} {handed waiting : List α}

theorem append (h : Explains log handed waiting) (item : α) :
    Explains (log ++ [⟨item, .queued⟩]) handed (waiting ++ [item]) := by
  unfold Explains kept at h ⊢
  rw [List.filter_append, h, List.map_append, List.append_assoc]
  rfl

theorem handOut (h : Explains log handed waiting) (k : ℕ) :
    Explains (handOut k log) (handed ++ waiting.take k) (waiting.drop k) := by
  unfold Explains at h ⊢
  rw [kept_handOut, h, handOut_handedOut, handOut_queued, List.map_append, List.append_assoc]

theorem discard (h : Explains log handed waiting) (p : α → Bool) :
    Explains (discard p log) handed (waiting.filter fun item => ¬p item) := by
  unfold Explains at h ⊢
  rw [kept_discard, h, List.filter_append, List.filter_map, List.filter_map]
  congr 2
  · exact List.filter_eq_self.mpr fun item _ => by simp
  · congr 1
    funext item
    simp

/-- The waiting entries of the log are the items of the queue. -/
theorem countP_queued (h : Explains log handed waiting) (p : α → Bool) :
    log.countP (fun entry => entry.fate = .queued ∧ p entry.item) = waiting.countP p := by
  have hkept : log.countP (fun entry => entry.fate = .queued ∧ p entry.item) =
      (kept log).countP fun entry => entry.fate = .queued ∧ p entry.item := by
    rw [kept, List.countP_filter]
    apply List.countP_congr
    rintro ⟨item, fate⟩ _
    cases fate <;> simp
  rw [hkept, h, List.countP_append, List.countP_map, List.countP_map]
  simp [Function.comp_def]

end Explains

end Fifo
