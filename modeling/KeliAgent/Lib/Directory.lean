import Mathlib

/-!
# Directories keyed by an id, and tables keyed by an id and a tag

Entries are numbered in the order of their creation and carry an id and a tag. A `Directory` finds
an entry by its id alone; a `Table` finds it by id and tag.

* `Directory.Wf`: an id finds an entry that was created under it; kept by all operations.
* `Directory.Agrees`: the directory finds what the table finds. **`agrees_insert`**,
  **`agrees_erase`**: an operation on an id keeps this, if the directory does not hold the id
  with another tag (`Alone`); **`agrees_drop`**: so does an entry that ends, if its id finds no
  other entry.
-/

namespace Wire

/-- `holder i` is the entry that the id `i` finds; `keys` lists the id and tag of all entries. -/
structure Directory (ι κ : Type) where
  holder : ι → Option ℕ
  keys : List (ι × κ)

/-- What a directory keyed by id and tag would find. -/
abbrev Table (ι κ : Type) := ι → κ → Option ℕ

variable {ι κ : Type}

namespace Table

def empty : Table ι κ := fun _ _ => none

def set [DecidableEq ι] [DecidableEq κ] (t : Table ι κ) (i : ι) (k : κ) (entry : Option ℕ) :
    Table ι κ :=
  fun j l => if j = i ∧ l = k then entry else t j l

/-- The entry `n` is no longer found. -/
def drop (t : Table ι κ) (n : ℕ) : Table ι κ :=
  fun i k => if t i k = some n then none else t i k

end Table

namespace Directory

def empty : Directory ι κ := ⟨fun _ => none, []⟩

/-- A new entry takes the id. -/
def insert [DecidableEq ι] (d : Directory ι κ) (i : ι) (k : κ) : Directory ι κ :=
  ⟨Function.update d.holder i (some d.keys.length), d.keys ++ [(i, k)]⟩

def erase [DecidableEq ι] (d : Directory ι κ) (i : ι) : Directory ι κ :=
  { d with holder := Function.update d.holder i none }

def clear (d : Directory ι κ) : Directory ι κ := { d with holder := fun _ => none }

/-- An id finds an entry created under it. -/
def Wf (d : Directory ι κ) : Prop :=
  ∀ i n, d.holder i = some n → ∃ k, d.keys[n]? = some (i, k)

/-- The directory does not hold the id with a tag other than `k`. -/
def Alone (d : Directory ι κ) (i : ι) (k : κ) : Prop :=
  ∀ n ∈ d.holder i, d.keys[n]? = some (i, k)

instance [DecidableEq ι] [DecidableEq κ] (d : Directory ι κ) (i : ι) (k : κ) :
    Decidable (d.Alone i k) :=
  inferInstanceAs (Decidable (∀ n ∈ d.holder i, _))

/-- The directory finds what the table finds. -/
def Agrees (d : Directory ι κ) (t : Table ι κ) : Prop :=
  ∀ i k n, t i k = some n ↔ d.holder i = some n ∧ d.keys[n]? = some (i, k)

theorem wf_empty : (empty : Directory ι κ).Wf := by
  intro i n h
  cases h

theorem wf_clear (d : Directory ι κ) : d.clear.Wf := by
  intro i n h
  cases h

/-- Different ids find different entries. -/
theorem Wf.injective {d : Directory ι κ} (h : d.Wf) {i j : ι} {n : ℕ} (hi : d.holder i = some n)
    (hj : d.holder j = some n) : i = j := by
  obtain ⟨k, hk⟩ := h i n hi
  obtain ⟨l, hl⟩ := h j n hj
  rw [hk] at hl
  exact congrArg Prod.fst (Option.some.inj hl)

theorem agrees_empty : (empty : Directory ι κ).Agrees .empty := by
  intro i k n
  simp [empty, Table.empty]

theorem agrees_clear (d : Directory ι κ) : d.clear.Agrees .empty := by
  intro i k n
  simp [clear, Table.empty]

section Updates

variable [DecidableEq ι]

theorem getElem?_keys_insert {d : Directory ι κ} {n : ℕ} {key : ι × κ}
    (h : d.keys[n]? = some key) (i : ι) (k : κ) : (d.insert i k).keys[n]? = some key := by
  obtain ⟨hn, -⟩ := List.getElem?_eq_some_iff.mp h
  exact (List.getElem?_append_left hn).trans h

theorem Wf.insert {d : Directory ι κ} (h : d.Wf) (i : ι) (k : κ) : (d.insert i k).Wf := by
  intro j n hj
  by_cases hij : j = i
  · subst hij
    simp only [Directory.insert, Function.update_self, Option.some.injEq] at hj
    subst hj
    exact ⟨k, by simp [Directory.insert]⟩
  · simp only [Directory.insert, Function.update_of_ne hij] at hj
    obtain ⟨l, hl⟩ := h j n hj
    exact ⟨l, getElem?_keys_insert hl i k⟩

theorem Wf.erase {d : Directory ι κ} (h : d.Wf) (i : ι) : (d.erase i).Wf := by
  intro j n hj
  by_cases hij : j = i
  · subst hij
    simp [Directory.erase] at hj
  · simp only [Directory.erase, Function.update_of_ne hij] at hj
    exact h j n hj

/-- **An entry ends and erases its id**, which finds that entry or none. -/
theorem agrees_drop {d : Directory ι κ} {t : Table ι κ} (h : d.Agrees t) {i : ι} {k : κ} {n : ℕ}
    (hkey : d.keys[n]? = some (i, k)) (hown : ∀ m, d.holder i = some m → m = n) :
    (d.erase i).Agrees (t.drop n) := by
  intro j l m
  by_cases hj : j = i
  · subst hj
    have hnone : t.drop n j l ≠ some m := by
      unfold Table.drop
      split_ifs with hl
      · exact fun hm => nomatch hm
      · intro hm
        exact hl (hown m ((h j l m).mp hm).1 ▸ hm)
    simp [hnone, erase]
  · have hne : t j l ≠ some n := by
      intro hn
      have hkey' := ((h j l n).mp hn).2
      rw [hkey] at hkey'
      exact hj (congrArg Prod.fst (Option.some.inj hkey')).symm
    simp only [Table.drop, hne, if_false, h j l m, erase, Function.update_of_ne hj]

variable [DecidableEq κ]

/-- **A new entry of an id that is not held with another tag.** -/
theorem agrees_insert {d : Directory ι κ} {t : Table ι κ} (hwf : d.Wf) (h : d.Agrees t) {i : ι}
    {k : κ} (halone : d.Alone i k) :
    (d.insert i k).Agrees (t.set i k (some d.keys.length)) := by
  intro j l n
  have hnew : (d.keys ++ [(i, k)])[d.keys.length]? = some (i, k) := by simp
  by_cases hj : j = i
  · subst hj
    by_cases hl : l = k
    · subst hl
      simp only [Table.set, and_self, if_true, insert, Function.update_self]
      refine ⟨fun hn => ⟨hn, ?_⟩, fun hn => hn.1⟩
      cases hn
      exact hnew
    · -- the new entry has the other tag, and the id was not held with this one
      have ht : t j l ≠ some n := by
        intro hn
        have hheld := (h j l n).mp hn
        have := halone n hheld.1
        rw [hheld.2] at this
        exact hl (congrArg Prod.snd (Option.some.inj this))
      simp only [Table.set, hl, and_false, if_false, ht, false_iff, insert, Function.update_self,
        Option.some.injEq, not_and]
      intro hn hkey
      subst hn
      rw [hnew] at hkey
      exact hl (congrArg Prod.snd (Option.some.inj hkey)).symm
  · simp only [Table.set, hj, false_and, if_false, h j l n, insert, Function.update_of_ne hj]
    refine and_congr_right fun hn => ?_
    obtain ⟨l', hl'⟩ := hwf j n hn
    have hins := getElem?_keys_insert hl' i k
    rw [insert] at hins
    rw [hl', hins]

/-- **An id that is not held with another tag is erased.** -/
theorem agrees_erase {d : Directory ι κ} {t : Table ι κ} (h : d.Agrees t) {i : ι} {k : κ}
    (halone : d.Alone i k) : (d.erase i).Agrees (t.set i k none) := by
  intro j l n
  by_cases hj : j = i
  · subst hj
    have hnone : t.set j k none j l ≠ some n := by
      unfold Table.set
      split_ifs with hl
      · exact fun hn => nomatch hn
      · intro hn
        have hheld := (h j l n).mp hn
        have := halone n hheld.1
        rw [hheld.2] at this
        exact hl ⟨rfl, congrArg Prod.snd (Option.some.inj this)⟩
    simp [hnone, erase]
  · simp only [Table.set, hj, false_and, if_false, h j l n, erase, Function.update_of_ne hj]

end Updates

end Directory

end Wire
