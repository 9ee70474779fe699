import Mathlib

/-!
# Meters that are read again and again

The increase of a meter over a list of readings is the sum of the differences of consecutive
readings; a reading below the one before it counts as no increase. Only the readings that `counts`
are added.

* `increase_concat`: one more reading.
* **`increase_of_monotone`**: if the meter never goes down and every reading counts, the increase is
  the last reading minus the first one.
-/

namespace Meter

variable {α : Type} (value : α → ℕ) (counts : α → Bool)

/-- What one reading adds after another. -/
def gain (last : Option α) (reading : α) : ℕ :=
  match last with
  | none => 0
  | some last => if counts reading then value reading - value last else 0

def increase (readings : List α) : ℕ :=
  ((readings.zip readings.tail).map fun (last, reading) =>
    gain value counts (some last) reading).sum

@[simp] theorem increase_nil : increase value counts [] = 0 := rfl

@[simp] theorem increase_singleton (reading : α) : increase value counts [reading] = 0 := rfl

theorem increase_cons_cons (first second : α) (readings : List α) :
    increase value counts (first :: second :: readings) =
      gain value counts (some first) second + increase value counts (second :: readings) := rfl

theorem increase_concat (readings : List α) (reading : α) :
    increase value counts (readings ++ [reading]) =
      increase value counts readings + gain value counts readings.getLast? reading := by
  induction readings with
  | nil => rfl
  | cons first readings ih =>
    cases readings with
    | nil =>
      rw [List.singleton_append, increase_cons_cons, increase_singleton, increase_singleton,
        add_comm]
      rfl
    | cons second readings =>
      rw [List.cons_append, List.cons_append, increase_cons_cons, ← List.cons_append, ih,
        increase_cons_cons, List.getLast?_cons_cons, add_assoc]

variable {value counts}

/-- **Telescoping.** -/
theorem increase_of_monotone {first : α} {readings : List α}
    (hcounts : ∀ reading ∈ readings, counts reading = true)
    (hmono : (first :: readings).IsChain fun a b => value a ≤ value b) :
    value first + increase value counts (first :: readings) =
      value ((first :: readings).getLast (List.cons_ne_nil _ _)) := by
  induction readings generalizing first with
  | nil => rfl
  | cons second readings ih =>
    obtain ⟨hle, hmono⟩ := List.isChain_cons_cons.mp hmono
    obtain ⟨hsecond, hcounts⟩ := List.forall_mem_cons.mp hcounts
    have hgain : gain value counts (some first) second = value second - value first :=
      if_pos hsecond
    rw [increase_cons_cons, hgain, List.getLast_cons (List.cons_ne_nil _ _), ← ih hcounts hmono]
    omega

end Meter
