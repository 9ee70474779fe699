import KeliAgent.Lib.Bytes
import KeliAgent.Lib.Format

/-!
# Code that may panic

Indices, slices and sums of machine words. The code of a fallible function returns a value or an
error, or it panics: a panic is a fault of its own.

* `Returns`: a computation does not panic, and what it returns satisfies a postcondition.
  One rule for each operation, and **`Returns.bind`**.
-/

namespace Checked

/-- Why there is no value: the code returns an error, or it panics. -/
inductive Fault (ε : Type) where
  | panic
  | error (e : ε)
  deriving DecidableEq, Repr

variable {ε α β : Type}

/-- The number of values of `usize`. -/
def usizeSize : ℕ := 2 ^ 64

/-- The longest slice of bytes, `isize::MAX`. -/
def maxSlice : ℕ := 2 ^ 63 - 1

/-- `bs[i]` -/
def index (bs : List α) (i : ℕ) : Except (Fault ε) α :=
  match bs[i]? with
  | some b => .ok b
  | none => .error .panic

/-- `&bs[i..j]` -/
def range (bs : List α) (i j : ℕ) : Except (Fault ε) (List α) :=
  match Wire.range? bs i j with
  | some part => .ok part
  | none => .error .panic

/-- `a + b` -/
def add (a b : ℕ) : Except (Fault ε) ℕ := if a + b < usizeSize then .ok (a + b) else .error .panic

/-- `a.checked_add(b)` -/
def checkedAdd (a b : ℕ) : Option ℕ := if a + b < usizeSize then some (a + b) else none

/-- The computation does not panic, and what it returns satisfies `P`. -/
def Returns (x : Except (Fault ε) α) (P : α → Prop) : Prop :=
  match x with
  | .ok a => P a
  | .error .panic => False
  | .error (.error _) => True

theorem Returns.ne_panic {x : Except (Fault ε) α} {P : α → Prop} (h : Returns x P) :
    x ≠ .error .panic := by
  rintro rfl
  exact h

theorem Returns.mono {x : Except (Fault ε) α} {P Q : α → Prop} (h : Returns x P)
    (hPQ : ∀ a, P a → Q a) : Returns x Q := by
  rcases x with (_ | e) | a
  · exact h
  · trivial
  · exact hPQ a h

/-- **One computation after the other.** -/
theorem Returns.bind {x : Except (Fault ε) α} {f : α → Except (Fault ε) β} {P : α → Prop}
    {Q : β → Prop} (h : Returns x P) (hf : ∀ a, P a → Returns (f a) Q) : Returns (x >>= f) Q := by
  rcases x with (_ | e) | a
  · exact h
  · trivial
  · exact hf a h

theorem index_eq {bs : List α} {i : ℕ} {b : α} (h : bs[i]? = some b) :
    index (ε := ε) bs i = .ok b := by
  rw [index, h]

theorem returns_index {bs : List α} {i : ℕ} (h : i < bs.length) :
    Returns (index (ε := ε) bs i) fun _ => True := by
  rw [index_eq (List.getElem?_eq_getElem h)]
  trivial

theorem range_eq {bs : List α} {i j : ℕ} (hij : i ≤ j) (hj : j ≤ bs.length) :
    range (ε := ε) bs i j = .ok (Wire.slice bs i j) := by
  rw [range, Wire.range?, if_pos ⟨hij, hj⟩]

theorem add_eq {a b : ℕ} (h : a + b ≤ 2 * maxSlice) : add (ε := ε) a b = .ok (a + b) :=
  if_pos (h.trans_lt (by decide))

theorem checkedAdd_eq {a b : ℕ} (h : a + b ≤ 2 * maxSlice) : checkedAdd a b = some (a + b) :=
  if_pos (h.trans_lt (by decide))

end Checked
