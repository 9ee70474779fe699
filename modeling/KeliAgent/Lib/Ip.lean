import Mathlib

/-!
# IP addresses and networks

* `prefixMask w p`: the mask of the first `p` of `w` bits, as `MAX << (w - p)` computes it.
* **`and_mask_eq_iff`**: two addresses agree under the mask exactly if their first `p` bits do.
-/

namespace Net

inductive IpAddr where
  | v4 (bits : BitVec 32)
  | v6 (bits : BitVec 128)
  deriving DecidableEq

/-- `0` or `MAX << (w - p)`; `none` if the subtraction overflows or the shift is by `w` or more. -/
def prefixMask (w p : ℕ) : Option (BitVec w) :=
  if p = 0 then some 0
  else if p ≤ w ∧ w - p < w then some (BitVec.allOnes w <<< (w - p))
  else none

theorem exists_prefixMask {w p : ℕ} (h : p ≤ w) : ∃ mask, prefixMask w p = some mask ∧
    ∀ i < w, mask.getMsbD i = decide (i < p) := by
  unfold prefixMask
  by_cases hp : p = 0
  · subst hp
    exact ⟨0, if_pos rfl, fun i _ => by simp⟩
  · refine ⟨_, by rw [if_neg hp, if_pos ⟨h, by omega⟩], fun i hi => ?_⟩
    rw [BitVec.getMsbD_shiftLeft, BitVec.getMsbD_allOnes]
    congr 1
    rw [eq_iff_iff]
    omega

/-- **The mask compares the first bits.** -/
theorem and_mask_eq_iff {w p : ℕ} (h : p ≤ w) {mask : BitVec w}
    (hmask : ∀ i < w, mask.getMsbD i = decide (i < p)) (a n : BitVec w) :
    a &&& mask = n &&& mask ↔ ∀ i < p, a.getMsbD i = n.getMsbD i := by
  constructor
  · intro heq i hi
    have hbit := congrArg (BitVec.getMsbD · i) heq
    simpa only [BitVec.getMsbD_and, hmask i (hi.trans_le h), hi, decide_true, Bool.and_true]
      using hbit
  · intro hbits
    refine BitVec.eq_of_getMsbD_eq fun i hi => ?_
    rw [BitVec.getMsbD_and, BitVec.getMsbD_and, hmask i hi]
    by_cases hp : i < p
    · rw [hbits i hp]
    · simp only [hp, decide_false, Bool.and_false]

/-- The addresses are of one family, and their first `p` bits agree. -/
def SamePrefix (p : ℕ) : IpAddr → IpAddr → Prop
  | .v4 a, .v4 n => p ≤ 32 ∧ ∀ i < p, a.getMsbD i = n.getMsbD i
  | .v6 a, .v6 n => p ≤ 128 ∧ ∀ i < p, a.getMsbD i = n.getMsbD i
  | _, _ => False

end Net
