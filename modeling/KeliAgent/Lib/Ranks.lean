import Mathlib

/-!
# Ranks and histograms

The `k`-th smallest element of a list, and how the counts of a histogram lead to its bucket.

* `kthSmallest`: counted from one. `countP_lt_of_kthSmallest`, `le_countP_of_kthSmallest`: fewer
  than `k` elements are smaller, and `k` elements are not larger.
* `bucketOf`: the first bound that is not exceeded; `isLeast_bucketOf`.
* `reach`: the first bucket at which the counts add up to a rank. **`reach_counts`**: for the rank
  `k` this is the bucket of the `k`-th smallest element.
-/

namespace Ranks

/-! ## Order statistics -/

section Order

variable {α : Type} [LinearOrder α]

/-- The `k`-th smallest element, counted from one. -/
def kthSmallest (xs : List α) (k : ℕ) : Option α := (xs.mergeSort (· ≤ ·))[k - 1]?

theorem pairwise_mergeSort_le (xs : List α) : (xs.mergeSort (· ≤ ·)).Pairwise (· ≤ ·) :=
  List.pairwise_mergeSort' (· ≤ ·) xs

/-- In a sorted list the elements before a place are not larger, those behind it not smaller. -/
theorem countP_of_pairwise {xs : List α} (h : xs.Pairwise (· ≤ ·)) {i : ℕ} {t : α}
    (hi : xs[i]? = some t) : xs.countP (· < t) ≤ i ∧ i < xs.countP (· ≤ t) := by
  induction xs generalizing i with
  | nil => cases hi
  | cons x xs ih =>
    obtain ⟨hx, hxs⟩ := List.pairwise_cons.mp h
    cases i with
    | zero =>
      have heq : x = t := Option.some.inj hi
      subst heq
      have hnone : xs.countP (· < x) = 0 :=
        List.countP_eq_zero.mpr fun y hy => by simpa using hx y hy
      constructor
      · rw [List.countP_cons, hnone]
        simp
      · rw [List.countP_cons]
        simp
    | succ i =>
      obtain ⟨hlt, hle⟩ := ih hxs hi
      have hxt : x ≤ t := hx t (List.mem_of_getElem? hi)
      rw [List.countP_cons, List.countP_cons]
      constructor
      · split_ifs <;> omega
      · rw [if_pos (decide_eq_true hxt)]
        omega

section Kth

variable {xs : List α} {k : ℕ} {t : α}

theorem countP_lt_of_kthSmallest (hk : 1 ≤ k) (h : kthSmallest xs k = some t) :
    xs.countP (· < t) < k := by
  have hcount := (countP_of_pairwise (pairwise_mergeSort_le xs) h).1
  rw [(List.mergeSort_perm xs _).countP_eq] at hcount
  omega

theorem le_countP_of_kthSmallest (h : kthSmallest xs k = some t) : k ≤ xs.countP (· ≤ t) := by
  have hcount := (countP_of_pairwise (pairwise_mergeSort_le xs) h).2
  rw [(List.mergeSort_perm xs _).countP_eq] at hcount
  omega

theorem mem_of_kthSmallest (h : kthSmallest xs k = some t) : t ∈ xs :=
  (List.mergeSort_perm xs _).mem_iff.mp (List.mem_of_getElem? h)

theorem exists_kthSmallest (hk : 1 ≤ k) (hle : k ≤ xs.length) : ∃ t, kthSmallest xs k = some t := by
  refine ⟨_, List.getElem?_eq_getElem ?_⟩
  rw [List.length_mergeSort]
  omega

theorem kthSmallest_mono {k' : ℕ} {t' : α} (hkk' : k ≤ k') (h : kthSmallest xs k = some t)
    (h' : kthSmallest xs k' = some t') : t ≤ t' := by
  obtain ⟨hi, rfl⟩ := List.getElem?_eq_some_iff.mp h
  obtain ⟨hi', rfl⟩ := List.getElem?_eq_some_iff.mp h'
  exact (pairwise_mergeSort_le xs).rel_get_of_le (show k - 1 ≤ k' - 1 by omega)

end Kth

/-! ## Bounds -/

/-- The first bound that is not exceeded, or else the last one. -/
def bucketOf (bounds : List α) (x : α) : ℕ :=
  (bounds.findIdx? (x ≤ ·)).getD (bounds.length - 1)

theorem bucketOf_lt {bounds : List α} (h : bounds ≠ []) (x : α) :
    bucketOf bounds x < bounds.length := by
  have hpos := List.length_pos_iff.mpr h
  rw [bucketOf]
  cases hfind : bounds.findIdx? (x ≤ ·) with
  | none => exact Nat.sub_lt hpos Nat.one_pos
  | some i => exact (List.findIdx?_eq_some_iff_getElem.mp hfind).1

theorem bucketOf_mono {bounds : List α} (h : bounds ≠ []) {x y : α} (hxy : x ≤ y) :
    bucketOf bounds x ≤ bucketOf bounds y := by
  have hlt := bucketOf_lt h x
  rw [bucketOf] at hlt
  rw [bucketOf, bucketOf]
  cases hy : bounds.findIdx? (y ≤ ·) with
  | none =>
    rw [Option.getD_none]
    omega
  | some j =>
    obtain ⟨hj, hyj, -⟩ := List.findIdx?_eq_some_iff_getElem.mp hy
    have hxj : x ≤ bounds[j] := hxy.trans (of_decide_eq_true hyj)
    cases hx : bounds.findIdx? (x ≤ ·) with
    | none =>
      have hnone := List.findIdx?_eq_none_iff.mp hx bounds[j] (List.getElem_mem hj)
      exact absurd hxj (of_decide_eq_false hnone)
    | some i =>
      obtain ⟨hi, -, hfirst⟩ := List.findIdx?_eq_some_iff_getElem.mp hx
      by_contra hlt
      exact hfirst j (not_le.mp hlt) (decide_eq_true hxj)

/-- The bucket of a value has the least bound that is not exceeded. -/
theorem isLeast_bucketOf {bounds : List α} (hsorted : bounds.Pairwise (· ≤ ·)) {x : α}
    (hx : ∃ b ∈ bounds, x ≤ b) {b : α} (hb : bounds[bucketOf bounds x]? = some b) :
    IsLeast {b | b ∈ bounds ∧ x ≤ b} b := by
  rw [bucketOf] at hb
  cases hfind : bounds.findIdx? (x ≤ ·) with
  | none =>
    obtain ⟨b', hb', hxb'⟩ := hx
    exact absurd hxb' (of_decide_eq_false (List.findIdx?_eq_none_iff.mp hfind b' hb'))
  | some i =>
    rw [hfind, Option.getD_some] at hb
    obtain ⟨hi, hxi, hfirst⟩ := List.findIdx?_eq_some_iff_getElem.mp hfind
    obtain ⟨-, rfl⟩ := List.getElem?_eq_some_iff.mp hb
    refine ⟨⟨List.getElem_mem hi, of_decide_eq_true hxi⟩, ?_⟩
    rintro b' ⟨hb', hxb'⟩
    obtain ⟨j, hj, rfl⟩ := List.getElem_of_mem hb'
    have hij : i ≤ j := not_lt.mp fun hji => hfirst j hji (decide_eq_true hxb')
    exact hsorted.rel_get_of_le (show (⟨i, hi⟩ : Fin _) ≤ ⟨j, hj⟩ from hij)

end Order

/-! ## Histograms -/

section Histogram

variable {β : Type} (bucket : β → ℕ)

/-- How many elements are in each of the first `n` buckets. -/
def counts (n : ℕ) (xs : List β) : List ℕ :=
  (List.range n).map fun i => xs.countP (bucket · = i)

@[simp] theorem length_counts (n : ℕ) (xs : List β) : (counts bucket n xs).length = n := by
  simp [counts]

theorem counts_nil (n : ℕ) : counts bucket n [] = List.replicate n 0 := by
  simp [counts, List.map_const']

theorem counts_concat (n : ℕ) (xs : List β) (x : β) :
    counts bucket n (xs ++ [x]) = (counts bucket n xs).modify (bucket x) (· + 1) := by
  apply List.ext_getElem?
  intro i
  rw [List.getElem?_modify, counts, counts, List.getElem?_map, List.getElem?_map]
  by_cases hi : i < n
  · rw [List.getElem?_range hi]
    by_cases hx : bucket x = i
    · simp [hx]
    · simp [hx]
  · rw [List.getElem?_eq_none (by simpa using hi)]
    simp

theorem countP_succ (xs : List β) (m : ℕ) :
    xs.countP (bucket · < m + 1) = xs.countP (bucket · < m) + xs.countP (bucket · = m) := by
  induction xs with
  | nil => rfl
  | cons x xs ih =>
    simp only [List.countP_cons, ih, decide_eq_true_eq]
    split_ifs <;> omega

/-- The first counts add up to the number of elements in the first buckets. -/
theorem sum_take_counts {n m : ℕ} (h : m ≤ n) (xs : List β) :
    ((counts bucket n xs).take m).sum = xs.countP (bucket · < m) := by
  rw [counts, ← List.map_take, List.take_range, min_eq_left h]
  clear h
  induction m with
  | zero => simp
  | succ m ih =>
    rw [List.range_succ, List.map_append, List.sum_append, ih, countP_succ]
    simp

/-- The first bucket at which the counts add up to a rank. -/
def reach (rank : ℕ) : List ℕ → Option ℕ
  | [] => none
  | count :: counts => if rank ≤ count then some 0 else (reach (rank - count) counts).map (· + 1)

theorem reach_eq_some {rank : ℕ} {counts : List ℕ} {i : ℕ} (hi : i < counts.length)
    (hreached : rank ≤ (counts.take (i + 1)).sum)
    (hbefore : (counts.take i).sum < rank) : reach rank counts = some i := by
  induction counts generalizing rank i with
  | nil => cases hi
  | cons count counts ih =>
    rw [reach]
    cases i with
    | zero =>
      rw [if_pos]
      simpa using hreached
    | succ i =>
      rw [List.take_succ_cons, List.sum_cons] at hreached hbefore
      rw [if_neg (by omega), ih (Nat.lt_of_succ_lt_succ hi) (by omega) (by omega)]
      rfl

end Histogram

/-- **The counts lead to the bucket of the `k`-th smallest element.** -/
theorem reach_counts {α : Type} [LinearOrder α] {bucket : α → ℕ} (hmono : Monotone bucket) {n k : ℕ}
    (hk : 1 ≤ k) {xs : List α} {t : α} (h : kthSmallest xs k = some t) (ht : bucket t < n) :
    reach k (counts bucket n xs) = some (bucket t) := by
  apply reach_eq_some
  · rwa [length_counts]
  · -- all elements up to `t` are in these buckets
    rw [sum_take_counts bucket ht]
    refine (le_countP_of_kthSmallest h).trans (List.countP_mono_left fun x _ hx => ?_)
    have hle : bucket x ≤ bucket t := hmono (of_decide_eq_true hx)
    exact decide_eq_true (by omega)
  · -- and the elements of earlier buckets are smaller than `t`
    rw [sum_take_counts bucket ht.le]
    refine (List.countP_mono_left fun x _ hx => ?_).trans_lt (countP_lt_of_kthSmallest hk h)
    refine decide_eq_true (not_le.mp fun hle => ?_)
    exact absurd (of_decide_eq_true hx) (not_lt.mpr (hmono hle))

end Ranks
