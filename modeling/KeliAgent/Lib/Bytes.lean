import Mathlib

/-!
# Big-endian integers and slices of byte lists

* `toBe k n`: the low `k` bytes of `n`, most significant first; `ofBe`: the number a byte list
  spells. **`ofBe_toBe`**, **`toBe_ofBe`**: at a fixed width each undoes the other.
* `slice bs i j`: the bytes at positions `i, …, j - 1`; `range? bs i j`: the same, if the list has
  all of them.
-/

namespace Wire

/-- The low `k` bytes of `n`, most significant first. -/
def toBe : ℕ → ℕ → List UInt8
  | 0, _ => []
  | k + 1, n => UInt8.ofNat (n / 256 ^ k) :: toBe k n

/-- The number spelled by a byte list, most significant byte first. -/
def ofBe (bs : List UInt8) : ℕ := bs.foldl (fun acc b => acc * 256 + b.toNat) 0

/-- The bytes `bs[i..j]`. -/
def slice {α : Type} (bs : List α) (i j : ℕ) : List α := (bs.drop i).take (j - i)

/-- The bytes `bs[i..j]`, or `none` where Rust would panic. -/
def range? {α : Type} (bs : List α) (i j : ℕ) : Option (List α) :=
  if i ≤ j ∧ j ≤ bs.length then some (slice bs i j) else none

@[simp] theorem length_toBe (k n : ℕ) : (toBe k n).length = k := by
  induction k with
  | zero => rfl
  | succ k ih => rw [toBe, List.length_cons, ih]

theorem foldl_be (bs : List UInt8) (a : ℕ) :
    bs.foldl (fun acc b => acc * 256 + b.toNat) a = a * 256 ^ bs.length + ofBe bs := by
  induction bs generalizing a with
  | nil => simp [ofBe]
  | cons b bs ih =>
    have h : ofBe (b :: bs) = b.toNat * 256 ^ bs.length + ofBe bs := by
      rw [ofBe, List.foldl_cons, ih, zero_mul, zero_add]
    rw [List.foldl_cons, ih, h, List.length_cons]
    ring

theorem ofBe_cons (b : UInt8) (bs : List UInt8) :
    ofBe (b :: bs) = b.toNat * 256 ^ bs.length + ofBe bs := by
  rw [ofBe, List.foldl_cons, foldl_be, zero_mul, zero_add]

/-- **Reading back a fixed-width integer** gives it modulo the width. -/
theorem ofBe_toBe (k n : ℕ) : ofBe (toBe k n) = n % 256 ^ k := by
  induction k with
  | zero => simp [toBe, ofBe, Nat.mod_one]
  | succ k ih =>
    have h : n % 256 ^ (k + 1) = n % 256 ^ k + 256 ^ k * (n / 256 ^ k % 256) := Nat.mod_pow_succ
    rw [toBe, ofBe_cons, ih, length_toBe, UInt8.toNat_ofNat', h, Nat.add_comm, Nat.mul_comm]

theorem ofBe_lt (bs : List UInt8) : ofBe bs < 256 ^ bs.length := by
  induction bs with
  | nil => simp [ofBe]
  | cons b bs ih =>
    rw [ofBe_cons, List.length_cons, pow_succ]
    have hb := b.toNat_lt
    nlinarith

theorem toBe_add_mul (k a r : ℕ) : toBe k (a * 256 ^ k + r) = toBe k r := by
  induction k generalizing a with
  | zero => rfl
  | succ k ih =>
    have e : a * 256 ^ (k + 1) + r = a * 256 * 256 ^ k + r := by ring
    rw [toBe, toBe, e, ih, Nat.mul_comm (a * 256), Nat.mul_add_div (by positivity)]
    congr 1
    rw [← UInt8.toNat_inj, UInt8.toNat_ofNat', UInt8.toNat_ofNat']
    omega

/-- **Every byte list is the big-endian form of the number it spells.** -/
theorem toBe_ofBe (bs : List UInt8) : toBe bs.length (ofBe bs) = bs := by
  induction bs with
  | nil => rfl
  | cons b bs ih =>
    have hlt := ofBe_lt bs
    rw [ofBe_cons, List.length_cons, toBe, toBe_add_mul, ih, Nat.mul_comm,
      Nat.mul_add_div (by positivity), Nat.div_eq_of_lt hlt, add_zero]
    congr 1
    rw [← UInt8.toNat_inj, UInt8.toNat_ofNat']
    exact Nat.mod_eq_of_lt b.toNat_lt

/-! Integers of eight and of two bytes. -/

theorem u64_ofBe_toBe (value : UInt64) : UInt64.ofNat (ofBe (toBe 8 value.toNat)) = value := by
  rw [ofBe_toBe, Nat.mod_eq_of_lt (b := 256 ^ 8) value.toNat_lt, UInt64.ofNat_toNat]

theorem toBe_u64_ofBe {bs : List UInt8} (h : bs.length = 8) :
    toBe 8 (UInt64.ofNat (ofBe bs)).toNat = bs := by
  have hlt : ofBe bs < 2 ^ 64 := (ofBe_lt bs).trans_eq (by rw [h]; rfl)
  rw [UInt64.toNat_ofNat', Nat.mod_eq_of_lt hlt, ← h, toBe_ofBe]

theorem u16_ofBe_toBe (value : UInt16) : UInt16.ofNat (ofBe (toBe 2 value.toNat)) = value := by
  rw [ofBe_toBe, Nat.mod_eq_of_lt (b := 256 ^ 2) value.toNat_lt, UInt16.ofNat_toNat]

theorem toBe_u16_ofBe {bs : List UInt8} (h : bs.length = 2) :
    toBe 2 (UInt16.ofNat (ofBe bs)).toNat = bs := by
  have hlt : ofBe bs < 2 ^ 16 := (ofBe_lt bs).trans_eq (by rw [h]; rfl)
  rw [UInt16.toNat_ofNat', Nat.mod_eq_of_lt hlt, ← h, toBe_ofBe]

theorem length_slice {α : Type} (bs : List α) (i j : ℕ) :
    (slice bs i j).length = min (j - i) (bs.length - i) := by
  rw [slice, List.length_take, List.length_drop]

theorem slice_append_drop {α : Type} (bs : List α) {i j : ℕ} (h : i ≤ j) :
    slice bs i j ++ bs.drop j = bs.drop i := by
  have hj : bs.drop j = (bs.drop i).drop (j - i) := by rw [List.drop_drop]; congr 1; omega
  rw [slice, hj, List.take_append_drop]

/-- A slice at the front of what follows a position. -/
theorem slice_eq_of_drop_eq {α : Type} {bs as rest : List α} {i : ℕ}
    (h : bs.drop i = as ++ rest) : slice bs i (i + as.length) = as := by
  rw [slice, h, Nat.add_sub_cancel_left, List.take_left]

theorem getD_cons_drop {α : Type} (bs : List α) {i : ℕ} (d : α) (h : i < bs.length) :
    bs.getD i d :: bs.drop (i + 1) = bs.drop i := by
  rw [List.drop_eq_getElem_cons h, List.getD_eq_getElem bs d h]

/-- The big-endian integer in a slice of `k` bytes, written back. -/
theorem toBe_ofBe_slice (bs : List UInt8) {i j k : ℕ} (hk : j - i = k) (h : j ≤ bs.length) :
    toBe k (ofBe (slice bs i j)) = slice bs i j := by
  have hl : (slice bs i j).length = k := by rw [length_slice]; omega
  rw [← hl, toBe_ofBe]

/-- A slice that ends inside a list does not see what is appended to it. -/
theorem slice_append {α : Type} (bs cs : List α) {i j : ℕ} (h : j ≤ bs.length) :
    slice (bs ++ cs) i j = slice bs i j := by
  rcases Nat.lt_or_ge j i with hji | hij
  · simp [slice, Nat.sub_eq_zero_of_le hji.le]
  · rw [slice, List.drop_append_of_le_length (by omega), List.take_append_of_le_length, slice]
    rw [List.length_drop]
    omega

theorem getD_append_left {α : Type} (bs cs : List α) {i : ℕ} (d : α) (h : i < bs.length) :
    (bs ++ cs).getD i d = bs.getD i d := by
  simp [List.getD, List.getElem?_append_left h]

end Wire
