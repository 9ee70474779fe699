import Mathlib

/-!
# The date of the last billing reset

`reset_date_ymd` of `linux_proc.rs`. Traffic is counted from the last reset: a day of the month, or
the first day of the next month if the month is too short. Years are `i32`, months and days are
`u32`; `none` is an overflow.

* `actualResetDate_cases`: the reset of a month is in that month, or on the first day after it.
* **`reset_date_greatest`**: the result is the last reset that is not after the given date.
-/

namespace KeliAgent

/-! ## Dates -/

@[ext] structure Date where
  year : ℤ
  month : ℕ
  day : ℕ
  deriving DecidableEq, Repr

namespace Date

/-- The tuple that the code compares. -/
def key (d : Date) : ℤ ×ₗ ℕ ×ₗ ℕ := toLex (d.year, toLex (d.month, d.day))

theorem key_injective : Function.Injective key :=
  Function.LeftInverse.injective
    (g := fun k => ⟨(ofLex k).1, (ofLex (ofLex k).2).1, (ofLex (ofLex k).2).2⟩) fun _ => rfl

instance : LinearOrder Date := LinearOrder.lift' key key_injective

theorem le_iff {a b : Date} : a ≤ b ↔ a.year < b.year ∨ a.year = b.year ∧
    (a.month < b.month ∨ a.month = b.month ∧ a.day ≤ b.day) := by
  refine (Prod.Lex.le_iff (x := a.key) (y := b.key)).trans ?_
  exact or_congr_right (and_congr_right fun _ => Prod.Lex.le_iff)

end Date

def InI32 (n : ℤ) : Prop := -2 ^ 31 ≤ n ∧ n < 2 ^ 31

instance (n : ℤ) : Decidable (InI32 n) := inferInstanceAs (Decidable (_ ∧ _))

/-- The result of an operation on `i32`. -/
def checkedI32 (n : ℤ) : Option ℤ := if InI32 n then some n else none

/-- The result of an operation on `u32`. -/
def checkedU32 (n : ℤ) : Option ℕ := if 0 ≤ n ∧ n < 2 ^ 32 then some n.toNat else none

/-! ## The code -/

/-- The remainder of Rust has the sign of the year. -/
def isLeapYear (year : ℤ) : Bool :=
  (year.tmod 4 == 0 && year.tmod 100 != 0) || year.tmod 400 == 0

def daysInMonth (year : ℤ) (month : ℕ) : ℕ :=
  match month with
  | 1 | 3 | 5 | 7 | 8 | 10 | 12 => 31
  | 4 | 6 | 9 | 11 => 30
  | 2 => if isLeapYear year then 29 else 28
  | _ => 31

def actualResetDate (year : ℤ) (month resetDay : ℕ) : Option Date :=
  let lastDay := daysInMonth year month
  if resetDay ≤ lastDay then some ⟨year, month, resetDay⟩
  else if month = 12 then (checkedI32 (year + 1)).map fun year => ⟨year, 1, 1⟩
  else (checkedU32 (month + 1)).map fun month => ⟨year, month, 1⟩

def resetDateYmd (resetDay : ℕ) (date : Date) : Option Date :=
  if ¬ (1 ≤ resetDay ∧ resetDay ≤ 31) then some date
  else do
    let currentReset ← actualResetDate date.year date.month resetDay
    if currentReset ≤ date then return currentReset
    let (previousYear, previousMonth) ←
      (if date.month = 1 then (checkedI32 (date.year - 1)).map fun year => (year, 12)
        else (checkedU32 (date.month - 1)).map fun month => (date.year, month))
    actualResetDate previousYear previousMonth resetDay

/-! ## Boundaries -/

/-- The date is a day of the calendar. -/
structure Date.Valid (d : Date) : Prop where
  year : InI32 d.year
  month : 1 ≤ d.month ∧ d.month ≤ 12
  day : 1 ≤ d.day ∧ d.day ≤ daysInMonth d.year d.month

/-- The number of the month, over all years. -/
def Date.monthIndex (d : Date) : ℤ := 12 * d.year + d.month

/-- The date is the reset of some month. -/
def Boundary (resetDay : ℕ) (b : Date) : Prop :=
  ∃ year month, InI32 year ∧ 1 ≤ month ∧ month ≤ 12 ∧ actualResetDate year month resetDay = some b

theorem daysInMonth_bounds (year : ℤ) (month : ℕ) :
    28 ≤ daysInMonth year month ∧ daysInMonth year month ≤ 31 := by
  unfold daysInMonth
  split
  all_goals first | omega | (split_ifs <;> omega)

/-- **The reset of a month** is on its day in that month, or on the first day of the next one. -/
theorem actualResetDate_cases {year : ℤ} {month resetDay : ℕ} (hyear : InI32 year)
    (hmonth : 1 ≤ month ∧ month ≤ 12) (hreset : 1 ≤ resetDay ∧ resetDay ≤ 31) :
    ∃ b, actualResetDate year month resetDay = some b ∧ b.Valid ∧
      (b.monthIndex = 12 * year + month ∧ b.day = resetDay ∨
        b.monthIndex = 12 * year + month + 1 ∧ b.day = 1 ∧ daysInMonth year month < resetDay) := by
  unfold actualResetDate
  by_cases hday : resetDay ≤ daysInMonth year month
  · exact ⟨_, if_pos hday, ⟨hyear, hmonth, hreset.1, hday⟩, Or.inl ⟨rfl, rfl⟩⟩
  · -- December has as many days as there can be
    have hdecember : month ≠ 12 := by
      rintro rfl
      exact hday hreset.2
    have hnext : checkedU32 (month + 1) = some (month + 1) := by
      rw [checkedU32, if_pos (by omega)]
      rfl
    have hbounds := daysInMonth_bounds year (month + 1)
    have hvalid : Date.Valid ⟨year, month + 1, 1⟩ :=
      ⟨hyear, ⟨by simp only; omega, by simp only; omega⟩, le_rfl, by simp only; omega⟩
    refine ⟨⟨year, month + 1, 1⟩, ?_, hvalid, Or.inr ⟨?_, rfl, not_le.mp hday⟩⟩
    · simp only [if_neg hday, if_neg hdecember, hnext, Option.map_some]
    · simp only [Date.monthIndex]
      push_cast
      ring

/-- Dates are compared by month, and then by day. -/
theorem Date.Valid.le_iff {a b : Date} (ha : a.Valid) (hb : b.Valid) :
    a ≤ b ↔ a.monthIndex < b.monthIndex ∨ a.monthIndex = b.monthIndex ∧ a.day ≤ b.day := by
  have ha' := ha.month
  have hb' := hb.month
  unfold Date.monthIndex
  rw [Date.le_iff]
  omega

/-- The date is the reset of the month of this number. -/
def ResetOf (resetDay : ℕ) (index : ℤ) (b : Date) : Prop :=
  ∃ (year : ℤ) (month : ℕ), InI32 year ∧ 1 ≤ month ∧ month ≤ 12 ∧ 12 * year + month = index ∧
    actualResetDate year month resetDay = some b

theorem boundary_iff {resetDay : ℕ} {b : Date} :
    Boundary resetDay b ↔ ∃ index, ResetOf resetDay index b := by
  constructor
  · rintro ⟨year, month, hyear, hlow, hhigh, hb⟩
    exact ⟨_, year, month, hyear, hlow, hhigh, rfl, hb⟩
  · rintro ⟨_, year, month, hyear, hlow, hhigh, -, hb⟩
    exact ⟨year, month, hyear, hlow, hhigh, hb⟩

theorem ResetOf.unique {resetDay : ℕ} {index : ℤ} {a b : Date} (ha : ResetOf resetDay index a)
    (hb : ResetOf resetDay index b) : a = b := by
  obtain ⟨year, month, -, hlow, hhigh, hindex, ha⟩ := ha
  obtain ⟨year', month', -, hlow', hhigh', hindex', hb⟩ := hb
  obtain rfl : year = year' := by omega
  obtain rfl : month = month' := by omega
  exact Option.some.inj (ha.symm.trans hb)

theorem ResetOf.valid_and_place {resetDay : ℕ} {index : ℤ} {b : Date}
    (hb : ResetOf resetDay index b) (hreset : 1 ≤ resetDay ∧ resetDay ≤ 31) :
    b.Valid ∧ (b.monthIndex = index ∧ b.day = resetDay ∨ b.monthIndex = index + 1 ∧ b.day = 1) := by
  obtain ⟨year, month, hyear, hlow, hhigh, rfl, hb⟩ := hb
  obtain ⟨_, hb', hvalid, hplace⟩ := actualResetDate_cases hyear ⟨hlow, hhigh⟩ hreset
  cases hb.symm.trans hb'
  exact ⟨hvalid, hplace.imp_right fun h => ⟨h.1, h.2.1⟩⟩

/-! ## The result -/

/-- The month before that of the date, unless that is the first of all months. -/
theorem previousMonth_eq {d : Date} (hd : d.Valid) (hmin : 12 * -2 ^ 31 + 1 < d.monthIndex) :
    ∃ year month, (if d.month = 1 then (checkedI32 (d.year - 1)).map fun year => (year, 12)
        else (checkedU32 (d.month - 1)).map fun month => (d.year, month)) = some (year, month) ∧
      InI32 year ∧ (1 ≤ month ∧ month ≤ 12) ∧ 12 * year + month = d.monthIndex - 1 := by
  obtain ⟨hlow, hhigh⟩ := hd.year
  have hmonth := hd.month
  unfold Date.monthIndex at hmin ⊢
  by_cases hjanuary : d.month = 1
  · have hyear : InI32 (d.year - 1) := ⟨by omega, by omega⟩
    refine ⟨d.year - 1, 12, ?_, hyear, by omega, by omega⟩
    rw [if_pos hjanuary, checkedI32, if_pos hyear, Option.map_some]
  · refine ⟨d.year, d.month - 1, ?_, ⟨hlow, hhigh⟩, by omega, by omega⟩
    rw [if_neg hjanuary, checkedU32, if_pos (by omega), Option.map_some]
    congr 2
    omega

/-- The reset of the month of the date, or that of the month before if it is still to come. -/
theorem resetDateYmd_eq {resetDay : ℕ} (hreset : 1 ≤ resetDay ∧ resetDay ≤ 31) {d : Date}
    (hd : d.Valid) (hmin : 12 * -2 ^ 31 + 1 < d.monthIndex) :
    ∃ current previous, ResetOf resetDay d.monthIndex current ∧
      ResetOf resetDay (d.monthIndex - 1) previous ∧
      resetDateYmd resetDay d = some (if current ≤ d then current else previous) := by
  obtain ⟨current, hcurrent, -⟩ := actualResetDate_cases hd.year hd.month hreset
  obtain ⟨year, month, hsome, hyear, hmonth, hindex⟩ := previousMonth_eq hd hmin
  obtain ⟨previous, hprevious, -⟩ := actualResetDate_cases hyear hmonth hreset
  refine ⟨current, previous, ⟨_, _, hd.year, hd.month.1, hd.month.2, rfl, hcurrent⟩,
    ⟨_, _, hyear, hmonth.1, hmonth.2, hindex, hprevious⟩, ?_⟩
  simp only [resetDateYmd, if_neg (not_not.mpr hreset), hcurrent, hsome, Option.bind_eq_bind,
    Option.bind_some, hprevious]
  split_ifs <;> rfl

/-- **The last reset.** The result is the greatest boundary up to the date, at most one month
back. -/
theorem resetDateYmd_isGreatest {resetDay : ℕ} (hreset : 1 ≤ resetDay ∧ resetDay ≤ 31) {d : Date}
    (hd : d.Valid) (hmin : 12 * -2 ^ 31 + 1 < d.monthIndex) :
    ∃ r, resetDateYmd resetDay d = some r ∧ r.Valid ∧ d.monthIndex - 1 ≤ r.monthIndex ∧
      IsGreatest {b | Boundary resetDay b ∧ b ≤ d} r := by
  obtain ⟨current, previous, hcurrent, hprevious, heq⟩ := resetDateYmd_eq hreset hd hmin
  obtain ⟨hcvalid, hcplace⟩ := hcurrent.valid_and_place hreset
  obtain ⟨hpvalid, hpplace⟩ := hprevious.valid_and_place hreset
  have hday := hd.day
  by_cases hle : current ≤ d
  · refine ⟨current, by rw [heq, if_pos hle], hcvalid, by omega, ⟨?_, hle⟩, ?_⟩
    · exact boundary_iff.mpr ⟨_, hcurrent⟩
    -- the reset of this month has passed: a boundary of an earlier one is before it
    rintro b ⟨hb, hbd⟩
    obtain ⟨index, hb⟩ := boundary_iff.mp hb
    obtain ⟨hbvalid, hbplace⟩ := hb.valid_and_place hreset
    rw [hcvalid.le_iff hd] at hle
    rw [hbvalid.le_iff hd] at hbd
    rw [hbvalid.le_iff hcvalid]
    omega
  · refine ⟨previous, by rw [heq, if_neg hle], hpvalid, by omega, ⟨?_, ?_⟩, ?_⟩
    · exact boundary_iff.mpr ⟨_, hprevious⟩
    · rw [hpvalid.le_iff hd]
      omega
    rintro b ⟨hb, hbd⟩
    obtain ⟨index, hb⟩ := boundary_iff.mp hb
    obtain ⟨hbvalid, hbplace⟩ := hb.valid_and_place hreset
    -- the reset of this month is still to come, and that of the month before is the result
    rcases eq_or_ne index d.monthIndex with rfl | hne
    · exact absurd (hb.unique hcurrent ▸ hbd) hle
    rcases eq_or_ne index (d.monthIndex - 1) with rfl | hne'
    · exact (hb.unique hprevious).le
    rw [hbvalid.le_iff hd] at hbd
    rw [hbvalid.le_iff hpvalid]
    omega

/-- **The billing reset date.** For every reset day and every date of the calendar the result is a
date of the calendar and the last boundary up to the given date. It is monotone, and a second
application returns the same date. -/
theorem reset_date_greatest (resetDay : ℕ) (hreset : 1 ≤ resetDay ∧ resetDay ≤ 31) (d : Date)
    (hd : d.Valid) (hmin : -2 ^ 31 < d.year) :
    ∃ r, resetDateYmd resetDay d = some r ∧ r.Valid ∧ Boundary resetDay r ∧ r ≤ d ∧
      (∀ b, Boundary resetDay b → b ≤ d → ¬ r < b) ∧
      (∀ d', d'.Valid → d ≤ d' → ∃ r', resetDateYmd resetDay d' = some r' ∧ r ≤ r') ∧
      resetDateYmd resetDay r = some r := by
  have hmonth := hd.month
  have hmin' : 12 * -2 ^ 31 + 12 < d.monthIndex := by
    unfold Date.monthIndex
    omega
  obtain ⟨r, hr, hvalid, hback, ⟨hboundary, hle⟩, hgreatest⟩ :=
    resetDateYmd_isGreatest hreset hd (by omega)
  refine ⟨r, hr, hvalid, hboundary, hle, fun b hb hbd => ?_, fun d' hd' hdd' => ?_, ?_⟩
  · exact not_lt.mpr (hgreatest ⟨hb, hbd⟩)
  · have hmin'' : 12 * -2 ^ 31 + 1 < d'.monthIndex := by
      rw [hd.le_iff hd'] at hdd'
      omega
    obtain ⟨r', hr', -, -, -, hgreatest'⟩ := resetDateYmd_isGreatest hreset hd' hmin''
    exact ⟨r', hr', hgreatest' ⟨hboundary, hle.trans hdd'⟩⟩
  · -- the result is a boundary up to itself
    obtain ⟨r', hr', -, -, ⟨-, hle'⟩, hgreatest'⟩ :=
      resetDateYmd_isGreatest hreset hvalid (by omega)
    rw [hr', le_antisymm hle' (hgreatest' ⟨hboundary, le_rfl⟩)]

/-- February is too short for the 30th, so the first of March is a reset. -/
theorem reset_date_first_of_march :
    Date.Valid ⟨2023, 3, 29⟩ ∧ resetDateYmd 30 ⟨2023, 3, 29⟩ = some ⟨2023, 3, 1⟩ ∧
      resetDateYmd 30 ⟨2023, 3, 1⟩ = some ⟨2023, 3, 1⟩ := by
  have hd : Date.Valid ⟨2023, 3, 29⟩ := ⟨by decide, by decide, by decide⟩
  obtain ⟨r, hr, -, -, -, -, -, hidem⟩ :=
    reset_date_greatest 30 (by decide) ⟨2023, 3, 29⟩ hd (by decide)
  have heq : resetDateYmd 30 ⟨2023, 3, 29⟩ = some ⟨2023, 3, 1⟩ := by decide
  cases hr.symm.trans heq
  exact ⟨hd, heq, hidem⟩

end KeliAgent
