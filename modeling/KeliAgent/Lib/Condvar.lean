import Mathlib

/-!
# Condition variables

Threads sleep on a condition variable until they are notified, or wake early: at a timeout or for no
reason. Which of the sleeping threads a notification reaches is not known, so they are only counted.

* `Condvar`: how many sleep without having been notified, and how many were notified and have not
  run yet.
* **`NoneLost`**: as long as somebody sleeps, there are no more items than threads on their way to
  them: some that were notified, and some that are `coming`, to notify or to look. Kept by every
  operation.
-/

structure Condvar where
  sleeping : ℕ
  notified : ℕ
  deriving DecidableEq, Repr

namespace Condvar

def empty : Condvar := ⟨0, 0⟩

variable (cv : Condvar)

def sleep : Condvar := { cv with sleeping := cv.sleeping + 1 }

def notifyOne : Condvar :=
  if cv.sleeping = 0 then cv else ⟨cv.sleeping - 1, cv.notified + 1⟩

/-- A thread that was notified runs. -/
def wake : Option Condvar :=
  if cv.notified = 0 then none else some { cv with notified := cv.notified - 1 }

/-- A thread that was not notified runs all the same. -/
def wakeEarly : Option Condvar :=
  if cv.sleeping = 0 then none else some { cv with sleeping := cv.sleeping - 1 }

/-- All that sleep, notified or not. -/
def asleep : ℕ := cv.sleeping + cv.notified

def NoneLost (items coming : ℕ) : Prop := 0 < cv.sleeping → items ≤ cv.notified + coming

variable {cv} {cv' : Condvar} {items coming : ℕ}

@[simp] theorem asleep_sleep : cv.sleep.asleep = cv.asleep + 1 := by
  simp only [sleep, asleep]
  omega

@[simp] theorem asleep_notifyOne : cv.notifyOne.asleep = cv.asleep := by
  unfold notifyOne asleep
  split_ifs
  · rfl
  · simp only
    omega

theorem asleep_wake (h : cv.wake = some cv') : cv'.asleep + 1 = cv.asleep := by
  unfold wake at h
  split_ifs at h
  cases h
  simp only [asleep]
  omega

theorem asleep_wakeEarly (h : cv.wakeEarly = some cv') : cv'.asleep + 1 = cv.asleep := by
  unfold wakeEarly at h
  split_ifs at h
  cases h
  simp only [asleep]
  omega

theorem wake_isSome (h : 0 < cv.notified) : ∃ cv', cv.wake = some cv' :=
  ⟨_, if_neg h.ne'⟩

namespace NoneLost

theorem empty : Condvar.empty.NoneLost items coming := fun h => absurd h (lt_irrefl 0)

theorem mono (h : cv.NoneLost items coming) {items' coming' : ℕ}
    (hle : items' + coming ≤ items + coming') : cv.NoneLost items' coming' := by
  intro hsleeping
  have := h hsleeping
  omega

/-- Nobody is needed where there is nothing. -/
theorem of_none (cv : Condvar) (coming : ℕ) : cv.NoneLost 0 coming := fun _ => Nat.zero_le _

/-- The thread that was coming to notify has done so. -/
theorem notifyOne (h : cv.NoneLost items (coming + 1)) : cv.notifyOne.NoneLost items coming := by
  unfold Condvar.notifyOne
  split_ifs with hnone
  · exact fun hsleeping => absurd hnone hsleeping.ne'
  · intro _
    have := h (Nat.pos_of_ne_zero hnone)
    simp only
    omega

/-- A thread that wakes comes to look. -/
theorem wake (h : cv.NoneLost items coming) (hwake : cv.wake = some cv') :
    cv'.NoneLost items (coming + 1) := by
  unfold Condvar.wake at hwake
  split_ifs at hwake
  cases hwake
  intro hsleeping
  have := h hsleeping
  simp only
  omega

theorem wakeEarly (h : cv.NoneLost items coming) (hwake : cv.wakeEarly = some cv') :
    cv'.NoneLost items (coming + 1) := by
  unfold Condvar.wakeEarly at hwake
  split_ifs at hwake with hnone
  cases hwake
  intro _
  have := h (Nat.pos_of_ne_zero hnone)
  simp only
  omega

end NoneLost

end Condvar
