import Mathlib

/-!
# A read cursor over a growing buffer

A buffer with a read offset. Reading only moves the offset; the consumed prefix is removed lazily,
when a push would not fit otherwise or when the prefix is long and at least half of the buffer.

* `Cursor.unread`: what is still to be read; it is all that the operations depend on
  (`unread_compact`, **`unread_push`**, **`unread_consume`**).
* `Cursor.Bounded`: the offset lies in the buffer and the buffer within its limit; kept by
  `bounded_push` and `bounded_consume`.
-/

namespace Wire

/-- A buffer and the number of its elements already read. -/
structure Cursor (α : Type) where
  buffer : List α
  readOffset : ℕ
  deriving DecidableEq, Repr

namespace Cursor

variable {α : Type}

/-- The part of the buffer that is still to be read. -/
def unread (c : Cursor α) : List α := c.buffer.drop c.readOffset

def unreadLen (c : Cursor α) : ℕ := c.buffer.length - c.readOffset

/-- Drop the part already read. -/
def compact (c : Cursor α) : Cursor α :=
  if c.readOffset = 0 then c else ⟨c.buffer.drop c.readOffset, 0⟩

/-- Compact when `incoming` more elements would pass the limit. -/
def compactIfNeededForPush (limit incoming : ℕ) (c : Cursor α) : Cursor α :=
  if 0 < c.readOffset ∧ limit < c.buffer.length + incoming then c.compact else c

/-- Append a chunk. -/
def push (limit : ℕ) (chunk : List α) (c : Cursor α) : Cursor α :=
  let c' := c.compactIfNeededForPush limit chunk.length
  { c' with buffer := c'.buffer ++ chunk }

/-- Compact when everything is read, or when a prefix of at least `minPrefix` elements is read and
makes up half of the buffer. -/
def compactAfterConsume (minPrefix : ℕ) (c : Cursor α) : Cursor α :=
  if c.readOffset = 0 then c
  else if c.readOffset = c.buffer.length then ⟨[], 0⟩
  else if minPrefix ≤ c.readOffset ∧ c.buffer.length ≤ c.readOffset * 2 then c.compact
  else c

/-- Mark `len` more elements as read. -/
def consume (minPrefix len : ℕ) (c : Cursor α) : Cursor α :=
  compactAfterConsume minPrefix { c with readOffset := c.readOffset + len }

/-- The offset lies in the buffer, and the buffer within its limit. -/
def Bounded (limit : ℕ) (c : Cursor α) : Prop :=
  c.readOffset ≤ c.buffer.length ∧ c.buffer.length ≤ limit

theorem length_unread (c : Cursor α) : c.unread.length = c.unreadLen := by
  rw [unread, List.length_drop, unreadLen]

theorem unread_compact (c : Cursor α) : c.compact.unread = c.unread := by
  unfold compact
  split_ifs
  · rfl
  · rw [unread, unread, List.drop_zero]

theorem Bounded.compact {limit : ℕ} {c : Cursor α} (h : c.Bounded limit) :
    c.compact.Bounded limit := by
  unfold Cursor.compact
  split_ifs
  · exact h
  · refine ⟨Nat.zero_le _, ?_⟩
    rw [List.length_drop]
    exact (Nat.sub_le _ _).trans h.2

/-- **A push appends to the unread part.** -/
theorem unread_push {limit : ℕ} {c : Cursor α} (h : c.Bounded limit) (chunk : List α) :
    (c.push limit chunk).unread = c.unread ++ chunk := by
  have key : ∀ c' : Cursor α, c'.readOffset ≤ c'.buffer.length →
      unread { c' with buffer := c'.buffer ++ chunk } = c'.unread ++ chunk := by
    intro c' hc'
    rw [unread, List.drop_append_of_le_length hc', unread]
  unfold push compactIfNeededForPush
  split_ifs
  · rw [key _ h.compact.1, unread_compact]
  · exact key c h.1

theorem bounded_push {limit : ℕ} {c : Cursor α} (h : c.Bounded limit) {chunk : List α}
    (hfit : c.unreadLen + chunk.length ≤ limit) : (c.push limit chunk).Bounded limit := by
  have h1 := h.1
  unfold unreadLen at hfit
  unfold push compactIfNeededForPush
  split_ifs with hc
  · -- the consumed prefix is dropped, so only the unread part counts
    rw [Cursor.compact, if_neg (by omega)]
    refine ⟨Nat.zero_le _, ?_⟩
    simp only [List.length_append, List.length_drop]
    exact hfit
  · refine ⟨?_, ?_⟩
    · simp only [List.length_append]
      omega
    · simp only [List.length_append]
      omega

/-- **Consuming drops from the unread part.** -/
theorem unread_consume (minPrefix len : ℕ) (c : Cursor α) :
    (c.consume minPrefix len).unread = c.unread.drop len := by
  have hm : unread { c with readOffset := c.readOffset + len } = c.unread.drop len := by
    rw [unread, unread, List.drop_drop]
  rw [← hm]
  unfold consume compactAfterConsume
  split_ifs with h0 hall hhalf
  · rfl
  · -- everything is read
    simp only at hall
    simp only [unread, hall, List.drop_length, List.drop_nil]
  · exact unread_compact _
  · rfl

theorem bounded_consume {limit : ℕ} (minPrefix : ℕ) {len : ℕ} {c : Cursor α} (h : c.Bounded limit)
    (hlen : len ≤ c.unread.length) : (c.consume minPrefix len).Bounded limit := by
  have hb : Bounded limit { c with readOffset := c.readOffset + len } := by
    rw [length_unread, unreadLen] at hlen
    have := h.1
    exact ⟨by simp only; omega, h.2⟩
  unfold consume compactAfterConsume
  split_ifs
  · exact hb
  · exact ⟨le_rfl, Nat.zero_le _⟩
  · exact hb.compact
  · exact hb

end Cursor

end Wire
