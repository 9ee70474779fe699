import Mathlib

/-!
# Incremental parsers

A parser looks at the front of its input and either asks for more, fails, or emits an item and
says how much of the input it used. Its answers other than `more` do not change when the input is
extended; this is what makes it *incremental*.

* `Parser.parseAll`: parse as far as possible, in one go.
* `Codec`: a stateful decoder that is fed chunks and polled for items, over a parser.
* **`Codec.parseAll_after`**: whatever was pushed and polled, the items emitted so far followed by
  the parse of what is still unread are the parse of everything.
* **`Codec.error_sticky`**: after a failing poll, every later poll fails in the same way.
-/

namespace Wire

/-- One answer of a parser. -/
inductive Poll (σ φ ε : Type) where
  | more
  | fail (error : ε)
  | emit (item : φ) (len : ℕ) (next : σ)

/-- A parser whose answers survive an extension of the input. -/
structure Parser (σ α φ ε : Type) where
  next : σ → List α → Poll σ φ ε
  emit_len : ∀ {s bs f n s'}, next s bs = .emit f n s' → 0 < n ∧ n ≤ bs.length
  emit_append : ∀ {s bs f n s'} (cs : List α), next s bs = .emit f n s' →
    next s (bs ++ cs) = .emit f n s'
  fail_append : ∀ {s bs e} (cs : List α), next s bs = .fail e → next s (bs ++ cs) = .fail e

/-- The result of parsing as far as possible: the items, the parser state and the input left at the
end, and the error met there, if any. -/
@[ext] structure Parsed (σ α φ ε : Type) where
  items : List φ
  state : σ
  rest : List α
  error : Option ε
  deriving DecidableEq, Repr

namespace Parsed

variable {σ α φ ε : Type}

/-- Put items in front of a result. -/
def prepend (fs : List φ) (r : Parsed σ α φ ε) : Parsed σ α φ ε := { r with items := fs ++ r.items }

@[simp] theorem prepend_nil (r : Parsed σ α φ ε) : r.prepend [] = r := rfl

theorem prepend_prepend (fs gs : List φ) (r : Parsed σ α φ ε) :
    (r.prepend gs).prepend fs = r.prepend (fs ++ gs) := by
  simp only [prepend, List.append_assoc]

end Parsed

namespace Parser

variable {σ α φ ε : Type} (p : Parser σ α φ ε)

/-- Parse at most `fuel` items. -/
def parse : ℕ → σ → List α → Parsed σ α φ ε
  | 0, s, bs => ⟨[], s, bs, none⟩
  | fuel + 1, s, bs => match p.next s bs with
    | .more => ⟨[], s, bs, none⟩
    | .fail e => ⟨[], s, bs, some e⟩
    | .emit f n s' => (parse fuel s' (bs.drop n)).prepend [f]

/-- Parse as far as possible. An item uses input, so the fuel never runs out. -/
def parseAll (s : σ) (bs : List α) : Parsed σ α φ ε := p.parse (bs.length + 1) s bs

theorem parse_fuel (fuel fuel' : ℕ) (s : σ) (bs : List α) (h : bs.length < fuel)
    (h' : bs.length < fuel') : p.parse fuel s bs = p.parse fuel' s bs := by
  induction fuel generalizing fuel' s bs with
  | zero => omega
  | succ fuel ih =>
    obtain ⟨k, rfl⟩ : ∃ k, fuel' = k + 1 := ⟨fuel' - 1, by omega⟩
    unfold parse
    cases hn : p.next s bs with
    | more => rfl
    | fail e => rfl
    | emit f n s' =>
      obtain ⟨hpos, hle⟩ := p.emit_len hn
      have hd : (bs.drop n).length < bs.length := by rw [List.length_drop]; omega
      simp only
      rw [ih k s' (bs.drop n) (by omega) (by omega)]

theorem parseAll_more {s : σ} {bs : List α} (h : p.next s bs = .more) :
    p.parseAll s bs = ⟨[], s, bs, none⟩ := by
  rw [parseAll, parse, h]

theorem parseAll_fail {s : σ} {bs : List α} {e : ε} (h : p.next s bs = .fail e) :
    p.parseAll s bs = ⟨[], s, bs, some e⟩ := by
  rw [parseAll, parse, h]

theorem parseAll_emit {s s' : σ} {bs : List α} {f : φ} {n : ℕ} (h : p.next s bs = .emit f n s') :
    p.parseAll s bs = (p.parseAll s' (bs.drop n)).prepend [f] := by
  obtain ⟨hpos, hle⟩ := p.emit_len h
  rw [parseAll, parse, h]
  simp only
  rw [p.parse_fuel bs.length ((bs.drop n).length + 1) s' (bs.drop n)
    (by rw [List.length_drop]; omega) (by omega), parseAll]

/-- An item at the front is parsed first, whatever follows the input. -/
theorem parseAll_emit_append {s s' : σ} {bs : List α} {f : φ} {n : ℕ}
    (h : p.next s bs = .emit f n s') (cs : List α) :
    p.parseAll s (bs ++ cs) = (p.parseAll s' (bs.drop n ++ cs)).prepend [f] := by
  rw [p.parseAll_emit (p.emit_append cs h), List.drop_append_of_le_length (p.emit_len h).2]

end Parser

/-- A call on a stateful decoder. -/
inductive Op (α : Type) where
  | push (chunk : List α)
  | next
  deriving DecidableEq, Repr

/-- The bytes of all pushes, in order. -/
def Op.chunks {α : Type} : List (Op α) → List α
  | [] => []
  | .push chunk :: ops => chunk ++ chunks ops
  | .next :: ops => chunks ops

/-- The error of a poll, if it failed. -/
def pollError {φ ε : Type} : Except ε (Option φ) → Option ε
  | .error e => some e
  | .ok _ => none

theorem pollError_none {φ ε : Type} {r : Except ε (Option φ)} (h : pollError r = none)
    (hr : ∀ f, r ≠ .ok (some f)) : r = .ok none := by
  rcases r with e | _ | f
  · cases h
  · rfl
  · exact absurd rfl (hr f)

/-- A stateful decoder over a parser: it keeps what was pushed and not yet used (`unread`), and a
poll answers as the parser does on that. -/
structure Codec {σ α φ ε : Type} (p : Parser σ α φ ε) (γ : Type) where
  push : γ → List α → Except ε Unit × γ
  nextItem : γ → Except ε (Option φ) × γ
  unread : γ → List α
  state : γ → σ
  Inv : γ → Prop
  push_ok : ∀ {c chunk}, Inv c → (push c chunk).1 = .ok () → Inv (push c chunk).2 ∧
    unread (push c chunk).2 = unread c ++ chunk ∧ state (push c chunk).2 = state c
  push_error : ∀ {c chunk e}, (push c chunk).1 = .error e → (push c chunk).2 = c
  next_more : ∀ {c}, Inv c → p.next (state c) (unread c) = .more → nextItem c = (.ok none, c)
  next_fail : ∀ {c e}, Inv c → p.next (state c) (unread c) = .fail e → nextItem c = (.error e, c)
  next_emit : ∀ {c f n s}, Inv c → p.next (state c) (unread c) = .emit f n s →
    (nextItem c).1 = .ok (some f) ∧ Inv (nextItem c).2 ∧
      unread (nextItem c).2 = (unread c).drop n ∧ state (nextItem c).2 = s

namespace Codec

variable {σ α φ ε γ : Type} {p : Parser σ α φ ε} (k : Codec p γ)

/-- The decoder after some calls. -/
def after : γ → List (Op α) → γ
  | c, [] => c
  | c, .push chunk :: ops => after (k.push c chunk).2 ops
  | c, .next :: ops => after (k.nextItem c).2 ops

/-- The items the polls returned, in order. -/
def emitted : γ → List (Op α) → List φ
  | _, [] => []
  | c, .push chunk :: ops => emitted (k.push c chunk).2 ops
  | c, .next :: ops => match (k.nextItem c).1 with
    | .ok (some f) => f :: emitted (k.nextItem c).2 ops
    | _ => emitted (k.nextItem c).2 ops

/-- Every push is accepted. -/
def Accepts : γ → List (Op α) → Prop
  | _, [] => True
  | c, .push chunk :: ops => (k.push c chunk).1 = .ok () ∧ Accepts (k.push c chunk).2 ops
  | c, .next :: ops => Accepts (k.nextItem c).2 ops

instance decidableAccepts [DecidableEq ε] : ∀ c ops, Decidable (k.Accepts c ops)
  | _, [] => isTrue trivial
  | c, .push chunk :: ops =>
    have := decidableAccepts (k.push c chunk).2 ops
    inferInstanceAs (Decidable ((k.push c chunk).1 = .ok () ∧ k.Accepts (k.push c chunk).2 ops))
  | c, .next :: ops => decidableAccepts (k.nextItem c).2 ops

theorem after_append (c : γ) (ops ops' : List (Op α)) :
    k.after c (ops ++ ops') = k.after (k.after c ops) ops' := by
  induction ops generalizing c with
  | nil => rfl
  | cons op ops ih => cases op <;> exact ih _

theorem emitted_append (c : γ) (ops ops' : List (Op α)) :
    k.emitted c (ops ++ ops') = k.emitted c ops ++ k.emitted (k.after c ops) ops' := by
  induction ops generalizing c with
  | nil => rfl
  | cons op ops ih =>
    cases op with
    | push chunk => exact ih _
    | next =>
      simp only [List.cons_append, emitted, after, ih]
      split <;> rfl

variable {k}

/-- The three answers of a poll. -/
theorem next_cases {c : γ} (hc : k.Inv c) :
    (p.next (k.state c) (k.unread c) = .more ∧ k.nextItem c = (.ok none, c)) ∨
    (∃ e, p.next (k.state c) (k.unread c) = .fail e ∧ k.nextItem c = (.error e, c)) ∨
    (∃ f n, p.next (k.state c) (k.unread c) = .emit f n (k.state (k.nextItem c).2) ∧
      (k.nextItem c).1 = .ok (some f) ∧ k.Inv (k.nextItem c).2 ∧
        k.unread (k.nextItem c).2 = (k.unread c).drop n) := by
  cases h : p.next (k.state c) (k.unread c) with
  | more => exact Or.inl ⟨rfl, k.next_more hc h⟩
  | fail e => exact Or.inr (Or.inl ⟨e, rfl, k.next_fail hc h⟩)
  | emit f n s =>
    obtain ⟨h₁, h₂, h₃, h₄⟩ := k.next_emit hc h
    exact Or.inr (Or.inr ⟨f, n, by rw [h₄], h₁, h₂, h₃⟩)

theorem inv_nextItem {c : γ} (hc : k.Inv c) : k.Inv (k.nextItem c).2 := by
  rcases next_cases hc with ⟨_, h⟩ | ⟨e, _, h⟩ | ⟨f, n, _, _, h, _⟩
  · rw [h]; exact hc
  · rw [h]; exact hc
  · exact h

theorem inv_push {c : γ} (hc : k.Inv c) (chunk : List α) : k.Inv (k.push c chunk).2 := by
  cases h : (k.push c chunk).1 with
  | error e => rw [k.push_error h]; exact hc
  | ok u => exact (k.push_ok hc h).1

/-- **The invariant holds at every moment**, also when pushes are refused. -/
theorem inv_after {c : γ} (hc : k.Inv c) (ops : List (Op α)) : k.Inv (k.after c ops) := by
  induction ops generalizing c with
  | nil => exact hc
  | cons op ops ih =>
    cases op with
    | push chunk => exact ih (inv_push hc chunk)
    | next => exact ih (inv_nextItem hc)

/-- **The emitted items and the unread input make up the parse of everything pushed**, whatever is
still to come. -/
theorem parseAll_after {c : γ} (hc : k.Inv c) (ops : List (Op α)) (ha : k.Accepts c ops)
    (future : List α) :
    p.parseAll (k.state c) (k.unread c ++ (Op.chunks ops ++ future)) =
      (p.parseAll (k.state (k.after c ops)) (k.unread (k.after c ops) ++ future)).prepend
        (k.emitted c ops) := by
  induction ops generalizing c with
  | nil => rfl
  | cons op ops ih =>
    cases op with
    | push chunk =>
      obtain ⟨hi, hu, hs⟩ := k.push_ok hc ha.1
      have := ih hi ha.2
      rw [hu, hs, List.append_assoc, ← List.append_assoc chunk] at this
      exact this
    | next =>
      have ha' : k.Accepts (k.nextItem c).2 ops := ha
      have ih' := ih (inv_nextItem hc) ha'
      rcases next_cases hc with ⟨_, h⟩ | ⟨e, _, h⟩ | ⟨f, n, hn, h₁, _, hu⟩
      · rw [h] at ih'
        simpa only [Op.chunks, after, emitted, h] using ih'
      · rw [h] at ih'
        simpa only [Op.chunks, after, emitted, h] using ih'
      · rw [hu] at ih'
        simp only [Op.chunks, after, emitted, h₁]
        rw [p.parseAll_emit_append hn, ih', Parsed.prepend_prepend]
        rfl

/-- After accepted calls and a last poll without an item, the decoder has emitted the whole parse.
-/
theorem parseAll_eq_of_drained {c : γ} (hc : k.Inv c) (ops : List (Op α)) (ha : k.Accepts c ops)
    (hlast : ∀ f, (k.nextItem (k.after c ops)).1 ≠ .ok (some f)) :
    p.parseAll (k.state c) (k.unread c ++ Op.chunks ops) =
      ⟨k.emitted c ops, k.state (k.after c ops), k.unread (k.after c ops),
        pollError (k.nextItem (k.after c ops)).1⟩ := by
  have h := parseAll_after hc ops ha []
  rw [List.append_nil, List.append_nil] at h
  rw [h]
  rcases next_cases (inv_after hc ops) with ⟨hn, h'⟩ | ⟨e, hn, h'⟩ | ⟨f, n, _, h', _⟩
  · rw [p.parseAll_more hn, h']
    simp [Parsed.prepend, pollError]
  · rw [p.parseAll_fail hn, h']
    simp [Parsed.prepend, pollError]
  · exact absurd h' (hlast f)

/-- **A failing poll changes nothing**, and the parser fails on the unread input. -/
theorem nextItem_of_error {c : γ} (hc : k.Inv c) {e : ε} (he : (k.nextItem c).1 = .error e) :
    p.next (k.state c) (k.unread c) = .fail e ∧ (k.nextItem c).2 = c := by
  rcases next_cases hc with ⟨_, h⟩ | ⟨e', hn, h⟩ | ⟨f, n, _, h, _⟩
  · rw [h] at he; cases he
  · rw [h] at he; cases he; exact ⟨hn, by rw [h]⟩
  · rw [h] at he; cases he

theorem error_step {c : γ} (hc : k.Inv c) {e : ε} (he : (k.nextItem c).1 = .error e) (op : Op α) :
    (k.nextItem (k.after c [op])).1 = .error e ∧ k.state (k.after c [op]) = k.state c ∧
      k.emitted c [op] = [] := by
  have hf := nextItem_of_error hc he
  cases op with
  | next => simp only [after, emitted, he, hf.2, and_self]
  | push chunk =>
    simp only [after, emitted]
    cases h : (k.push c chunk).1 with
    | error e' =>
      rw [k.push_error h]
      exact ⟨he, rfl, trivial⟩
    | ok u =>
      obtain ⟨hi, hu, hs⟩ := k.push_ok hc h
      refine ⟨?_, hs, trivial⟩
      rw [k.next_fail hi (by rw [hs, hu]; exact p.fail_append chunk hf.1)]

/-- **Errors are sticky**: after a failing poll, further calls never emit an item, never move the
parser state, and every poll fails in the same way. -/
theorem error_sticky {c : γ} (hc : k.Inv c) {e : ε} (he : (k.nextItem c).1 = .error e)
    (ops : List (Op α)) :
    (k.nextItem (k.after c ops)).1 = .error e ∧ k.state (k.after c ops) = k.state c ∧
      k.emitted c ops = [] := by
  induction ops generalizing c with
  | nil => exact ⟨he, rfl, rfl⟩
  | cons op ops ih =>
    obtain ⟨h₁, h₂, h₃⟩ := error_step hc he op
    cases op with
    | push chunk =>
      obtain ⟨i₁, i₂, i₃⟩ := ih (inv_push hc chunk) h₁
      exact ⟨i₁, i₂.trans h₂, i₃⟩
    | next =>
      obtain ⟨i₁, i₂, i₃⟩ := ih (inv_nextItem hc) h₁
      refine ⟨i₁, i₂.trans h₂, ?_⟩
      simpa only [emitted, he] using i₃

/-- **Polling ends**: from every state finitely many polls reach one that returns no item. -/
theorem exists_drained {c : γ} (hc : k.Inv c) :
    ∃ n, ∀ f, (k.nextItem (k.after c (List.replicate n .next))).1 ≠ .ok (some f) := by
  induction hl : (k.unread c).length using Nat.strong_induction_on generalizing c with
  | _ l ih =>
    rcases next_cases hc with ⟨_, h⟩ | ⟨e, _, h⟩ | ⟨f, n, hn, _, hi, hu⟩
    · exact ⟨0, fun f => by rw [List.replicate_zero, after, h]; simp⟩
    · exact ⟨0, fun f => by rw [List.replicate_zero, after, h]; simp⟩
    · obtain ⟨hpos, hle⟩ := p.emit_len hn
      obtain ⟨m, hm⟩ := ih ((k.unread c).drop n).length (by rw [List.length_drop]; omega) hi
        (by rw [hu])
      exact ⟨m + 1, hm⟩

end Codec

end Wire
