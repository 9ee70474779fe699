import Mathlib

/-!
# Programs that act on a world and leave a trace

A program asks a world for answers, leaves events in a trace, and returns a value or stops. The
world is arbitrary: it stands for sockets, clocks, other threads and all that a program cannot
foresee.

* `Program`, a monad with `stop`, `perform`, `attempt`, `fold` and `iterate`.
* `Ensures`: what holds of the trace when a program returns, and when it stops, in whatever world it
  runs. One rule for each way to build a program; **`Ensures.fold`** and **`Ensures.iterate`** are
  the rules for loops.
* `Throughout`: each event of a trace is allowed by the events before it.
-/

namespace Effect

/-- What a program leaves behind. -/
structure Run (W ε σ α : Type) where
  result : Except σ α
  world : W
  trace : List ε

def Program (W ε σ α : Type) : Type := W → Run W ε σ α

/-- Each event is allowed by the events before it. -/
def Throughout {ε : Type} (Allowed : List ε → ε → Prop) (t : List ε) : Prop :=
  ∀ before event after, t = before ++ event :: after → Allowed before event

section Throughout

variable {ε : Type} {Allowed : List ε → ε → Prop} {t : List ε}

theorem throughout_nil : Throughout Allowed [] := by
  intro before event after h
  simp at h

theorem Throughout.concat (h : Throughout Allowed t) {event : ε} (hevent : Allowed t event) :
    Throughout Allowed (t ++ [event]) := by
  intro before e after heq
  rcases List.eq_nil_or_concat after with rfl | ⟨after, last, rfl⟩
  · obtain ⟨rfl, hlast⟩ := List.append_inj' heq rfl
    cases hlast
    exact hevent
  · rw [List.concat_eq_append, ← List.cons_append, ← List.append_assoc] at heq
    exact h before e after (List.append_inj' heq rfl).1

theorem Throughout.append {t' : List ε} (h : Throughout Allowed t)
    (h' : ∀ before event after, t' = before ++ event :: after → Allowed (t ++ before) event) :
    Throughout Allowed (t ++ t') := by
  induction t' using List.reverseRecOn with
  | nil => rwa [List.append_nil]
  | append_singleton t' event ih =>
    rw [← List.append_assoc]
    refine (ih fun before e after heq => h' before e (after ++ [event]) ?_).concat
      (h' t' event [] rfl)
    rw [heq, List.append_assoc, List.cons_append]

end Throughout

namespace Program

variable {W ε σ α β s : Type}

instance : Monad (Program W ε σ) where
  pure a w := ⟨.ok a, w, []⟩
  bind m f w :=
    match m w with
    | ⟨.error reason, w, t⟩ => ⟨.error reason, w, t⟩
    | ⟨.ok a, w, t⟩ =>
      let run := f a w
      ⟨run.result, run.world, t ++ run.trace⟩

def stop (reason : σ) : Program W ε σ α := fun w => ⟨.error reason, w, []⟩

/-- Ask the world, without leaving an event. -/
def ask (f : W → α × W) : Program W ε σ α := fun w => ⟨.ok (f w).1, (f w).2, []⟩

/-- Ask the world, and leave the event that goes with its answer. -/
def perform (event : α → ε) (f : W → α × W) : Program W ε σ α :=
  fun w => ⟨.ok (f w).1, (f w).2, [event (f w).1]⟩

def emit (event : ε) : Program W ε σ Unit := fun w => ⟨.ok (), w, [event]⟩

/-- Run a program up to its end, however it ends. -/
def attempt (m : Program W ε σ α) : Program W ε σ (Except σ α) :=
  fun w => ⟨.ok (m w).result, (m w).world, (m w).trace⟩

/-- A loop over a list. -/
def fold (f : s → α → Program W ε σ s) : s → List α → Program W ε σ s
  | a, [] => pure a
  | a, x :: xs => f a x >>= fun a => fold f a xs

/-- A loop without a bound. It goes on with `inl` and ends with `inr`; when the fuel is used up it
stops with `out`. -/
def iterate (out : σ) (body : s → Program W ε σ (s ⊕ β)) : ℕ → s → Program W ε σ β
  | 0, _ => stop out
  | fuel + 1, a => body a >>= Sum.elim (iterate out body fuel) pure

theorem bind_apply_error {m : Program W ε σ α} {f : α → Program W ε σ β} {w w' : W} {reason : σ}
    {t : List ε} (h : m w = ⟨.error reason, w', t⟩) : (m >>= f) w = ⟨.error reason, w', t⟩ := by
  change (match m w with
    | ⟨.error reason, w, t⟩ => (⟨.error reason, w, t⟩ : Run W ε σ β)
    | ⟨.ok a, w, t⟩ => ⟨(f a w).result, (f a w).world, t ++ (f a w).trace⟩) = _
  rw [h]

theorem bind_apply_ok {m : Program W ε σ α} {f : α → Program W ε σ β} {w w' : W} {a : α}
    {t : List ε} (h : m w = ⟨.ok a, w', t⟩) :
    (m >>= f) w = ⟨(f a w').result, (f a w').world, t ++ (f a w').trace⟩ := by
  change (match m w with
    | ⟨.error reason, w, t⟩ => (⟨.error reason, w, t⟩ : Run W ε σ β)
    | ⟨.ok a, w, t⟩ => ⟨(f a w).result, (f a w).world, t ++ (f a w).trace⟩) = _
  rw [h]

/-! ## What programs ensure -/

variable {m : Program W ε σ α} {Q : α → List ε → Prop} {E : σ → List ε → Prop} {t : List ε}

/-- The trace so far is `t`. Whatever the world, `Q` holds of the trace if the program returns, and
`E` if it stops. -/
structure Ensures (m : Program W ε σ α) (Q : α → List ε → Prop) (E : σ → List ε → Prop)
    (t : List ε) : Prop where
  holds : ∀ w, match (m w).result with
    | .ok a => Q a (t ++ (m w).trace)
    | .error reason => E reason (t ++ (m w).trace)

theorem Ensures.pure {a : α} (h : Q a t) : Ensures (Pure.pure a : Program W ε σ α) Q E t := by
  refine ⟨fun w => ?_⟩
  change Q a (t ++ [])
  rwa [List.append_nil]

theorem Ensures.stop {reason : σ} (h : E reason t) :
    Ensures (Program.stop reason : Program W ε σ α) Q E t := by
  refine ⟨fun w => ?_⟩
  change E reason (t ++ [])
  rwa [List.append_nil]

theorem Ensures.ask {f : W → α × W} (h : ∀ a, Q a t) : Ensures (Program.ask f) Q E t := by
  refine ⟨fun w => ?_⟩
  change Q (f w).1 (t ++ [])
  rw [List.append_nil]
  exact h _

theorem Ensures.perform {event : α → ε} {f : W → α × W} (h : ∀ a, Q a (t ++ [event a])) :
    Ensures (Program.perform event f) Q E t :=
  ⟨fun _ => h _⟩

theorem Ensures.emit {event : ε} {Q : Unit → List ε → Prop} (h : Q () (t ++ [event])) :
    Ensures (Program.emit event : Program W ε σ Unit) Q E t :=
  ⟨fun _ => h⟩

theorem Ensures.attempt {Q : Except σ α → List ε → Prop}
    (h : Ensures m (fun a => Q (.ok a)) (fun reason => Q (.error reason)) t) :
    Ensures m.attempt Q E t := by
  refine ⟨fun w => ?_⟩
  have hw := h.holds w
  change Q (m w).result (t ++ (m w).trace)
  cases hresult : (m w).result <;> rw [hresult] at hw <;> exact hw

theorem Ensures.bind {f : α → Program W ε σ β} {R : β → List ε → Prop}
    (h : Ensures m (fun a t => Ensures (f a) R E t) E t) : Ensures (m >>= f) R E t := by
  refine ⟨fun w => ?_⟩
  have hw := h.holds w
  rcases hm : m w with ⟨result, w', t'⟩
  rw [hm] at hw
  cases result with
  | error reason =>
    rw [bind_apply_error hm]
    exact hw
  | ok a =>
    rw [bind_apply_ok hm]
    have hf := hw.holds w'
    rwa [List.append_assoc] at hf

theorem Ensures.mono {Q' : α → List ε → Prop} {E' : σ → List ε → Prop} (h : Ensures m Q E t)
    (hQ : ∀ a t, Q a t → Q' a t) (hE : ∀ reason t, E reason t → E' reason t) :
    Ensures m Q' E' t := by
  refine ⟨fun w => ?_⟩
  have hw := h.holds w
  cases hresult : (m w).result <;> rw [hresult] at hw
  · exact hE _ _ hw
  · exact hQ _ _ hw

/-- One program after another. -/
theorem Ensures.seq {f : α → Program W ε σ β} {R : β → List ε → Prop} (h : Ensures m Q E t)
    (hf : ∀ a t, Q a t → Ensures (f a) R E t) : Ensures (m >>= f) R E t :=
  Ensures.bind (h.mono hf fun _ _ => id)

/-- **The rule for loops over lists.** The invariant may look at what is left of the list. -/
theorem Ensures.fold {f : s → α → Program W ε σ s} {I : s → List α → List ε → Prop}
    (hbody : ∀ a x xs t, I a (x :: xs) t → Ensures (f a x) (fun a => I a xs) E t) {a : s}
    {xs : List α} (h : I a xs t) : Ensures (fold f a xs) (fun a => I a []) E t := by
  induction xs generalizing a t with
  | nil => exact Ensures.pure h
  | cons x xs ih => exact (hbody a x xs t h).seq fun _ _ h => ih h

/-- **The rule for loops without a bound.** -/
theorem Ensures.iterate {out : σ} {body : s → Program W ε σ (s ⊕ β)} {R : β → List ε → Prop}
    {I : s → List ε → Prop} (hout : ∀ a t, I a t → E out t)
    (hbody : ∀ a t, I a t → Ensures (body a) (Sum.elim I R) E t) (fuel : ℕ) {a : s} (h : I a t) :
    Ensures (iterate out body fuel a) R E t := by
  induction fuel generalizing a t with
  | zero => exact Ensures.stop (hout a t h)
  | succ fuel ih =>
    refine (hbody a t h).seq ?_
    rintro (a | b) t h
    · exact ih h
    · exact Ensures.pure h

/-- What a program ensures of its run from the empty trace. -/
theorem Ensures.run (h : Ensures m Q E []) (w : W) :
    match (m w).result with
    | .ok a => Q a (m w).trace
    | .error reason => E reason (m w).trace :=
  h.holds w

/-- What a program ensures of its own events holds after any others. -/
theorem Ensures.after (h : Ensures m Q E []) (t : List ε) :
    Ensures m (fun a t' => ∃ s, t' = t ++ s ∧ Q a s)
      (fun reason t' => ∃ s, t' = t ++ s ∧ E reason s) t := by
  refine ⟨fun w => ?_⟩
  have hw := h.holds w
  cases hresult : (m w).result <;> rw [hresult] at hw <;> exact ⟨_, rfl, hw⟩

/-- The same for a program that does not stop. -/
theorem Ensures.total_after (h : Ensures m Q (fun _ _ => False) []) (t : List ε) :
    Ensures m (fun a t' => ∃ s, t' = t ++ s ∧ Q a s) E t :=
  (h.after t).mono (fun _ _ h => h) fun _ _ h => h.elim fun _ h => h.2.elim

/-- What a program ensures however it ends. -/
theorem Ensures.always {P : List ε → Prop} (h : Ensures m (fun _ => P) (fun _ => P) []) (w : W) :
    P (m w).trace := by
  have hw := h.run w
  cases hresult : (m w).result <;> rw [hresult] at hw <;> exact hw

end Program

end Effect
