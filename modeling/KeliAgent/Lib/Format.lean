import Mathlib

/-!
# Formats of values in a sequence

A value has a *form*: the sequence that stands for it, if the value fits the format. A writer
appends the form to its output; a reader takes it off what is still to be read.

* `Appends`: the writer is total on values that fit and fails on all others;
  `Appends.comp`, **`Appends.foldlM`**: parts and lists.
* `Reads`: the reader recovers a value from its form, whatever follows; `Exact`: the reader accepts
  nothing but forms. **`Reads.many`**: a number of values, one after the other.
-/

namespace Wire

/-! ## Computations that may fail -/

section Fallible

variable {α β ε : Type}

@[simp] theorem ok_bind (a : α) (f : α → Except ε β) : (Except.ok a >>= f) = f a := rfl

@[simp] theorem error_bind (e : ε) (f : α → Except ε β) : (Except.error e >>= f) = .error e := rfl

theorem bind_eq_ok {x : Except ε α} {f : α → Except ε β} {b : β} (h : (x >>= f) = .ok b) :
    ∃ a, x = .ok a ∧ f a = .ok b := by
  cases x with
  | error e => cases h
  | ok a => exact ⟨a, rfl, h⟩

end Fallible

/-! ## Writers -/

section Writing

variable {α β ε : Type}

/-- The writer appends the form of a value that fits, and fails on a value that does not. -/
structure Appends (write : List β → α → Except ε (List β)) (form : α → List β)
    (Fits : α → Prop) : Prop where
  ok : ∀ output {a}, Fits a → write output a = .ok (output ++ form a)
  error : ∀ output {a}, ¬ Fits a → ∃ e, write output a = .error e

variable {write write' : List β → α → Except ε (List β)} {form form' : α → List β}
  {Fits Fits' : α → Prop}

namespace Appends

/-- A writer that cannot fail. -/
theorem always (form : α → List β) :
    Appends (ε := ε) (fun output a => .ok (output ++ form a)) form fun _ => True :=
  ⟨fun _ _ _ => rfl, fun _ _ h => absurd trivial h⟩

/-- A part of the value is written. -/
theorem part {α' : Type} (h : Appends write form Fits) (f : α' → α) :
    Appends (fun output a => write output (f a)) (fun a => form (f a)) fun a => Fits (f a) :=
  ⟨fun output _ ha => h.ok output ha, fun output _ ha => h.error output ha⟩

theorem congr {Fits₁ : α → Prop} (h : Appends write form Fits) (hfits : ∀ a, Fits₁ a ↔ Fits a) :
    Appends write form Fits₁ :=
  ⟨fun output a ha => h.ok output ((hfits a).mp ha),
    fun output a ha => h.error output fun hfit => ha ((hfits a).mpr hfit)⟩

/-- One writer after the other. -/
theorem comp (h : Appends write form Fits) (h' : Appends write' form' Fits') :
    Appends (fun output a => do let output ← write output a; write' output a)
      (fun a => form a ++ form' a) fun a => Fits a ∧ Fits' a := by
  refine ⟨fun output a ha => ?_, fun output a ha => ?_⟩
  · rw [h.ok output ha.1, ok_bind, h'.ok _ ha.2, List.append_assoc]
  · by_cases hfits : Fits a
    · obtain ⟨e, he⟩ := h'.error (output ++ form a) fun hfits' => ha ⟨hfits, hfits'⟩
      exact ⟨e, by rw [h.ok output hfits, ok_bind, he]⟩
    · obtain ⟨e, he⟩ := h.error output hfits
      exact ⟨e, by rw [he, error_bind]⟩

/-- **The values of a list, one after the other.** -/
theorem foldlM (h : Appends write form Fits) :
    Appends (fun output as => as.foldlM write output) (List.flatMap form)
      fun as => ∀ a ∈ as, Fits a := by
  refine ⟨fun output as => ?_, fun output as => ?_⟩
  · induction as generalizing output with
    | nil => exact fun _ => by rw [List.foldlM_nil, List.flatMap_nil, List.append_nil]; rfl
    | cons a as ih =>
      intro hfits
      obtain ⟨ha, has⟩ := List.forall_mem_cons.mp hfits
      rw [List.foldlM_cons, h.ok output ha, List.flatMap_cons, ← List.append_assoc]
      exact ih _ has
  · induction as generalizing output with
    | nil => exact fun hfits => absurd (fun _ ha => absurd ha List.not_mem_nil) hfits
    | cons a as ih =>
      intro hfits
      rw [List.foldlM_cons]
      by_cases ha : Fits a
      · rw [h.ok output ha]
        exact ih _ fun has => hfits (List.forall_mem_cons.mpr ⟨ha, has⟩)
      · obtain ⟨e, he⟩ := h.error output ha
        exact ⟨e, by rw [he]; rfl⟩

/-- A writer fails exactly on the values that do not fit. -/
theorem error_iff (h : Appends write form Fits) (output : List β) (a : α) :
    (∃ e, write output a = .error e) ↔ ¬ Fits a := by
  refine ⟨fun ⟨e, he⟩ hfits => ?_, h.error output⟩
  rw [h.ok output hfits] at he
  cases he

/-- What a writer returns, it has appended. -/
theorem eq_of_ok (h : Appends write form Fits) (output : List β) {output' : List β} {a : α}
    (hok : write output a = .ok output') : Fits a ∧ output' = output ++ form a := by
  by_cases hfits : Fits a
  · rw [h.ok output hfits] at hok
    exact ⟨hfits, (Except.ok.inj hok).symm⟩
  · obtain ⟨e, he⟩ := h.error output hfits
    rw [he] at hok
    cases hok

end Appends

end Writing

/-! ## Readers -/

section Reading

variable {γ α β ε : Type} (unread : γ → List β) (Sound : γ → Prop)

/-- The reader recovers a value from its form, and stands behind it. -/
def Reads (read : γ → Except ε (α × γ)) (form : α → List β) (Fits : α → Prop) : Prop :=
  ∀ ⦃c a rest⦄, Sound c → Fits a → unread c = form a ++ rest →
    ∃ c', read c = .ok (a, c') ∧ Sound c' ∧ unread c' = rest

/-- What the reader returns fits, and its form is what the reader took. -/
def Exact (read : γ → Except ε (α × γ)) (form : α → List β) (Fits : α → Prop) : Prop :=
  ∀ ⦃c a c'⦄, Sound c → read c = .ok (a, c') →
    Fits a ∧ Sound c' ∧ unread c = form a ++ unread c'

/-- A number of values, one after the other. -/
def readMany (read : γ → Except ε (α × γ)) : ℕ → γ → Except ε (List α × γ)
  | 0, c => .ok ([], c)
  | n + 1, c => do
    let (a, c) ← read c
    let (as, c) ← readMany read n c
    return (a :: as, c)

variable {unread Sound} {read : γ → Except ε (α × γ)} {form : α → List β} {Fits : α → Prop}

/-- A reader that succeeds where another one does. -/
theorem Reads.of_ok {ε' : Type} {read' : γ → Except ε' (α × γ)}
    (h : Reads unread Sound read form Fits) (hok : ∀ c r, read c = .ok r → read' c = .ok r) :
    Reads unread Sound read' form Fits := by
  intro c a rest hc hfits hunread
  obtain ⟨c', hread, hc', hunread'⟩ := h hc hfits hunread
  exact ⟨c', hok c _ hread, hc', hunread'⟩

/-- A value that is read as another one, `g` of it. -/
theorem Reads.map {α' : Type} {Fits' : α' → Prop} (h : Reads unread Sound read form Fits)
    (f : α → α') (g : α' → α) (hg : ∀ a', Fits' a' → Fits (g a') ∧ f (g a') = a') :
    Reads unread Sound (fun c => do let (a, c) ← read c; return (f a, c)) (fun a' => form (g a'))
      Fits' := by
  intro c a' rest hc hfits hunread
  obtain ⟨hfits, hfg⟩ := hg a' hfits
  obtain ⟨c', hread, hc', hunread'⟩ := h hc hfits hunread
  refine ⟨c', ?_, hc', hunread'⟩
  simp only [hread, ok_bind, hfg]
  rfl

theorem Exact.map {α' : Type} {Fits' : α' → Prop} (h : Exact unread Sound read form Fits)
    (f : α → α') (g : α' → α) (hf : ∀ a, Fits a → Fits' (f a) ∧ g (f a) = a) :
    Exact unread Sound (fun c => do let (a, c) ← read c; return (f a, c)) (fun a' => form (g a'))
      Fits' := by
  intro c a' c' hc hread
  obtain ⟨⟨a, c₁⟩, hread₁, hreturn⟩ := bind_eq_ok hread
  cases hreturn
  obtain ⟨hfits, hc', hunread⟩ := h hc hread₁
  obtain ⟨hfits', hgf⟩ := hf a hfits
  exact ⟨hfits', hc', hunread.trans (congrArg (form · ++ unread c') hgf.symm)⟩

/-- **Values are read one after the other.** -/
theorem Reads.many (h : Reads unread Sound read form Fits) (n : ℕ) :
    Reads unread Sound (readMany read n) (List.flatMap form)
      fun as => as.length = n ∧ ∀ a ∈ as, Fits a := by
  intro c as rest hc hfits hunread
  obtain ⟨rfl, hfits⟩ := hfits
  induction as generalizing c with
  | nil => exact ⟨c, rfl, hc, hunread⟩
  | cons a as ih =>
    obtain ⟨ha, has⟩ := List.forall_mem_cons.mp hfits
    rw [List.flatMap_cons, List.append_assoc] at hunread
    obtain ⟨c₁, hread, hc₁, hunread₁⟩ := h hc ha hunread
    obtain ⟨c₂, hmany, hc₂, hunread₂⟩ := ih hc₁ hunread₁ has
    refine ⟨c₂, ?_, hc₂, hunread₂⟩
    simp only [List.length_cons, readMany, hread, ok_bind, hmany]
    rfl

end Reading

end Wire
