import Mathlib

/-!
# Regular expressions with priorities

Classes of characters, sequences, alternatives and counted greedy repetitions. The matches at a
place are listed in the order in which a backtracking matcher finds them: the left alternative
before the right one, more repetitions before fewer.

* `ends`: what is left behind each match at the front; **`mem_ends_iff`**: these are the matches
  of the language.
* `find`: the leftmost-first match; `find_eq_none_iff`.
* `Steps`: expressions with at most one match at each place. **`ends_rep`**: their repetitions.
* `Simulates`: loops over positions instead of lists. `Encoded`: expressions over encoded text.
-/

inductive Regex (α : Type) where
  | set (p : α → Bool)
  | seq (r s : Regex α)
  | alt (r s : Regex α)
  | rep (r : Regex α) (low high : ℕ)

namespace Regex

variable {α β σ τ : Type}

/-- At least `low` and at most `high` matches, one behind the other. -/
def repeatEnds (ends : List α → List (List α)) : ℕ → ℕ → List α → List (List α)
  | 0, 0, w => [w]
  | _ + 1, 0, _ => []
  | 0, high + 1, w => (ends w).flatMap (repeatEnds ends 0 high) ++ [w]
  | low + 1, high + 1, w => (ends w).flatMap (repeatEnds ends low high)

/-- What is left behind each match at the front of a text, the preferred match first. -/
def ends : Regex α → List α → List (List α)
  | set _, [] => []
  | set p, c :: w => if p c then [w] else []
  | seq r s, w => (r.ends w).flatMap s.ends
  | alt r s, w => r.ends w ++ s.ends w
  | rep r low high, w => repeatEnds r.ends low high w

/-- The texts that the expression matches. -/
def lang : Regex α → Language α
  | set p => {w | ∃ c, p c = true ∧ w = [c]}
  | seq r s => r.lang * s.lang
  | alt r s => r.lang + s.lang
  | rep r low high => {w | ∃ n, low ≤ n ∧ n ≤ high ∧ w ∈ r.lang ^ n}

theorem mem_repeatEnds_iff {ends : List α → List (List α)} {l : Language α}
    (h : ∀ w rest, rest ∈ ends w ↔ ∃ u ∈ l, w = u ++ rest) (low high : ℕ) (w rest : List α) :
    rest ∈ repeatEnds ends low high w ↔
      ∃ n, low ≤ n ∧ n ≤ high ∧ ∃ u ∈ l ^ n, w = u ++ rest := by
  -- one match, and then the others
  have hcons : ∀ n w, (∃ w' ∈ ends w, ∃ u ∈ l ^ n, w' = u ++ rest) ↔
      ∃ u ∈ l ^ (n + 1), w = u ++ rest := by
    intro n w
    rw [pow_succ']
    constructor
    · rintro ⟨w', hw', u, hu, rfl⟩
      obtain ⟨v, hv, rfl⟩ := (h _ _).mp hw'
      exact ⟨v ++ u, Language.append_mem_mul hv hu, (List.append_assoc v u rest).symm⟩
    · rintro ⟨_, hmem, rfl⟩
      obtain ⟨v, hv, u, hu, rfl⟩ := Language.mem_mul.mp hmem
      exact ⟨u ++ rest, (h _ _).mpr ⟨v, hv, List.append_assoc v u rest⟩, u, hu, rfl⟩
  induction high generalizing low w with
  | zero =>
    cases low with
    | zero =>
      rw [repeatEnds, List.mem_singleton]
      constructor
      · rintro rfl
        exact ⟨0, le_rfl, le_rfl, [], rfl, rfl⟩
      · rintro ⟨n, -, hn, u, hu, rfl⟩
        obtain rfl := Nat.le_zero.mp hn
        rw [pow_zero, Language.mem_one] at hu
        rw [hu, List.nil_append]
    | succ low =>
      rw [repeatEnds]
      refine iff_of_false List.not_mem_nil ?_
      rintro ⟨n, hlow, hhigh, -⟩
      omega
  | succ high ih =>
    cases low with
    | zero =>
      rw [repeatEnds, List.mem_append, List.mem_singleton, List.mem_flatMap]
      constructor
      · rintro (⟨w', hw', hrest⟩ | rfl)
        · obtain ⟨n, -, hn, hu⟩ := (ih 0 w').mp hrest
          exact ⟨n + 1, Nat.zero_le _, Nat.succ_le_succ hn, (hcons n w).mp ⟨w', hw', hu⟩⟩
        · exact ⟨0, le_rfl, Nat.zero_le _, [], rfl, rfl⟩
      · rintro ⟨n, -, hn, hu⟩
        cases n with
        | zero =>
          obtain ⟨u, hu, rfl⟩ := hu
          rw [pow_zero, Language.mem_one] at hu
          exact Or.inr (by rw [hu, List.nil_append])
        | succ n =>
          obtain ⟨w', hw', hu⟩ := (hcons n w).mpr hu
          exact Or.inl ⟨w', hw', (ih 0 w').mpr ⟨n, Nat.zero_le _, Nat.le_of_succ_le_succ hn, hu⟩⟩
    | succ low =>
      rw [repeatEnds, List.mem_flatMap]
      constructor
      · rintro ⟨w', hw', hrest⟩
        obtain ⟨n, hlow, hhigh, hu⟩ := (ih low w').mp hrest
        exact ⟨n + 1, Nat.succ_le_succ hlow, Nat.succ_le_succ hhigh, (hcons n w).mp ⟨w', hw', hu⟩⟩
      · rintro ⟨n, hlow, hhigh, hu⟩
        obtain ⟨n, rfl⟩ : ∃ k, n = k + 1 := ⟨n - 1, by omega⟩
        obtain ⟨w', hw', hu⟩ := (hcons n w).mpr hu
        exact ⟨w', hw', (ih low w').mpr ⟨n, by omega, by omega, hu⟩⟩

/-- **The matches are those of the language.** -/
theorem mem_ends_iff (r : Regex α) (w rest : List α) :
    rest ∈ r.ends w ↔ ∃ u ∈ r.lang, w = u ++ rest := by
  induction r generalizing w rest with
  | set p =>
    cases w with
    | nil =>
      refine iff_of_false List.not_mem_nil ?_
      rintro ⟨_, ⟨c, -, rfl⟩, hw⟩
      cases hw
    | cons c w =>
      rw [ends]
      constructor
      · intro hrest
        split_ifs at hrest with hc
        · exact ⟨[c], ⟨c, hc, rfl⟩, by rw [List.mem_singleton.mp hrest]; rfl⟩
        · cases hrest
      · rintro ⟨_, ⟨c', hc', rfl⟩, hw⟩
        cases hw
        rw [if_pos hc']
        exact List.mem_singleton_self _
  | seq r s ihr ihs =>
    rw [ends, lang, List.mem_flatMap]
    constructor
    · rintro ⟨w', hw', hrest⟩
      obtain ⟨u, hu, rfl⟩ := (ihr _ _).mp hw'
      obtain ⟨v, hv, rfl⟩ := (ihs _ _).mp hrest
      exact ⟨u ++ v, Language.append_mem_mul hu hv, (List.append_assoc u v rest).symm⟩
    · rintro ⟨_, hmem, rfl⟩
      obtain ⟨u, hu, v, hv, rfl⟩ := Language.mem_mul.mp hmem
      exact ⟨v ++ rest, (ihr _ _).mpr ⟨u, hu, List.append_assoc u v rest⟩,
        (ihs _ _).mpr ⟨v, hv, rfl⟩⟩
  | alt r s ihr ihs =>
    rw [ends, lang, List.mem_append, ihr, ihs, ← exists_or]
    refine exists_congr fun u => ?_
    rw [Language.mem_add, or_and_right]
  | rep r low high ih =>
    rw [ends, mem_repeatEnds_iff ih, lang]
    constructor
    · rintro ⟨n, hlow, hhigh, u, hu, hw⟩
      exact ⟨u, ⟨n, hlow, hhigh, hu⟩, hw⟩
    · rintro ⟨u, ⟨n, hlow, hhigh, hu⟩, hw⟩
      exact ⟨n, hlow, hhigh, u, hu, hw⟩

/-! ## The leftmost-first match -/

/-- What is left behind the preferred match at the front. -/
def first (r : Regex α) (w : List α) : Option (List α) := (r.ends w).head?

/-- The first place with a match, and what is left behind the preferred match there. -/
def find (r : Regex α) : List α → Option (List α × List α)
  | [] => (r.first []).map fun rest => ([], rest)
  | c :: w =>
    match r.first (c :: w) with
    | some rest => some (c :: w, rest)
    | none => r.find w

/-- A part of a text, and what stands before and after it. -/
structure Match (α : Type) where
  before : List α
  matched : List α
  after : List α
  deriving DecidableEq, Repr

/-- The part between two places of a text, each given by what follows it. -/
def Match.between (w : List α) (places : List α × List α) : Match α :=
  ⟨w.take (w.length - places.1.length), places.1.take (places.1.length - places.2.length), places.2⟩

/-- **The leftmost-first match in a text.** -/
def search (r : Regex α) (w : List α) : Option (Match α) := (r.find w).map (Match.between w)

theorem first_eq_none_iff {r : Regex α} {w : List α} : r.first w = none ↔ r.ends w = [] :=
  List.head?_eq_none_iff

theorem suffix_of_first {r : Regex α} {w rest : List α} (h : r.first w = some rest) :
    rest <:+ w := by
  obtain ⟨u, -, hu⟩ := (r.mem_ends_iff w rest).mp (List.mem_of_head? h)
  exact ⟨u, hu.symm⟩

theorem suffix_of_find {r : Regex α} {w : List α} {places : List α × List α}
    (h : r.find w = some places) : places.1 <:+ w ∧ places.2 <:+ places.1 := by
  induction w with
  | nil =>
    obtain ⟨rest, hrest, rfl⟩ := Option.map_eq_some_iff.mp h
    exact ⟨List.suffix_rfl, suffix_of_first hrest⟩
  | cons c w ih =>
    rw [find] at h
    cases hfirst : r.first (c :: w) with
    | some rest =>
      rw [hfirst] at h
      cases h
      exact ⟨List.suffix_rfl, suffix_of_first hfirst⟩
    | none =>
      rw [hfirst] at h
      exact ⟨(ih h).1.trans (List.suffix_cons c w), (ih h).2⟩

theorem find_eq_none_iff {r : Regex α} {w : List α} :
    r.find w = none ↔ ∀ suffix, suffix <:+ w → r.ends suffix = [] := by
  induction w with
  | nil =>
    simp only [find, Option.map_eq_none_iff, first_eq_none_iff, List.suffix_nil, forall_eq]
  | cons c w ih =>
    simp only [List.suffix_cons_iff, forall_eq_or_imp, find]
    cases hfirst : r.first (c :: w) with
    | some rest =>
      refine iff_of_false (Option.some_ne_none _) fun h => ?_
      rw [first_eq_none_iff.mpr h.1] at hfirst
      cases hfirst
    | none => exact ih.trans (and_iff_right (first_eq_none_iff.mp hfirst)).symm

/-- **There is no match** exactly if no part of the text is in the language. -/
theorem search_eq_none_iff {r : Regex α} {w : List α} :
    r.search w = none ↔ ∀ before u after, w = before ++ (u ++ after) → u ∉ r.lang := by
  rw [search, Option.map_eq_none_iff, find_eq_none_iff]
  constructor
  · rintro h before u after rfl hu
    have hmem := (r.mem_ends_iff (u ++ after) after).mpr ⟨u, hu, rfl⟩
    rw [h _ (List.suffix_append before _)] at hmem
    cases hmem
  · rintro h _ ⟨before, rfl⟩
    refine List.eq_nil_iff_forall_not_mem.mpr fun rest hrest => ?_
    obtain ⟨u, hu, rfl⟩ := (r.mem_ends_iff _ _).mp hrest
    exact h before u rest rfl hu

/-! ## At most one match -/

/-- At most one character. -/
def step (p : α → Bool) : List α → Option (List α)
  | [] => none
  | c :: w => if p c then some w else none

/-- A number of steps. -/
def times (f : σ → Option σ) : ℕ → σ → Option σ
  | 0, s => some s
  | n + 1, s => (f s).bind (times f n)

/-- As many steps as possible, up to a number. -/
def upTo (f : σ → Option σ) : ℕ → σ → σ
  | 0, s => s
  | n + 1, s =>
    match f s with
    | some s => upTo f n s
    | none => s

/-- The expression has at most one match at each place. -/
def Steps (r : Regex α) (f : List α → Option (List α)) : Prop := ∀ w, r.ends w = (f w).toList

theorem steps_set (p : α → Bool) : (set p).Steps (step p) := by
  intro w
  cases w with
  | nil => rfl
  | cons c w =>
    rw [ends, step]
    split_ifs <;> rfl

theorem Steps.first_eq {r : Regex α} {f : List α → Option (List α)} (h : r.Steps f) (w : List α) :
    r.first w = f w := by
  rw [first, h]
  cases f w <;> rfl

/-- Behind a part with at most one match. -/
theorem Steps.first_seq {r : Regex α} {f : List α → Option (List α)} (h : r.Steps f) (s : Regex α)
    (w : List α) : (seq r s).first w = (f w).bind s.first := by
  rw [first, ends, h]
  cases f w with
  | none => rfl
  | some w' => rw [Option.toList_some, List.flatMap_singleton]; rfl

theorem first_seq (r s : Regex α) (w : List α) :
    (seq r s).first w = (r.ends w).findSome? s.first := List.head?_flatMap

theorem first_seq_assoc (r s t : Regex α) (w : List α) :
    (seq r (seq s t)).first w = (seq (seq r s) t).first w := by
  simp only [first, ends, List.flatMap_assoc]

/-- Before a part that always matches. -/
theorem first_seq_of_total (r : Regex α) {s : Regex α} {k : List α → List α}
    (hs : ∀ w, s.first w = some (k w)) (w : List α) : (seq r s).first w = (r.first w).map k := by
  rw [first_seq, first]
  cases r.ends w with
  | nil => rfl
  | cons rest _ => rw [List.findSome?_cons, hs]; rfl

theorem first_alt (r s : Regex α) (w : List α) :
    (alt r s).first w = (r.first w).or (s.first w) := List.head?_append

/-- **Repetitions of a part with at most one match**: more of them first. -/
theorem ends_rep {r : Regex α} {f : List α → Option (List α)} (h : r.Steps f) {low high : ℕ}
    (hle : low ≤ high) (w : List α) : (rep r low high).ends w =
      ((List.range' low (high + 1 - low)).reverse).filterMap fun n => times f n w := by
  change repeatEnds r.ends low high w = _
  -- the repetitions behind the first one
  have hstep : ∀ low high w, (∀ w', repeatEnds r.ends low high w' =
      ((List.range' low (high + 1 - low)).reverse).filterMap fun n => times f n w') →
      (r.ends w).flatMap (repeatEnds r.ends low high) =
        ((List.range' (low + 1) (high + 1 - low)).reverse).filterMap fun n => times f n w := by
    intro low high w ih
    rw [h, Nat.add_comm low, ← List.map_add_range', ← List.map_reverse, List.filterMap_map]
    have htimes : ((fun n => times f n w) ∘ fun n => 1 + n) = fun n => (f w).bind (times f n) := by
      funext n
      rw [Function.comp, Nat.add_comm, times]
    rw [htimes]
    cases f w with
    | none =>
      refine (List.filterMap_eq_nil_iff.mpr ?_).symm
      exact fun _ _ => rfl
    | some w' => rw [Option.toList_some, List.flatMap_singleton, ih]; rfl
  induction high generalizing low w with
  | zero =>
    obtain rfl := Nat.le_zero.mp hle
    rfl
  | succ high ih =>
    cases low with
    | zero =>
      have hrange : List.range' 0 (high + 1 + 1) = 0 :: List.range' 1 (high + 1) := rfl
      rw [repeatEnds, hstep 0 high w fun w' => ih (Nat.zero_le _) w', Nat.sub_zero, Nat.sub_zero,
        hrange, List.reverse_cons, List.filterMap_append]
      rfl
    | succ low =>
      rw [repeatEnds, hstep low high w fun w' => ih (Nat.le_of_succ_le_succ hle) w']
      rw [Nat.add_sub_add_right]

/-- Repetitions, and what follows them: the greatest number with which all matches. -/
theorem Steps.first_rep_seq {r : Regex α} {f : List α → Option (List α)} (h : r.Steps f)
    {low high : ℕ} (hle : low ≤ high) (s : Regex α) (w : List α) :
    (seq (rep r low high) s).first w = ((List.range' low (high + 1 - low)).reverse).findSome?
      fun n => (times f n w).bind s.first := by
  rw [Regex.first_seq, ends_rep h hle, ← List.head?_filterMap, List.filterMap_filterMap,
    List.head?_filterMap]

/-- The preferred number of repetitions is the greatest possible one. -/
theorem Steps.first_rep_zero {r : Regex α} {f : List α → Option (List α)} (h : r.Steps f) (n : ℕ)
    (w : List α) : (rep r 0 n).first w = some (upTo f n w) := by
  change (repeatEnds r.ends 0 n w).head? = _
  induction n generalizing w with
  | zero => rfl
  | succ n ih =>
    rw [repeatEnds, h, List.head?_append, upTo]
    cases f w with
    | none => rfl
    | some w' => rw [Option.toList_some, List.flatMap_singleton, ih, Option.some_or]

theorem Steps.first_rep_one {r : Regex α} {f : List α → Option (List α)} (h : r.Steps f) (n : ℕ)
    (w : List α) : (rep r 1 (n + 1)).first w = (f w).map (upTo f n) := by
  change ((r.ends w).flatMap (repeatEnds r.ends 0 n)).head? = _
  rw [h]
  cases f w with
  | none => rfl
  | some w' =>
    rw [Option.toList_some, List.flatMap_singleton]
    exact h.first_rep_zero n w'

theorem first_optional (r : Regex α) (w : List α) :
    (rep r 0 1).first w = some ((r.first w).getD w) := by
  have hends : (rep r 0 1).ends w = r.ends w ++ [w] := by
    change (r.ends w).flatMap (fun w => [w]) ++ [w] = _
    rw [List.flatMap_singleton']
  rw [first, hends, List.head?_append, first]
  cases (r.ends w).head? <;> rfl

/-- **A run of one class that another class ends** has at most one match: a shorter run would be
followed by a character of the first class. -/
theorem steps_run {p q : α → Bool} (hpq : ∀ c, p c = true → q c = false) (n : ℕ) :
    (seq (rep (set p) 1 (n + 1)) (set q)).Steps fun w =>
      ((step p w).map (upTo (step p) n)).bind (step q) := by
  have hrun : ∀ n w, (repeatEnds (set p).ends 0 n w).flatMap (set q).ends =
      (step q (upTo (step p) n w)).toList := by
    intro n
    induction n with
    | zero =>
      intro w
      rw [repeatEnds, List.flatMap_singleton, steps_set q w]
      rfl
    | succ n ih =>
      intro w
      rw [repeatEnds, steps_set p w, List.flatMap_append, List.flatMap_singleton, upTo]
      rcases w with _ | ⟨c, w⟩
      · exact steps_set q []
      by_cases hc : p c = true
      · have hstep : step p (c :: w) = some w := if_pos hc
        have hq : (set q).ends (c :: w) = [] := if_neg (by rw [hpq c hc]; exact Bool.false_ne_true)
        rw [hstep, Option.toList_some, List.flatMap_singleton, ih, hq, List.append_nil]
      · have hstep : step p (c :: w) = none := if_neg hc
        rw [hstep]
        exact steps_set q (c :: w)
  intro w
  change (((set p).ends w).flatMap (repeatEnds (set p).ends 0 n)).flatMap (set q).ends =
    (((step p w).map (upTo (step p) n)).bind (step q)).toList
  rw [steps_set p w]
  cases step p w with
  | none => rfl
  | some w' => rw [Option.toList_some, List.flatMap_singleton, hrun]; rfl

/-! ## Positions instead of lists -/

section Simulation

variable {R : σ → τ → Prop} {f f' : σ → Option σ} {g g' : τ → Option τ}

/-- The two functions keep states related. -/
def Simulates (R : σ → τ → Prop) (f : σ → Option σ) (g : τ → Option τ) : Prop :=
  ∀ ⦃s t⦄, R s t → Option.Rel R (f s) (g t)

theorem Simulates.cases (h : Simulates R f g) {s : σ} {t : τ} (hst : R s t) :
    (f s = none ∧ g t = none) ∨ ∃ s' t', f s = some s' ∧ g t = some t' ∧ R s' t' := by
  have hrel := h hst
  generalize f s = x, g t = y at hrel
  cases hrel with
  | none => exact Or.inl ⟨rfl, rfl⟩
  | some hst' => exact Or.inr ⟨_, _, rfl, rfl, hst'⟩

theorem Simulates.bind (h : Simulates R f g) (h' : Simulates R f' g') :
    Simulates R (fun s => (f s).bind f') fun t => (g t).bind g' := by
  intro s t hst
  rcases h.cases hst with ⟨hf, hg⟩ | ⟨s', t', hf, hg, hst'⟩
  · simp only [hf, hg, Option.bind_none]
    exact .none
  · simp only [hf, hg, Option.bind_some]
    exact h' hst'

theorem Simulates.times (h : Simulates R f g) (n : ℕ) : Simulates R (times f n) (times g n) := by
  induction n with
  | zero => exact fun _ _ hst => .some hst
  | succ n ih => exact h.bind ih

theorem Simulates.upTo (h : Simulates R f g) (n : ℕ) ⦃s : σ⦄ ⦃t : τ⦄ (hst : R s t) :
    R (upTo f n s) (upTo g n t) := by
  induction n generalizing s t with
  | zero => exact hst
  | succ n ih =>
    rw [Regex.upTo, Regex.upTo]
    rcases h.cases hst with ⟨hf, hg⟩ | ⟨s', t', hf, hg, hst'⟩
    · rw [hf, hg]
      exact hst
    · rw [hf, hg]
      exact ih hst'

theorem Simulates.map {k : σ → σ} {k' : τ → τ} (h : Simulates R f g)
    (hk : ∀ ⦃s t⦄, R s t → R (k s) (k' t)) :
    Simulates R (fun s => (f s).map k) fun t => (g t).map k' := by
  intro s t hst
  rcases h.cases hst with ⟨hf, hg⟩ | ⟨s', t', hf, hg, hst'⟩
  · simp only [hf, hg, Option.map_none]
    exact .none
  · simp only [hf, hg, Option.map_some]
    exact .some (hk hst')

theorem Simulates.or (h : Simulates R f g) (h' : Simulates R f' g') :
    Simulates R (fun s => (f s).or (f' s)) fun t => (g t).or (g' t) := by
  intro s t hst
  rcases h.cases hst with ⟨hf, hg⟩ | ⟨s', t', hf, hg, hst'⟩
  · simp only [hf, hg, Option.none_or]
    exact h' hst
  · simp only [hf, hg, Option.some_or]
    exact .some hst'

/-- The first of several attempts that succeeds. -/
theorem Simulates.findSome? {ι : Type} {f : ι → σ → Option σ} {g : ι → τ → Option τ}
    (h : ∀ i, Simulates R (f i) (g i)) (l : List ι) :
    Simulates R (fun s => l.findSome? (f · s)) fun t => l.findSome? (g · t) := by
  intro s t hst
  induction l with
  | nil => exact .none
  | cons i l ih =>
    simp only [List.findSome?_cons]
    rcases (h i).cases hst with ⟨hf, hg⟩ | ⟨s', t', hf, hg, hst'⟩
    · rw [hf, hg]
      exact ih
    · rw [hf, hg]
      exact .some hst'

end Simulation

/-! ## Encoded text -/

section Encoding

variable (encode : α → List β)

/-- The matches in an encoded text are the encoded matches. -/
def Encoded (r : Regex α) (r' : Regex β) : Prop :=
  ∀ w, r'.ends (w.flatMap encode) = (r.ends w).map (List.flatMap encode)

variable {encode} {r s : Regex α} {r' s' : Regex β}

theorem Encoded.set {p : α → Bool} {q : β → Bool}
    (h : ∀ c, ∃ b bs, encode c = b :: bs ∧ q b = p c ∧ (p c = true → bs = [])) :
    Encoded encode (.set p) (.set q) := by
  intro w
  rcases w with _ | ⟨c, w⟩
  · rfl
  obtain ⟨b, bs, hencode, hq, hbs⟩ := h c
  rw [List.flatMap_cons, hencode, ends, List.cons_append, ends, hq]
  split_ifs with hc
  · rw [hbs hc]
    rfl
  · rfl

theorem Encoded.seq (hr : Encoded encode r r') (hs : Encoded encode s s') :
    Encoded encode (.seq r s) (.seq r' s') := by
  intro w
  rw [ends, ends, hr, List.flatMap_map, List.map_flatMap]
  exact congrArg (List.flatMap · _) (funext hs)

theorem Encoded.alt (hr : Encoded encode r r') (hs : Encoded encode s s') :
    Encoded encode (.alt r s) (.alt r' s') := by
  intro w
  rw [ends, ends, hr, hs, List.map_append]

theorem Encoded.rep (hr : Encoded encode r r') (low high : ℕ) :
    Encoded encode (.rep r low high) (.rep r' low high) := by
  intro w
  change repeatEnds r'.ends low high _ = (repeatEnds r.ends low high w).map _
  induction high generalizing low w with
  | zero => cases low <;> rfl
  | succ high ih =>
    cases low with
    | zero =>
      rw [repeatEnds, repeatEnds, hr, List.flatMap_map, List.map_append, List.map_flatMap]
      congr 2
      exact funext (ih 0)
    | succ low =>
      rw [repeatEnds, repeatEnds, hr, List.flatMap_map, List.map_flatMap]
      congr 1
      exact funext (ih low)

theorem Encoded.first (h : Encoded encode r r') (w : List α) :
    r'.first (w.flatMap encode) = (r.first w).map (List.flatMap encode) := by
  rw [Regex.first, h, List.head?_map, Regex.first]

/-- **The leftmost-first match in an encoded text**, if no match begins inside a character. -/
theorem Encoded.find (h : Encoded encode r r')
    (hinside : ∀ c b bs, encode c = b :: bs → ∀ b' ∈ bs, ∀ w, r'.ends (b' :: w) = [])
    (hempty : ∀ c, encode c ≠ []) (w : List α) : r'.find (w.flatMap encode) =
      (r.find w).map (Prod.map (List.flatMap encode) (List.flatMap encode)) := by
  -- the bytes inside a character are skipped
  have hskip : ∀ bs w, (∀ b' ∈ bs, ∀ w, r'.ends (b' :: w) = []) →
      r'.find (bs ++ w) = r'.find w := by
    intro bs w hbs
    induction bs with
    | nil => rfl
    | cons b bs ih =>
      obtain ⟨hb, hbs⟩ := List.forall_mem_cons.mp hbs
      rw [List.cons_append, Regex.find, first_eq_none_iff.mpr (hb _)]
      exact ih hbs
  induction w with
  | nil =>
    have hfirst := h.first []
    rw [List.flatMap_nil] at hfirst ⊢
    rw [Regex.find, hfirst, Regex.find, Option.map_map, Option.map_map]
    rfl
  | cons c w ih =>
    have hfirst := h.first (c :: w)
    obtain ⟨b, bs, hencode⟩ := List.exists_cons_of_ne_nil (hempty c)
    rw [List.flatMap_cons, hencode, List.cons_append] at hfirst ⊢
    rw [Regex.find, hfirst, Regex.find]
    cases r.first (c :: w) with
    | some rest => simp [Prod.map, hencode]
    | none => exact (hskip bs _ (hinside c b bs hencode)).trans ih

end Encoding

end Regex
