import KeliAgent.Lib.Text

/-!
# Words of a text

The words of a text are the pieces between its separators that are not empty.

* `exists_trim`: what `trim` removes.
* **`words_trim`**: trimming does not change the words, if blanks separate them.
* `not_separates_of_mem_split`: a piece has no separators.
-/

namespace Text

/-- `trim` removes blanks at both ends, and nothing else. -/
theorem exists_trim (s : String) : ∃ front back, s.toList = front ++ ((trim s).toList ++ back) ∧
    (∀ c ∈ front, isWhitespace c = true) ∧ ∀ c ∈ back, isWhitespace c = true := by
  refine ⟨s.toList.takeWhile isWhitespace,
    (s.toList.dropWhile isWhitespace).rtakeWhile isWhitespace, ?_, ?_, ?_⟩
  · have hback : (trim s).toList = (s.toList.dropWhile isWhitespace).rdropWhile isWhitespace :=
      String.toList_ofList
    rw [hback, List.rdropWhile_append_rtakeWhile, List.takeWhile_append_dropWhile]
  · exact fun c hc => List.mem_takeWhile_imp hc
  · exact fun c hc => List.mem_rtakeWhile_imp hc

/-- A text without blanks is not changed. -/
theorem trim_of_forall {s : String} (h : ∀ c ∈ s.toList, isWhitespace c = false) : trim s = s := by
  obtain ⟨front, back, hs, hfront, hback⟩ := exists_trim s
  have hnil : ∀ part : List Char, (∀ c ∈ part, c ∈ s.toList) →
      (∀ c ∈ part, isWhitespace c = true) → part = [] := by
    intro part hpart hblank
    refine List.eq_nil_iff_forall_not_mem.mpr fun c hc => ?_
    have := (h c (hpart c hc)).symm.trans (hblank c hc)
    cases this
  have hfront_nil : front = [] := hnil front (fun c hc => by rw [hs]; simp [hc]) hfront
  have hback_nil : back = [] := hnil back (fun c hc => by rw [hs]; simp [hc]) hback
  rw [hfront_nil, hback_nil, List.nil_append, List.append_nil] at hs
  exact (String.toList_inj.mp hs).symm

section Words

variable {separates : Char → Bool}

theorem splitList_ne_nil (separates : Char → Bool) (cs : List Char) :
    splitList separates cs ≠ [] := by
  cases cs with
  | nil => exact List.cons_ne_nil _ _
  | cons c cs =>
    rw [splitList]
    split
    · exact List.cons_ne_nil _ _
    · split <;> exact List.cons_ne_nil _ _

/-- A separator at the end adds an empty piece. -/
theorem splitList_concat {c : Char} (hc : separates c = true) (cs : List Char) :
    splitList separates (cs ++ [c]) = splitList separates cs ++ [[]] := by
  induction cs with
  | nil => simp [splitList, hc]
  | cons d cs ih =>
    rw [List.cons_append, splitList, splitList, ih]
    by_cases hd : separates d = true
    · rw [if_pos hd, if_pos hd, List.cons_append]
    · rw [if_neg hd, if_neg hd]
      obtain ⟨piece, pieces, hpieces⟩ := List.exists_cons_of_ne_nil (splitList_ne_nil separates cs)
      rw [hpieces]
      rfl

theorem not_separates_of_mem_splitList {cs piece : List Char}
    (h : piece ∈ splitList separates cs) : ∀ c ∈ piece, separates c = false := by
  induction cs generalizing piece with
  | nil =>
    cases List.mem_singleton.mp h
    exact fun _ hc => absurd hc List.not_mem_nil
  | cons d cs ih =>
    rw [splitList] at h
    by_cases hd : separates d = true
    · rw [if_pos hd] at h
      rcases List.mem_cons.mp h with rfl | h
      · exact fun _ hc => absurd hc List.not_mem_nil
      · exact ih h
    · rw [if_neg hd] at h
      obtain ⟨first, rest, hsplit⟩ := List.exists_cons_of_ne_nil (splitList_ne_nil separates cs)
      rw [hsplit] at h ih
      rcases List.mem_cons.mp h with rfl | h
      · exact List.forall_mem_cons.mpr ⟨Bool.not_eq_true _ ▸ hd, ih List.mem_cons_self⟩
      · exact ih (List.mem_cons_of_mem _ h)

theorem not_separates_of_mem_split {s piece : String} (h : piece ∈ split s separates) :
    ∀ c ∈ piece.toList, separates c = false := by
  obtain ⟨cs, hcs, rfl⟩ := List.mem_map.mp h
  rw [String.toList_ofList]
  exact not_separates_of_mem_splitList hcs

/-- The pieces that are not empty. -/
def words (separates : Char → Bool) (s : String) : List String :=
  (split s separates).filter (· ≠ "")

theorem words_eq (s : String) :
    words separates s = ((splitList separates s.toList).filter (· ≠ [])).map String.ofList := by
  rw [words, split, List.filter_map]
  congr 1
  refine List.filter_congr fun piece _ => ?_
  simp [String.ofList_eq_empty_iff]

/-- **Blanks around a text do not change its words.** -/
theorem words_trim (hblank : ∀ c, isWhitespace c = true → separates c = true) (s : String) :
    words separates (trim s) = words separates s := by
  have hfront : ∀ front cs : List Char, (∀ c ∈ front, isWhitespace c = true) →
      (splitList separates (front ++ cs)).filter (· ≠ []) =
        (splitList separates cs).filter (· ≠ []) := by
    intro front cs
    induction front with
    | nil => exact fun _ => rfl
    | cons c front ih =>
      intro h
      obtain ⟨hc, hfront⟩ := List.forall_mem_cons.mp h
      rw [List.cons_append, splitList, if_pos (hblank c hc), List.filter_cons_of_neg (by simp),
        ih hfront]
  have hback : ∀ cs back : List Char, (∀ c ∈ back, isWhitespace c = true) →
      (splitList separates (cs ++ back)).filter (· ≠ []) =
        (splitList separates cs).filter (· ≠ []) := by
    intro cs back
    induction back using List.reverseRecOn with
    | nil => rw [List.append_nil]; exact fun _ => rfl
    | append_singleton back c ih =>
      intro h
      have hc := h c (by simp)
      rw [← List.append_assoc, splitList_concat (hblank c hc), List.filter_append,
        ih fun d hd => h d (List.mem_append_left _ hd)]
      simp
  obtain ⟨front, back, hs, hf, hb⟩ := exists_trim s
  rw [words_eq, words_eq, hs, hfront _ _ hf, hback _ _ hb]

end Words

end Text
