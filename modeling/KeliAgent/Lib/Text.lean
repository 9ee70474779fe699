import Mathlib

/-!
# String functions of the Rust standard library

The methods of `str` under their names; `strip_prefix` is `stripStart`. Lean's own
`String.trimAscii` only removes ASCII blanks, while `str::trim` removes every `White_Space`
character.

* `splitOnce_cases`, `split_append`: where a text is cut, and where more text at its end goes.
-/

namespace Text

/-- `char::is_whitespace`: the Unicode property `White_Space`. -/
def isWhitespace (c : Char) : Bool :=
  (0x09 ≤ c.toNat && c.toNat ≤ 0x0D) || c.toNat == 0x20 || c.toNat == 0x85 || c.toNat == 0xA0 ||
    c.toNat == 0x1680 || (0x2000 ≤ c.toNat && c.toNat ≤ 0x200A) || c.toNat == 0x2028 ||
    c.toNat == 0x2029 || c.toNat == 0x202F || c.toNat == 0x205F || c.toNat == 0x3000

/-- `str::trim`. -/
def trim (s : String) : String :=
  String.ofList ((s.toList.dropWhile isWhitespace).reverse.dropWhile isWhitespace).reverse

/-- `char::to_ascii_lowercase`. -/
def toAsciiLowercase (c : Char) : Char :=
  if 0x41 ≤ c.toNat ∧ c.toNat ≤ 0x5A then Char.ofNat (c.toNat + 0x20) else c

/-- `str::to_ascii_lowercase`. -/
def lowercase (s : String) : String := String.ofList (s.toList.map toAsciiLowercase)

/-- `str::eq_ignore_ascii_case`. -/
def eqIgnoreAsciiCase (s t : String) : Bool :=
  s.toList.map toAsciiLowercase == t.toList.map toAsciiLowercase

/-- The first place where `pattern` occurs, as the characters before and after it. -/
def splitOnceList (pattern : List Char) : List Char → Option (List Char × List Char)
  | [] => if pattern = [] then some ([], []) else none
  | c :: cs =>
    if pattern.isPrefixOf (c :: cs) then some ([], (c :: cs).drop pattern.length)
    else (splitOnceList pattern cs).map fun (before, after) => (c :: before, after)

/-- `str::split_once`. -/
def splitOnce (s pattern : String) : Option (String × String) :=
  (splitOnceList pattern.toList s.toList).map fun (before, after) =>
    (String.ofList before, String.ofList after)

/-- `str::rsplit_once` with a character. -/
def rsplitOnce (s : String) (c : Char) : Option (String × String) :=
  match s.toList.reverse.span (· != c) with
  | (_, []) => none
  | (after, _ :: before) => some (String.ofList before.reverse, String.ofList after.reverse)

/-- `str::contains`. -/
def contains (s pattern : String) : Bool := (splitOnce s pattern).isSome

/-- `str::strip_prefix`. -/
def stripStart (s pattern : String) : Option String :=
  if pattern.toList.isPrefixOf s.toList then
    some (String.ofList (s.toList.drop pattern.toList.length))
  else none

/-- `str::starts_with`. -/
def startsWith (s pattern : String) : Bool := pattern.toList.isPrefixOf s.toList

/-- `str::trim_end_matches` with a character. -/
def trimEndMatches (s : String) (c : Char) : String :=
  String.ofList (s.toList.reverse.dropWhile (· == c)).reverse

/-- The pieces between the separators; one more than there are separators. -/
def splitList (separates : Char → Bool) : List Char → List (List Char)
  | [] => [[]]
  | c :: cs =>
    if separates c then [] :: splitList separates cs
    else
      match splitList separates cs with
      | [] => [[c]]
      | piece :: pieces => (c :: piece) :: pieces

/-- `str::split` with a predicate on characters. -/
def split (s : String) (separates : Char → Bool) : List String :=
  (splitList separates s.toList).map String.ofList

/-- The number that the decimal digits stand for; `none` if it does not fit into eight bits. -/
def parseDigits : ℕ → List Char → Option ℕ
  | value, [] => some value
  | value, c :: cs =>
    if 0x30 ≤ c.toNat ∧ c.toNat ≤ 0x39 ∧ value * 10 + (c.toNat - 0x30) < 256 then
      parseDigits (value * 10 + (c.toNat - 0x30)) cs
    else none

/-- `str::parse::<u8>`: decimal digits, after a plus sign if there are any. -/
def parseU8 (s : String) : Option ℕ :=
  match s.toList with
  | [] => none
  | ['+'] => none
  | '+' :: cs => parseDigits 0 cs
  | cs => parseDigits 0 cs

/-- Trimming twice is trimming once. -/
theorem trim_trim (s : String) : trim (trim s) = trim s := by
  have hfront : ∀ l : List Char,
      ((l.dropWhile isWhitespace).rdropWhile isWhitespace).dropWhile isWhitespace =
        (l.dropWhile isWhitespace).rdropWhile isWhitespace := by
    intro l
    rw [List.dropWhile_eq_self_iff]
    intro hpos
    have hpre := List.rdropWhile_prefix isWhitespace (l := l.dropWhile isWhitespace)
    have hlt := hpos.trans_le hpre.length_le
    rw [hpre.getElem hpos]
    exact List.dropWhile_get_zero_not isWhitespace l hlt
  have htrim : ∀ s, (trim s).toList =
      (s.toList.dropWhile isWhitespace).rdropWhile isWhitespace := fun s => String.toList_ofList
  rw [← String.toList_inj, htrim, htrim, hfront, List.rdropWhile_idempotent]

/-- A text that does not start with a blank keeps its first character. -/
theorem head_trim {s : String} {c : Char} {cs : List Char} (h : s.toList = c :: cs)
    (hc : isWhitespace c = false) : ∃ ds, (trim s).toList = c :: ds := by
  have hfront : (c :: cs).dropWhile isWhitespace = c :: cs :=
    List.dropWhile_cons_of_neg (by rw [hc]; exact Bool.false_ne_true)
  have hback : (c :: cs).rdropWhile isWhitespace ≠ [] := by
    rw [Ne, List.rdropWhile_eq_nil_iff]
    intro hall
    rw [hall c List.mem_cons_self] at hc
    cases hc
  obtain ⟨d, ds, hds⟩ := List.exists_cons_of_ne_nil hback
  have hpre := List.rdropWhile_prefix isWhitespace (l := c :: cs)
  rw [hds, List.cons_prefix_cons] at hpre
  obtain ⟨rfl, -⟩ := hpre
  refine ⟨ds, ?_⟩
  rw [trim, String.toList_ofList, h, hfront]
  exact hds

theorem startsWith_of_head_ne {s : String} {c d : Char} {cs ds : List Char} (pattern : String)
    (hs : s.toList = c :: cs) (hpattern : pattern.toList = d :: ds) (h : d ≠ c) :
    startsWith s pattern = false := by
  rw [startsWith, hs, hpattern, List.isPrefixOf_cons_cons, beq_eq_false_iff_ne.mpr h,
    Bool.false_and]

/-- Comparing with a word in lower case. -/
theorem lowercase_eq_iff {s t : String} (ht : lowercase t = t) :
    lowercase s = t ↔ eqIgnoreAsciiCase s t = true := by
  have hlist : ∀ u : String, (lowercase u).toList = u.toList.map toAsciiLowercase :=
    fun u => String.toList_ofList
  rw [eqIgnoreAsciiCase, beq_iff_eq, ← hlist, ← hlist, ht, String.toList_inj]

/-! ## Splitting -/

section Split

variable {c : Char} {pattern : String}

theorem splitOnceList_of_not_mem {cs : List Char} (h : c ∉ cs) : splitOnceList [c] cs = none := by
  induction cs with
  | nil => rfl
  | cons d cs ih =>
    obtain ⟨hd, hcs⟩ := not_or.mp fun hc => h (List.mem_cons.mpr hc)
    simp [splitOnceList, hd, ih hcs]

theorem splitOnceList_append {before : List Char} (h : c ∉ before) (after : List Char) :
    splitOnceList [c] (before ++ c :: after) = some (before, after) := by
  induction before with
  | nil => simp [splitOnceList]
  | cons d before ih =>
    obtain ⟨hd, hbefore⟩ := not_or.mp fun hc => h (List.mem_cons.mpr hc)
    simp [splitOnceList, hd, ih hbefore]

theorem splitOnce_of_not_mem (hpattern : pattern.toList = [c]) {s : String} (h : c ∉ s.toList) :
    splitOnce s pattern = none := by
  rw [splitOnce, hpattern, splitOnceList_of_not_mem h, Option.map_none]

theorem splitOnce_append (hpattern : pattern.toList = [c]) {before : String}
    (h : c ∉ before.toList) (after : String) :
    splitOnce (before ++ (pattern ++ after)) pattern = some (before, after) := by
  rw [splitOnce, String.toList_append, String.toList_append, hpattern, List.singleton_append,
    splitOnceList_append h]
  simp

/-- The character is not in the text, or the text is cut at the first place where it is. -/
theorem splitOnce_cases (hpattern : pattern.toList = [c]) (s : String) :
    (c ∉ s.toList ∧ splitOnce s pattern = none) ∨
      ∃ before after, c ∉ before.toList ∧ s = before ++ (pattern ++ after) ∧
        splitOnce s pattern = some (before, after) := by
  by_cases h : c ∈ s.toList
  · obtain ⟨before, after, hs, hbefore⟩ := List.eq_append_cons_of_mem h
    rw [← String.toList_ofList (l := before)] at hbefore
    have heq : s = String.ofList before ++ (pattern ++ String.ofList after) := by
      rw [← String.toList_inj, hs, String.toList_append, String.toList_append, hpattern,
        String.toList_ofList, String.toList_ofList, List.singleton_append]
    exact Or.inr ⟨_, _, hbefore, heq, by rw [heq]; exact splitOnce_append hpattern hbefore _⟩
  · exact Or.inl ⟨h, splitOnce_of_not_mem hpattern h⟩

theorem splitList_of_forall {separates : Char → Bool} {cs : List Char}
    (h : ∀ c ∈ cs, separates c = false) : splitList separates cs = [cs] := by
  induction cs with
  | nil => rfl
  | cons c cs ih =>
    obtain ⟨hc, hcs⟩ := List.forall_mem_cons.mp h
    simp [splitList, hc, ih hcs]

/-- Text without separators goes to the last piece. -/
theorem splitList_append (separates : Char → Bool) (cs : List Char) :
    ∃ pieces last, splitList separates cs = pieces ++ [last] ∧
      ∀ ds, (∀ d ∈ ds, separates d = false) →
        splitList separates (cs ++ ds) = pieces ++ [last ++ ds] := by
  induction cs with
  | nil => exact ⟨[], [], rfl, fun ds hds => splitList_of_forall hds⟩
  | cons c cs ih =>
    obtain ⟨pieces, last, hcs, happend⟩ := ih
    by_cases hc : separates c = true
    · refine ⟨[] :: pieces, last, ?_, fun ds hds => ?_⟩
      · simp [splitList, hc, hcs]
      · simp [splitList, hc, happend ds hds]
    · -- the character goes to the first piece, which may be the last one
      cases pieces with
      | nil =>
        refine ⟨[], c :: last, ?_, fun ds hds => ?_⟩
        · simp [splitList, hc, hcs]
        · simp [splitList, hc, happend ds hds]
      | cons piece pieces =>
        refine ⟨(c :: piece) :: pieces, last, ?_, fun ds hds => ?_⟩
        · simp [splitList, hc, hcs]
        · simp [splitList, hc, happend ds hds]

theorem split_append (separates : Char → Bool) (s : String) :
    ∃ pieces last, split s separates = pieces ++ [last] ∧
      ∀ t : String, (∀ c ∈ t.toList, separates c = false) →
        split (s ++ t) separates = pieces ++ [last ++ t] := by
  obtain ⟨pieces, last, hs, happend⟩ := splitList_append separates s.toList
  refine ⟨pieces.map String.ofList, String.ofList last, ?_, fun t ht => ?_⟩
  · rw [split, hs, List.map_append, List.map_singleton]
  · rw [split, String.toList_append, happend _ ht, List.map_append, List.map_singleton,
      String.ofList_append, String.ofList_toList]

theorem split_of_forall {separates : Char → Bool} {s : String}
    (h : ∀ c ∈ s.toList, separates c = false) : split s separates = [s] := by
  rw [split, splitList_of_forall h, List.map_singleton, String.ofList_toList]

end Split

/-- The last of the joined pieces is at the end of the text. -/
theorem intercalate_append_singleton (separator : String) (pieces : List String) :
    ∃ joined, ∀ last, separator.intercalate (pieces ++ [last]) = joined ++ last := by
  by_cases h : pieces = []
  · exact ⟨"", fun last => by rw [h, String.empty_append]; rfl⟩
  · refine ⟨separator.intercalate pieces ++ separator, fun last => ?_⟩
    rw [String.intercalate_append_of_ne_nil h (List.cons_ne_nil _ _)]
    rfl

end Text
