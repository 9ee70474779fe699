import KeliAgent.Lib.Checked
import KeliAgent.Lib.Regex
import KeliAgent.Lib.Utf8

/-!
# Public addresses in a response

`find_go_ipv4_regex_match` and `find_go_ipv6_regex_match` of `linux_proc.rs` look for an address in
a text. They replace two regular expressions and work on the bytes of the text, without
backtracking.

* `goIpv4`, `goIpv6`: the two expressions, over any alphabet.
* `simulates_matchGoIpv4`, `simulates_matchGoIpv6`: at each byte the scanner finds the preferred
  match.
* **`public_ip_scanners`**: the scanners return the leftmost-first matches, as parts of the text.
-/

namespace KeliAgent.PublicIp

open Regex Checked

/-! ## The code -/

/-- `u8::is_ascii_digit` -/
def isAsciiDigit (byte : UInt8) : Bool := 48 ≤ byte && byte ≤ 57

/-- `u8::is_ascii_hexdigit` -/
def isAsciiHexdigit (byte : UInt8) : Bool :=
  isAsciiDigit byte || (65 ≤ byte && byte ≤ 70) || (97 ≤ byte && byte ≤ 102)

/-- The loop of `consume_ipv4_digits` and of `consume_hex_group`. -/
def advance (inGroup : UInt8 → Bool) (limit : ℕ) (bytes : List UInt8) (start cursor : ℕ) : ℕ :=
  if _h : cursor < bytes.length then
    if inGroup bytes[cursor] ∧ cursor - start < limit then
      advance inGroup limit bytes start (cursor + 1)
    else cursor
  else cursor
termination_by bytes.length - cursor

/-- The cursor behind a group; `none` if there is none, and then the cursor stays. -/
def consumeGroup (inGroup : UInt8 → Bool) (limit : ℕ) (bytes : List UInt8) (cursor : ℕ) :
    Option ℕ :=
  let stop := advance inGroup limit bytes cursor cursor
  if stop > cursor then some stop else none

def consumeIpv4Digits : List UInt8 → ℕ → Option ℕ := consumeGroup isAsciiDigit 3

def consumeHexGroup : List UInt8 → ℕ → Option ℕ := consumeGroup isAsciiHexdigit 4

/-- The cursor behind the byte, if the byte is there. -/
def expectByte (byte : UInt8) (bytes : List UInt8) (cursor : ℕ) : Option ℕ :=
  if bytes[cursor]? = some byte then some (cursor + 1) else none

/-- One attempt of `find_go_ipv4_regex_match`. -/
def matchGoIpv4 (bytes : List UInt8) (start : ℕ) : Option ℕ :=
  (consumeIpv4Digits bytes start).bind
    (times (fun cursor => (expectByte 46 bytes cursor).bind (consumeIpv4Digits bytes)) 3)

/-- A group and the colon behind it. -/
def consumeHexColon (bytes : List UInt8) (cursor : ℕ) : Option ℕ :=
  (consumeHexGroup bytes cursor).bind (expectByte 58 bytes)

def matchGoIpv6Full (bytes : List UInt8) (start : ℕ) : Option ℕ :=
  (times (consumeHexColon bytes) 7 start).bind (consumeHexGroup bytes)

/-- The part behind the double colon: it cannot fail. -/
def consumeIpv6Rest (bytes : List UInt8) (cursor : ℕ) : ℕ :=
  let cursor := upTo (consumeHexColon bytes) 4 cursor
  (consumeHexGroup bytes cursor).getD cursor

def matchGoIpv6Compressed (bytes : List UInt8) (start : ℕ) : Option ℕ :=
  [6, 5, 4, 3, 2, 1].findSome? fun prefixGroups =>
    ((times (consumeHexColon bytes) prefixGroups start).bind (expectByte 58 bytes)).map
      (consumeIpv6Rest bytes)

/-- One attempt of `find_go_ipv6_regex_match`. -/
def matchGoIpv6 (bytes : List UInt8) (start : ℕ) : Option ℕ :=
  (matchGoIpv6Full bytes start).or (matchGoIpv6Compressed bytes start)

/-- The first place from which a match is found, and its end. -/
def scan (begins : UInt8 → Bool) (matchAt : ℕ → Option ℕ) (bytes : List UInt8) (start : ℕ) :
    Option (ℕ × ℕ) :=
  if _h : start < bytes.length then
    if !begins bytes[start] then scan begins matchAt bytes (start + 1)
    else
      match matchAt start with
      | some stop => some (start, stop)
      | none => scan begins matchAt bytes (start + 1)
  else none
termination_by bytes.length - start

/-- `&contents[start..stop]`; a panic if one of the ends is inside a character. -/
def strSlice (contents : String) (start stop : ℕ) : Except (Fault Empty) (Match Char) :=
  match Text.splitAtByte contents.toList start with
  | none => .error .panic
  | some (before, rest) =>
    if stop < start then .error .panic
    else
      match Text.splitAtByte rest (stop - start) with
      | none => .error .panic
      | some (matched, after) => .ok ⟨before, matched, after⟩

/-- The part of the text from the first match. -/
def findMatch (begins : UInt8 → Bool) (matchAt : List UInt8 → ℕ → Option ℕ) (contents : String) :
    Except (Fault Empty) (Option (Match Char)) :=
  let bytes := contents.toUTF8.toList
  match scan begins (matchAt bytes) bytes 0 with
  | none => .ok none
  | some (start, stop) => (strSlice contents start stop).map some

def findGoIpv4RegexMatch : String → Except (Fault Empty) (Option (Match Char)) :=
  findMatch isAsciiDigit matchGoIpv4

def findGoIpv6RegexMatch : String → Except (Fault Empty) (Option (Match Char)) :=
  findMatch isAsciiHexdigit matchGoIpv6

/-! ## The expressions -/

/-- `\d{1,3}\.\d{1,3}\.\d{1,3}\.\d{1,3}` -/
def goIpv4 {α : Type} (digit dot : α → Bool) : Regex α :=
  let group := rep (set digit) 1 3
  seq group (seq (set dot) (seq group (seq (set dot) (seq group (seq (set dot) group)))))

/-- `(h{1,4}:){7}h{1,4}|(h{1,4}:){1,6}:(h{1,4}:){0,4}(h{1,4})?` where `h` is `[0-9A-Fa-f]` -/
def goIpv6 {α : Type} (hex colon : α → Bool) : Regex α :=
  let group := rep (set hex) 1 4
  let block := seq group (set colon)
  alt (seq (rep block 7 7) group)
    (seq (rep block 1 6) (seq (set colon) (seq (rep block 0 4) (rep group 0 1))))

def isDigit (c : Char) : Bool := '0' ≤ c && c ≤ '9'

def isHexdigit (c : Char) : Bool := isDigit c || ('A' ≤ c && c ≤ 'F') || ('a' ≤ c && c ≤ 'f')

def goIpv4Regex : Regex Char := goIpv4 isDigit (· == '.')

def goIpv6Regex : Regex Char := goIpv6 isHexdigit (· == ':')

/-! ## The scanners match the expressions on bytes -/

/-- The cursor stands before this rest of the bytes. -/
def At (bytes : List UInt8) (cursor : ℕ) (w : List UInt8) : Prop :=
  cursor ≤ bytes.length ∧ w = bytes.drop cursor

/-- The cursor behind one byte of a class. -/
def stepAt (p : UInt8 → Bool) (bytes : List UInt8) (cursor : ℕ) : Option ℕ :=
  if _h : cursor < bytes.length then if p bytes[cursor] then some (cursor + 1) else none else none

section Bytes

variable (bytes : List UInt8)

theorem simulates_stepAt (p : UInt8 → Bool) : Simulates (At bytes) (stepAt p bytes) (step p) := by
  rintro cursor _ ⟨hle, rfl⟩
  unfold stepAt
  split_ifs with hlt hp
  · rw [List.drop_eq_getElem_cons hlt, step, if_pos hp]
    exact .some ⟨hlt, rfl⟩
  · rw [List.drop_eq_getElem_cons hlt, step, if_neg hp]
    exact .none
  · rw [List.drop_eq_nil_of_le (not_lt.mp hlt)]
    exact .none

theorem expectByte_eq (byte : UInt8) : expectByte byte bytes = stepAt (· == byte) bytes := by
  funext cursor
  unfold expectByte stepAt
  by_cases hlt : cursor < bytes.length
  · rw [List.getElem?_eq_getElem hlt, dif_pos hlt]
    simp only [Option.some.injEq, beq_iff_eq]
  · rw [List.getElem?_eq_none (not_lt.mp hlt), dif_neg hlt]
    rfl

theorem advance_eq (p : UInt8 → Bool) (limit start cursor : ℕ) (h : start ≤ cursor) :
    advance p limit bytes start cursor =
      upTo (stepAt p bytes) (limit - (cursor - start)) cursor := by
  generalize hn : limit - (cursor - start) = n
  induction n generalizing cursor with
  | zero =>
    rw [advance, upTo]
    split_ifs <;> first | rfl | omega
  | succ n ih =>
    rw [advance, upTo, stepAt]
    split_ifs with hlt hp hp' hp'
    · exact ih (cursor + 1) (by omega) (by omega)
    · exact absurd hp.1 hp'
    · exact absurd ⟨hp', by omega⟩ hp
    · rfl
    · rfl

theorem le_upTo (p : UInt8 → Bool) (n cursor : ℕ) : cursor ≤ upTo (stepAt p bytes) n cursor := by
  induction n generalizing cursor with
  | zero => exact le_rfl
  | succ n ih =>
    rw [upTo, stepAt]
    split_ifs
    · exact (Nat.le_succ cursor).trans (ih _)
    · exact le_rfl
    · exact le_rfl

theorem consumeGroup_eq (p : UInt8 → Bool) (n : ℕ) : consumeGroup p (n + 1) bytes =
    fun cursor => (stepAt p bytes cursor).map (upTo (stepAt p bytes) n) := by
  funext cursor
  rw [consumeGroup, advance_eq bytes p (n + 1) cursor cursor le_rfl, Nat.sub_self, Nat.sub_zero,
    upTo]
  cases hstep : stepAt p bytes cursor with
  | none => exact if_neg (lt_irrefl cursor)
  | some next =>
    have hnext : next = cursor + 1 := by
      unfold stepAt at hstep
      split_ifs at hstep
      exact (Option.some.inj hstep).symm
    exact if_pos (hnext ▸ le_upTo bytes p n next)

/-- A greedy run, on lists. -/
def run (p : UInt8 → Bool) (n : ℕ) (w : List UInt8) : Option (List UInt8) :=
  (step p w).map (upTo (step p) n)

theorem simulates_consumeGroup (p : UInt8 → Bool) (n : ℕ) :
    Simulates (At bytes) (consumeGroup p (n + 1) bytes) (run p n) := by
  rw [consumeGroup_eq]
  exact (simulates_stepAt bytes p).map ((simulates_stepAt bytes p).upTo n)

theorem simulates_expectByte (byte : UInt8) :
    Simulates (At bytes) (expectByte byte bytes) (step (· == byte)) :=
  expectByte_eq bytes byte ▸ simulates_stepAt bytes _

theorem first_group (p : UInt8 → Bool) (n : ℕ) : (rep (set p) 1 (n + 1)).first = run p n :=
  funext fun w => (steps_set p).first_rep_one n w

theorem disjoint_of_eq_false {p : UInt8 → Bool} {byte : UInt8} (h : p byte = false) (c : UInt8)
    (hc : p c = true) : (c == byte) = false := by
  rw [beq_eq_false_iff_ne]
  rintro rfl
  exact Bool.false_ne_true (h.symm.trans hc)

/-- A block, and what follows it. -/
theorem first_block {p : UInt8 → Bool} {byte : UInt8} (h : p byte = false) (n : ℕ)
    (r : Regex UInt8) : (seq (rep (set p) 1 (n + 1)) (seq (set (· == byte)) r)).first =
      fun w => ((run p n w).bind (step (· == byte))).bind r.first := by
  funext w
  rw [first_seq_assoc, (steps_run (disjoint_of_eq_false h) n).first_seq, run]

/-- **At each byte the scanner finds the preferred match.** -/
theorem simulates_matchGoIpv4 :
    Simulates (At bytes) (matchGoIpv4 bytes) (goIpv4 isAsciiDigit (· == 46)).first := by
  have hfirst : (goIpv4 isAsciiDigit (· == 46)).first = fun w => (run isAsciiDigit 2 w).bind
      (times (fun w => (step (· == 46) w).bind (run isAsciiDigit 2)) 3) := by
    have hdot : isAsciiDigit 46 = false := by decide
    funext w
    rw [goIpv4, first_block hdot, first_block hdot, first_block hdot, first_group]
    simp only [times, Option.bind_assoc, Option.bind_fun_some]
  rw [hfirst]
  have hdigits := simulates_consumeGroup bytes isAsciiDigit 2
  exact hdigits.bind (((simulates_expectByte bytes 46).bind hdigits).times 3)

theorem simulates_consumeHexColon : Simulates (At bytes) (consumeHexColon bytes)
    fun w => (run isAsciiHexdigit 3 w).bind (step (· == 58)) :=
  (simulates_consumeGroup bytes isAsciiHexdigit 3).bind (simulates_expectByte bytes 58)

/-- The part behind the double colon, on lists. -/
def ipv6Rest (w : List UInt8) : List UInt8 :=
  let w := upTo (fun w => (run isAsciiHexdigit 3 w).bind (step (· == 58))) 4 w
  (run isAsciiHexdigit 3 w).getD w

theorem at_consumeIpv6Rest ⦃cursor : ℕ⦄ ⦃w : List UInt8⦄ (h : At bytes cursor w) :
    At bytes (consumeIpv6Rest bytes cursor) (ipv6Rest w) := by
  have hblocks := (simulates_consumeHexColon bytes).upTo 4 h
  rcases (simulates_consumeGroup bytes isAsciiHexdigit 3).cases hblocks with
    ⟨hf, hg⟩ | ⟨cursor', w', hf, hg, hat⟩
  · rw [consumeIpv6Rest, ipv6Rest, consumeHexGroup, hf, hg]
    exact hblocks
  · rw [consumeIpv6Rest, ipv6Rest, consumeHexGroup, hf, hg]
    exact hat

/-- The end of the second alternative always matches. -/
theorem first_ipv6Rest (w : List UInt8) :
    (seq (rep (seq (rep (set isAsciiHexdigit) 1 4) (set (· == 58))) 0 4)
      (rep (rep (set isAsciiHexdigit) 1 4) 0 1)).first w = some (ipv6Rest w) := by
  have hblock := steps_run (disjoint_of_eq_false (show isAsciiHexdigit 58 = false by decide)) 3
  rw [first_seq_of_total _ (first_optional _), hblock.first_rep_zero, first_group]
  rfl

theorem simulates_matchGoIpv6 :
    Simulates (At bytes) (matchGoIpv6 bytes) (goIpv6 isAsciiHexdigit (· == 58)).first := by
  have hblock := steps_run (disjoint_of_eq_false (show isAsciiHexdigit 58 = false by decide)) 3
  have hgroup := simulates_consumeGroup bytes isAsciiHexdigit 3
  have hcolon := simulates_expectByte bytes 58
  have hblocks := simulates_consumeHexColon bytes
  have hfirst : (goIpv6 isAsciiHexdigit (· == 58)).first = fun w =>
      ((times (fun w => (run isAsciiHexdigit 3 w).bind (step (· == 58))) 7 w).bind
        (run isAsciiHexdigit 3)).or
      ([6, 5, 4, 3, 2, 1].findSome? fun n =>
        ((times (fun w => (run isAsciiHexdigit 3 w).bind (step (· == 58))) n w).bind
          (step (· == 58))).map ipv6Rest) := by
    funext w
    rw [goIpv6, first_alt, hblock.first_rep_seq (le_refl 7), hblock.first_rep_seq (by decide)]
    have hrest : ∀ w, (seq (set (· == 58)) (seq (rep (seq (rep (set isAsciiHexdigit) 1 4)
        (set (· == 58))) 0 4) (rep (rep (set isAsciiHexdigit) 1 4) 0 1))).first w =
          (step (· == 58) w).map ipv6Rest := by
      intro w
      rw [first_seq_of_total _ first_ipv6Rest, (steps_set _).first_eq]
    have hfull : (List.range' 7 (7 + 1 - 7)).reverse = [7] := rfl
    have hcompressed : (List.range' 1 (6 + 1 - 1)).reverse = [6, 5, 4, 3, 2, 1] := rfl
    rw [first_group, funext hrest, hfull, hcompressed, List.findSome?_singleton]
    simp only [Option.map_bind]
    rfl
  rw [hfirst]
  refine ((hblocks.times 7).bind hgroup).or (Simulates.findSome? (fun n => ?_) _)
  exact ((hblocks.times n).bind hcolon).map (at_consumeIpv6Rest bytes)

end Bytes

/-! ## The search -/

section Search

variable {begins : UInt8 → Bool} {bytes : List UInt8} {r : Regex UInt8}

/-- The loop over the bytes finds the leftmost match. -/
theorem scan_find {matchAt : ℕ → Option ℕ} (hnil : r.ends [] = [])
    (hbegins : ∀ b w, begins b = false → r.ends (b :: w) = [])
    (hmatch : Simulates (At bytes) matchAt r.first) {start : ℕ} (hstart : start ≤ bytes.length) :
    Option.Rel (fun places rests => At bytes places.1 rests.1 ∧ At bytes places.2 rests.2)
      (scan begins matchAt bytes start) (r.find (bytes.drop start)) := by
  fun_induction scan begins matchAt bytes start with
  | case1 start hlt hb ih =>
    have hends := hbegins bytes[start] (bytes.drop (start + 1)) (by simpa using hb)
    rw [List.drop_eq_getElem_cons hlt, find, first_eq_none_iff.mpr hends]
    exact ih hlt
  | case2 start hlt hb stop hstop =>
    rcases hmatch.cases ⟨hstart, rfl⟩ with ⟨hf, -⟩ | ⟨stop', rest, hf, hg, hat⟩
    · rw [hf] at hstop
      cases hstop
    · cases hf.symm.trans hstop
      rw [List.drop_eq_getElem_cons hlt] at hg ⊢
      rw [find, hg]
      exact .some ⟨⟨hstart, (List.drop_eq_getElem_cons hlt).symm⟩, hat⟩
  | case3 start hlt hb hnone ih =>
    rcases hmatch.cases ⟨hstart, rfl⟩ with ⟨-, hg⟩ | ⟨stop', rest, hf, -, -⟩
    · rw [List.drop_eq_getElem_cons hlt] at hg ⊢
      rw [find, hg]
      exact ih hlt
    · rw [hf] at hnone
      cases hnone
  | case4 start hlt =>
    rw [List.drop_eq_nil_of_le (not_lt.mp hlt), find, first_eq_none_iff.mpr hnil]
    exact .none

/-- A part between two characters. -/
theorem strSlice_eq {contents : String} {before matched after : List Char} {start stop : ℕ}
    (hcontents : contents.toList = before ++ (matched ++ after))
    (hstart : start = (before.flatMap String.utf8EncodeChar).length)
    (hstop : stop = start + (matched.flatMap String.utf8EncodeChar).length) :
    strSlice contents start stop = .ok ⟨before, matched, after⟩ := by
  rw [strSlice, hcontents, hstart, Text.splitAtByte_append]
  simp only
  rw [if_neg (by omega), hstop, hstart, Nat.add_sub_cancel_left, Text.splitAtByte_append]

theorem between_append (before matched after : List Char) :
    Match.between (before ++ (matched ++ after)) (matched ++ after, after) =
      ⟨before, matched, after⟩ := by
  simp only [Match.between, List.length_append, Nat.add_sub_cancel, List.take_left]

/-- **A scanner that matches an expression on bytes finds its matches in the text.** -/
theorem findMatch_eq {matchAt : List UInt8 → ℕ → Option ℕ} {s : Regex Char}
    (hencoded : Encoded String.utf8EncodeChar s r) (hnil : r.ends [] = [])
    (hascii : ∀ b, 128 ≤ b.toNat → begins b = false)
    (hbegins : ∀ b w, begins b = false → r.ends (b :: w) = [])
    (hmatch : ∀ bytes, Simulates (At bytes) (matchAt bytes) r.first) (contents : String) :
    findMatch begins matchAt contents = .ok (s.search contents.toList) := by
  have hempty : ∀ c, String.utf8EncodeChar c ≠ [] := by
    intro c hc
    have hlen := String.length_utf8EncodeChar c
    rw [hc] at hlen
    exact absurd hlen.symm c.utf8Size_pos.ne'
  -- no match begins inside a character
  have hinside : ∀ c b bs, String.utf8EncodeChar c = b :: bs → ∀ b' ∈ bs, ∀ w,
      r.ends (b' :: w) = [] := by
    intro c b bs hencode b' hb' w
    refine hbegins b' w (hascii b' ?_)
    by_cases hc : c.toNat < 128
    · rw [Text.utf8EncodeChar_of_lt hc] at hencode
      cases hencode
      cases hb'
    · exact Text.le_of_mem_utf8EncodeChar (not_lt.mp hc) (hencode ▸ List.mem_cons_of_mem b hb')
  have hfind := hencoded.find hinside hempty contents.toList
  rw [← Text.toUTF8_eq_flatMap] at hfind
  have hscan := scan_find hnil hbegins (hmatch contents.toUTF8.toList)
    (Nat.zero_le _)
  rw [List.drop_zero, hfind] at hscan
  rw [findMatch, search]
  generalize scan begins (matchAt contents.toUTF8.toList) contents.toUTF8.toList 0 = found
    at hscan ⊢
  cases hs : s.find contents.toList with
  | none =>
    rw [hs, Option.map_none] at hscan
    cases hscan
    rfl
  | some rests =>
    obtain ⟨⟨before, hbefore⟩, ⟨matched, hmatched⟩⟩ := suffix_of_find hs
    obtain ⟨rest, after⟩ := rests
    obtain rfl : matched ++ after = rest := hmatched
    rw [hs, Option.map_some] at hscan
    cases hscan with
    | some hplaces =>
      obtain ⟨⟨hstart, hrest⟩, ⟨hstop, hafter⟩⟩ := hplaces
      have hlength := congrArg (fun cs => (cs.flatMap String.utf8EncodeChar).length) hbefore
      have hrest' := congrArg List.length hrest
      have hafter' := congrArg List.length hafter
      simp only [← Text.toUTF8_eq_flatMap, List.flatMap_append, List.length_append] at hlength
      simp only [Prod.map, List.flatMap_append, List.length_append, List.length_drop]
        at hrest' hafter'
      simp only
      rw [strSlice_eq hbefore.symm (by omega) (by omega), ← hbefore]
      simp only [Option.map_some, between_append]
      rfl

/-- A class of ASCII characters, on the bytes of a text. -/
theorem encoded_set {p : Char → Bool} {q : UInt8 → Bool}
    (hascii : ∀ n < 128, q (UInt8.ofNat n) = p (Char.ofNat n))
    (hp : ∀ c, p c = true → c.toNat < 128) (hq : ∀ b, 128 ≤ b.toNat → q b = false) :
    Encoded String.utf8EncodeChar (.set p) (.set q) := by
  refine Encoded.set fun c => ?_
  by_cases hc : c.toNat < 128
  · refine ⟨UInt8.ofNat c.toNat, [], Text.utf8EncodeChar_of_lt hc, ?_, fun _ => rfl⟩
    rw [hascii _ hc, Char.ofNat_toNat]
  · have hlen := String.length_utf8EncodeChar c
    have hpos := c.utf8Size_pos
    obtain ⟨b, bs, hencode⟩ : ∃ b bs, String.utf8EncodeChar c = b :: bs :=
      List.exists_cons_of_length_pos (by omega)
    have hb := Text.le_of_mem_utf8EncodeChar (not_lt.mp hc) (hencode ▸ List.mem_cons_self)
    have hpc : p c = false := Bool.eq_false_iff.mpr fun h => hc (hp c h)
    exact ⟨b, bs, hencode, (hq b hb).trans hpc.symm, fun h => absurd h (by rw [hpc]; decide)⟩

end Search

theorem isAsciiHexdigit_of_le (b : UInt8) (h : 128 ≤ b.toNat) : isAsciiHexdigit b = false := by
  have hgt : ∀ n : UInt8, n.toNat < 128 → ¬ b ≤ n := fun n hn hle => by
    have := UInt8.le_iff_toNat_le.mp hle
    omega
  simp only [isAsciiHexdigit, isAsciiDigit, hgt 57 (by decide), hgt 70 (by decide),
    hgt 102 (by decide), decide_false, Bool.and_false, Bool.or_false]

theorem isAsciiDigit_of_le (b : UInt8) (h : 128 ≤ b.toNat) : isAsciiDigit b = false := by
  have hhex := isAsciiHexdigit_of_le b h
  simp only [isAsciiHexdigit, Bool.or_eq_false_iff] at hhex
  exact hhex.1.1

theorem toNat_lt_of_le {c d : Char} (h : c ≤ d) (hd : d.toNat < 128) : c.toNat < 128 :=
  (UInt32.le_iff_toNat_le.mp h).trans_lt hd

theorem encoded_digit : Encoded String.utf8EncodeChar (.set isDigit) (.set isAsciiDigit) := by
  refine encoded_set (by decide) (fun c hc => ?_) isAsciiDigit_of_le
  simp only [isDigit, Bool.and_eq_true, decide_eq_true_eq] at hc
  exact toNat_lt_of_le hc.2 (by decide)

theorem encoded_hexdigit :
    Encoded String.utf8EncodeChar (.set isHexdigit) (.set isAsciiHexdigit) := by
  refine encoded_set (by decide) (fun c hc => ?_) isAsciiHexdigit_of_le
  simp only [isHexdigit, isDigit, Bool.or_eq_true, Bool.and_eq_true, decide_eq_true_eq] at hc
  rcases hc with (hc | hc) | hc <;> exact toNat_lt_of_le hc.2 (by decide)

theorem encoded_char {c : Char} {b : UInt8} (hc : c.toNat < 128)
    (hascii : ∀ n < 128, (UInt8.ofNat n == b) = (Char.ofNat n == c)) (hb : b.toNat < 128) :
    Encoded String.utf8EncodeChar (.set (· == c)) (.set (· == b)) := by
  refine encoded_set hascii (fun d hd => ?_) fun b' hb' => beq_eq_false_iff_ne.mpr ?_
  · rwa [eq_of_beq hd]
  · rintro rfl
    omega

/-- **The scanners for public addresses** return the leftmost-first match of the expression that
each replaces, as a part of the text between two characters, and `None` exactly if the expression
matches nowhere. -/
theorem public_ip_scanners (contents : String) :
    findGoIpv4RegexMatch contents = .ok (goIpv4Regex.search contents.toList) ∧
    findGoIpv6RegexMatch contents = .ok (goIpv6Regex.search contents.toList) ∧
    (findGoIpv4RegexMatch contents = .ok none ↔ ∀ before u after,
      contents.toList = before ++ (u ++ after) → u ∉ goIpv4Regex.lang) ∧
    (findGoIpv6RegexMatch contents = .ok none ↔ ∀ before u after,
      contents.toList = before ++ (u ++ after) → u ∉ goIpv6Regex.lang) := by
  have hipv4 : findGoIpv4RegexMatch contents = .ok (goIpv4Regex.search contents.toList) := by
    have hgroup := encoded_digit.rep 1 3
    have hdot := encoded_char (c := '.') (b := 46) (by decide) (by decide) (by decide)
    have hencoded : Encoded String.utf8EncodeChar goIpv4Regex (goIpv4 isAsciiDigit (· == 46)) :=
      hgroup.seq (hdot.seq (hgroup.seq (hdot.seq (hgroup.seq (hdot.seq hgroup)))))
    refine findMatch_eq hencoded rfl isAsciiDigit_of_le (fun b w hb => ?_) simulates_matchGoIpv4
      contents
    simp only [goIpv4, ends, repeatEnds, hb, Bool.false_eq_true, if_false, List.flatMap_nil]
  have hipv6 : findGoIpv6RegexMatch contents = .ok (goIpv6Regex.search contents.toList) := by
    have hgroup := encoded_hexdigit.rep 1 4
    have hcolon := encoded_char (c := ':') (b := 58) (by decide) (by decide) (by decide)
    have hblock := hgroup.seq hcolon
    have hencoded : Encoded String.utf8EncodeChar goIpv6Regex (goIpv6 isAsciiHexdigit (· == 58)) :=
      ((hblock.rep 7 7).seq hgroup).alt
        ((hblock.rep 1 6).seq (hcolon.seq ((hblock.rep 0 4).seq (hgroup.rep 0 1))))
    refine findMatch_eq hencoded rfl isAsciiHexdigit_of_le (fun b w hb => ?_) simulates_matchGoIpv6
      contents
    simp only [goIpv6, ends, repeatEnds, hb, Bool.false_eq_true, if_false, List.flatMap_nil,
      List.append_nil]
  refine ⟨hipv4, hipv6, ?_, ?_⟩
  · rw [hipv4, Except.ok.injEq]
    exact search_eq_none_iff
  · rw [hipv6, Except.ok.injEq]
    exact search_eq_none_iff

/-- The longer alternative is preferred, and it stops after eight groups. -/
example : (goIpv6Regex.search "ip=1:2:3:4:5:6:7:8:9".toList).map (String.ofList ·.matched) =
    some "1:2:3:4:5:6:7:8" := by decide

end KeliAgent.PublicIp
