import KeliAgent.Lib.Ip
import KeliAgent.Lib.Words
import KeliAgent.Tunnel.Preflight

/-!
# The source allowlist

`source_addr_allowed` of `tunnel_runtime.rs`, which decides about every accepted connection, against
`allowlist_entry_is_valid` of the preflight. The parsers of IP and of socket addresses are
parameters. `none` is an overflow in the computation of a mask.

* `EntryAllows`: what an entry means.
* **`source_allowlist_semantics`**: a source is allowed exactly if some entry means it, without
  overflow; the entries that are valid are those that mean some address.
-/

namespace KeliAgent

open Net

/-- `parseIp` parses an `IpAddr`; `parseSocketAddr` is the address of a parsed `SocketAddr`. -/
structure IpParsers where
  parseIp : String → Option IpAddr
  parseSocketAddr : String → Option IpAddr

def prefixMaskU32 : ℕ → Option (BitVec 32) := prefixMask 32

def prefixMaskU128 : ℕ → Option (BitVec 128) := prefixMask 128

def ipInCidr (sourceIp networkIp : IpAddr) (prefixLen : ℕ) : Option Bool :=
  match sourceIp, networkIp with
  | .v4 source, .v4 network =>
    if prefixLen ≤ 32 then
      (prefixMaskU32 prefixLen).map fun mask => decide (source &&& mask = network &&& mask)
    else some false
  | .v6 source, .v6 network =>
    if prefixLen ≤ 128 then
      (prefixMaskU128 prefixLen).map fun mask => decide (source &&& mask = network &&& mask)
    else some false
  | _, _ => some false

/-- What separates the entries of an allowlist. -/
def separatesEntries (c : Char) : Bool := c == ',' || Text.isWhitespace c

namespace IpParsers

variable (parsers : IpParsers)

def parseSourceIp (sourceAddr : String) : Option IpAddr :=
  let sourceAddr := Text.trim sourceAddr
  (parsers.parseSocketAddr sourceAddr).or (parsers.parseIp sourceAddr)

def sourceIpMatchesEntry (sourceIp : IpAddr) (entry : String) : Option Bool :=
  if entry = "*" then some true
  else
    match Text.splitOnce entry "/" with
    | some (network, networkBits) =>
      match parsers.parseIp (Text.trim network), Text.parseU8 (Text.trim networkBits) with
      | some networkIp, some prefixLen => ipInCidr sourceIp networkIp prefixLen
      | _, _ => some false
    | none => some ((parsers.parseIp entry).any fun allowedIp => allowedIp = sourceIp)

def sourceAddrAllowed (sourceAddr allowlist : String) : Option Bool :=
  let allowlist := Text.trim allowlist
  if allowlist = "" then some true
  else
    match parsers.parseSourceIp sourceAddr with
    | none => some false
    | some sourceIp =>
      ((Text.split allowlist separatesEntries).filter fun entry => Text.trim entry ≠ "").anyM
        fun entry => parsers.sourceIpMatchesEntry sourceIp (Text.trim entry)

/-! ## What an entry means -/

/-- The entry stands for the address: it is a star, the address, or a network that has it. -/
def EntryAllows (a : IpAddr) (entry : String) : Prop :=
  entry = "*" ∨ ('/' ∉ entry.toList ∧ parsers.parseIp entry = some a) ∨
    ∃ network networkBits n p, entry = network ++ ("/" ++ networkBits) ∧ '/' ∉ network.toList ∧
      parsers.parseIp network = some n ∧ Text.parseU8 networkBits = some p ∧ SamePrefix p a n

end IpParsers

/-- A mask is only asked for where it exists, and compares the first bits. -/
theorem ipInCidr_eq (a n : IpAddr) (p : ℕ) :
    ∃ result, ipInCidr a n p = some result ∧ (result = true ↔ SamePrefix p a n) := by
  have key : ∀ {w : ℕ} (a n : BitVec w), ∃ result,
      (if p ≤ w then (prefixMask w p).map fun mask => decide (a &&& mask = n &&& mask)
        else some false) = some result ∧
      (result = true ↔ p ≤ w ∧ ∀ i < p, a.getMsbD i = n.getMsbD i) := by
    intro w a n
    by_cases hp : p ≤ w
    · obtain ⟨mask, hmask, hbits⟩ := exists_prefixMask hp
      rw [if_pos hp, hmask]
      refine ⟨_, rfl, ?_⟩
      rw [decide_eq_true_iff, and_mask_eq_iff hp hbits, and_iff_right hp]
    · rw [if_neg hp]
      exact ⟨false, rfl, iff_of_false Bool.false_ne_true fun h => hp h.1⟩
  cases a with
  | v4 a =>
    cases n with
    | v4 n => exact key a n
    | v6 n => exact ⟨false, rfl, iff_of_false Bool.false_ne_true id⟩
  | v6 a =>
    cases n with
    | v4 n => exact ⟨false, rfl, iff_of_false Bool.false_ne_true id⟩
    | v6 n => exact key a n

namespace IpParsers

variable (parsers : IpParsers)

/-- The entry is a network, in the grammar that enforcement and preflight share. -/
def Network (entry : String) (n : IpAddr) (p : ℕ) : Prop :=
  entry ≠ "*" ∧ ∃ network networkBits, Text.splitOnce entry "/" = some (network, networkBits) ∧
    parsers.parseIp (Text.trim network) = some n ∧
      Text.parseU8 (Text.trim networkBits) = some p

/-- The entry is an address. -/
def Address (entry : String) (n : IpAddr) : Prop :=
  entry ≠ "*" ∧ Text.splitOnce entry "/" = none ∧ parsers.parseIp entry = some n

/-- An entry matches without overflow; it is a star, an address or a network. -/
theorem sourceIpMatchesEntry_eq (a : IpAddr) (entry : String) :
    ∃ result, parsers.sourceIpMatchesEntry a entry = some result ∧
      (result = true ↔ entry = "*" ∨ parsers.Address entry a ∨
        ∃ n p, parsers.Network entry n p ∧ SamePrefix p a n) := by
  unfold sourceIpMatchesEntry Address Network
  by_cases hstar : entry = "*"
  · rw [if_pos hstar]
    exact ⟨true, rfl, iff_of_true rfl (Or.inl hstar)⟩
  rw [if_neg hstar]
  cases hsplit : Text.splitOnce entry "/" with
  | none =>
    refine ⟨_, rfl, ?_⟩
    simp [hstar, Option.any_eq_true]
  | some pieces =>
    obtain ⟨network, networkBits⟩ := pieces
    simp only
    cases hip : parsers.parseIp (Text.trim network) with
    | none => exact ⟨false, rfl, by simp [hstar, hip]⟩
    | some n =>
      cases hbits : Text.parseU8 (Text.trim networkBits) with
      | none => exact ⟨false, rfl, by simp [hstar, hbits]⟩
      | some p =>
        obtain ⟨result, hcidr, hresult⟩ := ipInCidr_eq a n p
        refine ⟨result, hcidr, hresult.trans ?_⟩
        simp [hstar, hip, hbits]

/-- The grammar, for an entry without blanks. -/
theorem entryAllows_iff {entry : String}
    (hblank : ∀ c ∈ entry.toList, Text.isWhitespace c = false) (a : IpAddr) :
    parsers.EntryAllows a entry ↔ entry = "*" ∨ parsers.Address entry a ∨
      ∃ n p, parsers.Network entry n p ∧ SamePrefix p a n := by
  have hslash : "/".toList = ['/'] := rfl
  unfold EntryAllows Address Network
  refine or_congr_right' fun hstar => or_congr ?_ ?_
  · -- a text is cut at a slash exactly if it has one
    rcases Text.splitOnce_cases hslash entry with ⟨hnot, hsplit⟩ | ⟨_, _, _, rfl, hsplit⟩
    · simp [hnot, hsplit, hstar]
    · simp [hsplit]
  · constructor
    · rintro ⟨network, networkBits, n, p, rfl, hnot, hip, hbits, hsame⟩
      have htrim : ∀ part : String,
          (∀ c ∈ part.toList, c ∈ (network ++ ("/" ++ networkBits)).toList) →
            Text.trim part = part :=
        fun part hpart => Text.trim_of_forall fun c hc => hblank c (hpart c hc)
      refine ⟨n, p, ⟨hstar, network, networkBits, ?_, ?_, ?_⟩, hsame⟩
      · exact Text.splitOnce_append hslash hnot networkBits
      · rwa [htrim network (by simp +contextual)]
      · rwa [htrim networkBits (by simp +contextual)]
    · rintro ⟨n, p, ⟨-, network, networkBits, hsplit, hip, hbits⟩, hsame⟩
      rcases Text.splitOnce_cases hslash entry with ⟨_, hnone⟩ | ⟨before, after, hnot, rfl, hcut⟩
      · rw [hnone] at hsplit
        cases hsplit
      · obtain ⟨rfl, rfl⟩ := Prod.mk.inj (Option.some.inj (hcut.symm.trans hsplit))
        rw [Text.trim_of_forall fun c hc => hblank c (by simp [hc])] at hip hbits
        exact ⟨before, after, n, p, rfl, hnot, hip, hbits, hsame⟩

/-- The search among the entries ends without overflow. -/
theorem anyM_eq {α : Type} {f : α → Option Bool} {P : α → Prop}
    (h : ∀ x, ∃ result, f x = some result ∧ (result = true ↔ P x)) (l : List α) :
    ∃ result, l.anyM f = some result ∧ (result = true ↔ ∃ x ∈ l, P x) := by
  induction l with
  | nil => exact ⟨false, rfl, by simp⟩
  | cons x l ih =>
    obtain ⟨result, hx, hresult⟩ := h x
    rw [List.anyM, hx]
    cases result with
    | true => exact ⟨true, rfl, iff_of_true rfl ⟨x, List.mem_cons_self, hresult.mp rfl⟩⟩
    | false =>
      obtain ⟨result', hl, hresult'⟩ := ih
      have hnot : ¬ P x := fun hP => Bool.false_ne_true (hresult.mpr hP)
      exact ⟨result', hl, hresult'.trans (by simp [hnot])⟩

/-- An entry has no blanks. -/
theorem isWhitespace_of_mem_entry {allowlist entry : String}
    (h : entry ∈ Text.split allowlist separatesEntries) :
    ∀ c ∈ entry.toList, Text.isWhitespace c = false :=
  fun c hc => (Bool.or_eq_false_iff.mp (Text.not_separates_of_mem_split h c hc)).2

/-- The pieces that the code looks at are the entries of the list. -/
theorem filter_split_eq_words (allowlist : String) :
    ((Text.split (Text.trim allowlist) separatesEntries).filter fun entry =>
      Text.trim entry ≠ "") = Text.words separatesEntries allowlist := by
  have hblank : ∀ c, Text.isWhitespace c = true → separatesEntries c = true := by
    intro c hc
    rw [separatesEntries, hc, Bool.or_true]
  rw [← Text.words_trim hblank, Text.words]
  refine List.filter_congr fun entry hentry => ?_
  rw [Text.trim_of_forall (isWhitespace_of_mem_entry hentry)]

/-- **A source is allowed exactly if an entry of the list means it.** -/
theorem sourceAddrAllowed_eq (sourceAddr allowlist : String) :
    ∃ result, parsers.sourceAddrAllowed sourceAddr allowlist = some result ∧
      (result = true ↔ Text.trim allowlist = "" ∨
        ∃ a, parsers.parseSourceIp sourceAddr = some a ∧
          ∃ entry ∈ Text.words separatesEntries allowlist, parsers.EntryAllows a entry) := by
  unfold sourceAddrAllowed
  by_cases hempty : Text.trim allowlist = ""
  · simp only [hempty, if_true]
    exact ⟨true, rfl, iff_of_true rfl (Or.inl trivial)⟩
  simp only [hempty, if_false, false_or]
  cases hsource : parsers.parseSourceIp sourceAddr with
  | none => exact ⟨false, rfl, by simp⟩
  | some a =>
    obtain ⟨result, hany, hresult⟩ := anyM_eq
      (fun entry => parsers.sourceIpMatchesEntry_eq a (Text.trim entry))
      (Text.words separatesEntries allowlist)
    refine ⟨result, by rw [filter_split_eq_words]; exact hany, hresult.trans ?_⟩
    simp only [Option.some.injEq, exists_eq_left']
    refine exists_congr fun entry => and_congr_right fun hentry => ?_
    have hblank := isWhitespace_of_mem_entry (List.mem_filter.mp hentry).1
    rw [Text.trim_of_forall hblank, parsers.entryAllows_iff hblank]

/-! ## The preflight -/

/-- The host that the preflight sees. -/
def tunnelHost (osSupported : Bool) (bind : String → Option String) : TunnelHost where
  osSupported := osSupported
  parseIp := fun s => (parsers.parseIp s).map fun
    | .v4 _ => .v4
    | .v6 _ => .v6
  bind := bind

/-- Every network of a possible length has an address: its own. -/
theorem exists_samePrefix_iff (n : IpAddr) (p : ℕ) :
    (∃ a, SamePrefix p a n) ↔ match n with
      | .v4 _ => p ≤ 32
      | .v6 _ => p ≤ 128 := by
  cases n with
  | v4 n =>
    refine ⟨?_, fun hp => ⟨.v4 n, hp, fun _ _ => rfl⟩⟩
    rintro ⟨a, ha⟩
    cases a with
    | v4 a => exact ha.1
    | v6 a => exact ha.elim
  | v6 n =>
    refine ⟨?_, fun hp => ⟨.v6 n, hp, fun _ _ => rfl⟩⟩
    rintro ⟨a, ha⟩
    cases a with
    | v4 a => exact ha.elim
    | v6 a => exact ha.1

/-- **The entries that are valid are those that match some address.** -/
theorem allowlistEntryIsValid_iff (osSupported : Bool) (bind : String → Option String)
    (entry : String) :
    (parsers.tunnelHost osSupported bind).allowlistEntryIsValid entry = true ↔
      ∃ a, parsers.sourceIpMatchesEntry a entry = some true := by
  have hmatch : ∀ a, parsers.sourceIpMatchesEntry a entry = some true ↔
      entry = "*" ∨ parsers.Address entry a ∨
        ∃ n p, parsers.Network entry n p ∧ SamePrefix p a n := by
    intro a
    obtain ⟨result, heq, hresult⟩ := parsers.sourceIpMatchesEntry_eq a entry
    rw [heq, Option.some.injEq, hresult]
  simp only [hmatch]
  unfold TunnelHost.allowlistEntryIsValid Address Network tunnelHost
  by_cases hstar : entry = "*"
  · simp only [hstar, if_true]
    exact iff_of_true trivial ⟨.v4 0, Or.inl trivial⟩
  rw [if_neg hstar]
  cases hsplit : Text.splitOnce entry "/" with
  | none => simp [hstar, Option.isSome_iff_exists]
  | some pieces =>
    obtain ⟨network, networkBits⟩ := pieces
    cases hip : parsers.parseIp (Text.trim network) with
    | none => simp [hstar, hip]
    | some n =>
      cases hbits : Text.parseU8 (Text.trim networkBits) with
      | none => cases n <;> simp [hstar, hbits]
      | some p =>
        have hexists := exists_samePrefix_iff n p
        cases n <;> simpa [hstar, hip, hbits] using hexists.symm

/-- **The allowlist.** A source is allowed exactly if the list is blank, or the source has an
address that some entry stands for; no mask overflows; and an entry passes the preflight exactly if
it matches some address. -/
theorem source_allowlist_semantics :
    (∀ sourceAddr allowlist, parsers.sourceAddrAllowed sourceAddr allowlist = some true ↔
      Text.trim allowlist = "" ∨ ∃ a, parsers.parseSourceIp sourceAddr = some a ∧
        ∃ entry ∈ Text.words separatesEntries allowlist, parsers.EntryAllows a entry) ∧
    (∀ sourceAddr allowlist, parsers.sourceAddrAllowed sourceAddr allowlist ≠ none) ∧
    ∀ osSupported bind entry,
      (parsers.tunnelHost osSupported bind).allowlistEntryIsValid entry = true ↔
        ∃ a, parsers.sourceIpMatchesEntry a entry = some true := by
  refine ⟨fun sourceAddr allowlist => ?_, fun sourceAddr allowlist => ?_,
    parsers.allowlistEntryIsValid_iff⟩
  · obtain ⟨result, heq, hresult⟩ := parsers.sourceAddrAllowed_eq sourceAddr allowlist
    rw [heq, Option.some.injEq, hresult]
  · obtain ⟨result, heq, -⟩ := parsers.sourceAddrAllowed_eq sourceAddr allowlist
    rw [heq]
    exact Option.some_ne_none result

end IpParsers

end KeliAgent
