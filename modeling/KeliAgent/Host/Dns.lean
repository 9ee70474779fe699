import KeliAgent.Lib.Checked
import KeliAgent.Lib.Ip
import KeliAgent.Lib.Text
import KeliAgent.Lib.Utf8

/-!
# Queries to a DNS server

`build_dns_query`, `parse_dns_response` and `skip_dns_name` of `linux_proc.rs`. A response comes
from the network, so it is any slice of bytes.

* `Message`: the messages of RFC 1035 up to the answers, with their form on the wire.
* `skipDnsName_form`, `parseDnsAnswer_form`: at a name or an answer the code reads just that.
* **`dns_response_parsed`**: no packet leads to a panic, and from a message the code returns the
  addresses that were asked for.
-/

namespace KeliAgent.Dns

open Wire Checked

/-! ## The code -/

inductive ErrorKind where
  | invalidInput
  | invalidData
  | unexpectedEof
  deriving DecidableEq, Repr

structure IoError where
  kind : ErrorKind
  message : String
  deriving DecidableEq, Repr

structure SocketAddr where
  ip : Net.IpAddr
  port : ℕ
  deriving DecidableEq

/-- A slice of bytes. -/
structure Packet where
  bytes : List UInt8
  isSlice : bytes.length ≤ maxSlice

def Packet.len (packet : Packet) : ℕ := packet.bytes.length

def fail {α : Type} (kind : ErrorKind) (message : String) : Except (Fault IoError) α :=
  .error (.error ⟨kind, message⟩)

/-- `u16::from_be_bytes([bs[i], bs[i + 1]])` -/
def u16At (bs : List UInt8) (i : ℕ) : Except (Fault IoError) UInt16 := do
  let high ← index bs i
  let low ← index bs (i + 1)
  return UInt16.ofNat (ofBe [high, low])

def pushLabel (packet : List UInt8) (label : String) : Except IoError (List UInt8) :=
  if label = "" ∨ 63 < label.utf8ByteSize then .error ⟨.invalidInput, "invalid DNS name"⟩
  else .ok (packet ++ (UInt8.ofNat label.utf8ByteSize :: label.toUTF8.toList))

def queryHeader (id : UInt16) : List UInt8 :=
  toBe 2 id.toNat ++ (toBe 2 0x0100 ++ (toBe 2 1 ++ (toBe 2 0 ++ (toBe 2 0 ++ toBe 2 0))))

def buildDnsQuery (id : UInt16) (host : String) (qtype : UInt16) : Except IoError (List UInt8) := do
  let labels := Text.split (Text.trimEndMatches host '.') (· == '.')
  let packet ← labels.foldlM pushLabel (queryHeader id)
  return packet ++ ([0] ++ (toBe 2 qtype.toNat ++ toBe 2 1))

def skipDnsName (packet : Packet) (offset : ℕ) : Except (Fault IoError) ℕ :=
  match _hget : packet.bytes[offset]? with
  | none => fail .unexpectedEof "truncated DNS name"
  | some len =>
    if len &&& 0xC0 = 0xC0 then do
      let second ← add offset 1
      if packet.bytes[second]? = none then fail .unexpectedEof "truncated DNS pointer"
      else add offset 2
    else if len = 0 then add offset 1
    else
      match _hadd : checkedAdd offset (1 + len.toNat) with
      | none => fail .invalidData "DNS name overflow"
      | some next =>
        if next > packet.len then fail .unexpectedEof "truncated DNS label"
        else skipDnsName packet next
termination_by packet.len - offset
decreasing_by
  have hlt : offset < packet.bytes.length := (List.getElem?_eq_some_iff.mp _hget).1
  have hnext : next = offset + (1 + len.toNat) := by
    unfold checkedAdd at _hadd
    split_ifs at _hadd
    exact (Option.some.inj _hadd).symm
  simp only [Packet.len]
  omega

/-- One turn of the loop over the questions. -/
def skipDnsQuestion (packet : Packet) (offset : ℕ) : Except (Fault IoError) ℕ := do
  let offset ← skipDnsName packet offset
  match checkedAdd offset 4 with
  | none => fail .invalidData "DNS question overflow"
  | some offset =>
    if offset > packet.len then fail .unexpectedEof "truncated DNS question" else return offset

def skipDnsQuestions (packet : Packet) : ℕ → ℕ → Except (Fault IoError) ℕ
  | 0, offset => return offset
  | questions + 1, offset => do
    let offset ← skipDnsQuestion packet offset
    skipDnsQuestions packet questions offset

/-- The addresses after an answer of the type that was asked for. -/
def pushAddress (addrs : List SocketAddr) (answerType : UInt16) (rdlen : ℕ) (rdata : List UInt8) :
    Except (Fault IoError) (List SocketAddr) :=
  if answerType = 1 ∧ rdlen = 4 then do
    let b0 ← index rdata 0
    let b1 ← index rdata 1
    let b2 ← index rdata 2
    let b3 ← index rdata 3
    return addrs ++ [⟨.v4 (BitVec.ofNat 32 (ofBe [b0, b1, b2, b3])), 0⟩]
  else if answerType = 28 ∧ rdlen = 16 then
    -- `copy_from_slice` panics if the lengths differ
    if rdata.length = 16 then return addrs ++ [⟨.v6 (BitVec.ofNat 128 (ofBe rdata)), 0⟩]
    else .error .panic
  else return addrs

/-- One turn of the loop over the answers. -/
def parseDnsAnswer (packet : Packet) (qtype : UInt16) (offset : ℕ) (addrs : List SocketAddr) :
    Except (Fault IoError) (ℕ × List SocketAddr) := do
  let offset ← skipDnsName packet offset
  let afterFields ← add offset 10
  if afterFields > packet.len then fail .unexpectedEof "truncated DNS answer"
  else
    let answerType ← u16At packet.bytes offset
    let answerClass ← u16At packet.bytes (offset + 2)
    let rdlen ← u16At packet.bytes (offset + 8)
    let next ← add afterFields rdlen.toNat
    if next > packet.len then fail .unexpectedEof "truncated DNS rdata"
    else
      let rdata ← range packet.bytes afterFields next
      let addrs ←
        (if answerClass = 1 ∧ answerType = qtype then pushAddress addrs answerType rdlen.toNat rdata
          else return addrs)
      return (next, addrs)

def parseDnsAnswers (packet : Packet) (qtype : UInt16) :
    ℕ → ℕ → List SocketAddr → Except (Fault IoError) (List SocketAddr)
  | 0, _, addrs => return addrs
  | answers + 1, offset, addrs => do
    let (offset, addrs) ← parseDnsAnswer packet qtype offset addrs
    parseDnsAnswers packet qtype answers offset addrs

def parseDnsResponse (packet : Packet) (expectedId qtype : UInt16) :
    Except (Fault IoError) (List SocketAddr) :=
  if packet.len < 12 then fail .invalidData "short DNS response"
  else do
    let responseId ← u16At packet.bytes 0
    if responseId ≠ expectedId then fail .invalidData "mismatched DNS response id"
    else
      let flags ← u16At packet.bytes 2
      if flags &&& 0x000f ≠ 0 then fail .invalidData "DNS response returned an error"
      else
        let questions ← u16At packet.bytes 4
        let answers ← u16At packet.bytes 6
        let offset ← skipDnsQuestions packet questions.toNat 12
        parseDnsAnswers packet qtype answers.toNat offset []

/-! ## No panic -/

theorem returns_fail {α : Type} {P : α → Prop} (kind : ErrorKind) (message : String) :
    Returns (fail kind message) P := trivial

theorem returns_u16At {bs : List UInt8} {i : ℕ} (h : i + 1 < bs.length) :
    Returns (u16At bs i) fun _ => True := by
  refine (returns_index (by omega)).bind fun _ _ => ?_
  exact (returns_index h).bind fun _ _ => trivial

theorem returns_skipDnsName (packet : Packet) (offset : ℕ) :
    Returns (skipDnsName packet offset) fun next => next ≤ packet.len := by
  have hslice := packet.isSlice
  have hmax : 2 ≤ maxSlice := by decide
  fun_induction skipDnsName packet offset with
  | case1 | case4 | case5 => exact returns_fail _ _
  | case2 offset len hget hpointer =>
    have hlt : offset < packet.bytes.length := (List.getElem?_eq_some_iff.mp hget).1
    rw [add_eq (by omega), ok_bind]
    split_ifs with hnone
    · exact returns_fail _ _
    · rw [add_eq (by omega)]
      have hsecond := List.getElem?_eq_none_iff.not.mp hnone
      simp only [Returns, Packet.len]
      omega
  | case3 offset hget =>
    have hlt : offset < packet.bytes.length := (List.getElem?_eq_some_iff.mp hget).1
    rw [add_eq (by omega)]
    exact hlt
  | case6 _ _ _ _ _ _ _ _ ih => exact ih

theorem returns_skipDnsQuestions (packet : Packet) (questions : ℕ) {offset : ℕ}
    (h : offset ≤ packet.len) :
    Returns (skipDnsQuestions packet questions offset) fun next => next ≤ packet.len := by
  induction questions generalizing offset with
  | zero => exact h
  | succ questions ih =>
    refine Returns.bind (P := fun next => next ≤ packet.len) ?_ fun next hnext => ih hnext
    refine (returns_skipDnsName packet offset).bind fun next _ => ?_
    cases checkedAdd next 4 with
    | none => exact returns_fail _ _
    | some after =>
      by_cases hafter : after > packet.len
      · simp only [if_pos hafter]
        exact returns_fail _ _
      · simp only [if_neg hafter]
        exact not_lt.mp hafter

theorem returns_pushAddress (addrs : List SocketAddr) (answerType : UInt16) {rdlen : ℕ}
    {rdata : List UInt8} (h : rdata.length = rdlen) :
    Returns (pushAddress addrs answerType rdlen rdata) fun _ => True := by
  unfold pushAddress
  split_ifs with hv4 hv6 hlen
  · have hindex : ∀ i < 4, Returns (index (ε := IoError) rdata i) fun _ => True :=
      fun i hi => returns_index (by omega)
    refine (hindex 0 (by omega)).bind fun _ _ => (hindex 1 (by omega)).bind fun _ _ => ?_
    exact (hindex 2 (by omega)).bind fun _ _ => (hindex 3 (by omega)).bind fun _ _ => trivial
  · trivial
  · exact absurd (h.trans hv6.2) hlen
  · trivial

theorem returns_parseDnsAnswer (packet : Packet) (qtype : UInt16) (offset : ℕ)
    (addrs : List SocketAddr) :
    Returns (parseDnsAnswer packet qtype offset addrs) fun result => result.1 ≤ packet.len := by
  have hslice := packet.isSlice
  have hmax : 65536 ≤ maxSlice := by decide
  refine (returns_skipDnsName packet offset).bind fun offset hoffset => ?_
  rw [Packet.len] at hoffset
  rw [add_eq (by omega), ok_bind]
  by_cases hfields : offset + 10 > packet.len
  · rw [if_pos hfields]
    exact returns_fail _ _
  rw [if_neg hfields]
  rw [Packet.len] at hfields
  refine (returns_u16At (by omega)).bind fun answerType _ => ?_
  refine (returns_u16At (by omega)).bind fun answerClass _ => ?_
  refine (returns_u16At (by omega)).bind fun rdlen _ => ?_
  have hrdlen := rdlen.toNat_lt
  rw [add_eq (by omega), ok_bind]
  by_cases hrdata : offset + 10 + rdlen.toNat > packet.len
  · rw [if_pos hrdata]
    exact returns_fail _ _
  rw [if_neg hrdata, range_eq (by omega) (not_lt.mp hrdata), ok_bind]
  refine Returns.bind (P := fun _ => True) ?_ fun _ _ => not_lt.mp hrdata
  split_ifs
  · refine returns_pushAddress addrs answerType ?_
    rw [length_slice]
    rw [Packet.len] at hrdata
    omega
  · trivial

theorem returns_parseDnsAnswers (packet : Packet) (qtype : UInt16) (answers offset : ℕ)
    (addrs : List SocketAddr) :
    Returns (parseDnsAnswers packet qtype answers offset addrs) fun _ => True := by
  induction answers generalizing offset addrs with
  | zero => trivial
  | succ answers ih =>
    exact (returns_parseDnsAnswer packet qtype offset addrs).bind fun result _ => ih _ _

theorem returns_parseDnsResponse (packet : Packet) (expectedId qtype : UInt16) :
    Returns (parseDnsResponse packet expectedId qtype) fun _ => True := by
  unfold parseDnsResponse
  by_cases hshort : packet.len < 12
  · rw [if_pos hshort]
    exact returns_fail _ _
  rw [if_neg hshort]
  rw [Packet.len] at hshort
  have hword : ∀ i < 8, Returns (u16At packet.bytes i) fun _ => True :=
    fun i hi => returns_u16At (by omega)
  refine (hword 0 (by omega)).bind fun responseId _ => ?_
  split_ifs with hid
  · exact returns_fail _ _
  refine (hword 2 (by omega)).bind fun flags _ => ?_
  split_ifs with hcode
  · exact returns_fail _ _
  refine (hword 4 (by omega)).bind fun questions _ => (hword 6 (by omega)).bind fun answers _ => ?_
  refine (returns_skipDnsQuestions packet questions.toNat (not_lt.mp hshort)).bind fun _ _ => ?_
  exact returns_parseDnsAnswers packet qtype answers.toNat _ []

/-! ## Messages -/

/-- A label of a name. -/
structure Label where
  bytes : List UInt8
  fits : 1 ≤ bytes.length ∧ bytes.length ≤ 63

def Label.form (label : Label) : List UInt8 := UInt8.ofNat label.bytes.length :: label.bytes

/-- The end of a name: its root, or a pointer to another place of the message. -/
inductive NameEnd where
  | root
  | pointer (target : BitVec 14)

def NameEnd.form : NameEnd → List UInt8
  | root => [0]
  | pointer target => toBe 2 (0xC000 + target.toNat)

structure Name where
  labels : List Label
  ending : NameEnd

def Name.form (name : Name) : List UInt8 := name.labels.flatMap Label.form ++ name.ending.form

structure Question where
  name : Name
  qtype : UInt16
  qclass : UInt16

def Question.form (question : Question) : List UInt8 :=
  question.name.form ++ (toBe 2 question.qtype.toNat ++ toBe 2 question.qclass.toNat)

structure Answer where
  name : Name
  answerType : UInt16
  answerClass : UInt16
  ttl : UInt32
  data : List UInt8
  fits : data.length < 2 ^ 16

def Answer.form (answer : Answer) : List UInt8 :=
  answer.name.form ++ (toBe 2 answer.answerType.toNat ++ (toBe 2 answer.answerClass.toNat ++
    (toBe 4 answer.ttl.toNat ++ (toBe 2 answer.data.length ++ answer.data))))

/-- A message up to its answers. -/
structure Message where
  id : UInt16
  flags : UInt16
  questions : List Question
  answers : List Answer
  authorities : UInt16
  additionals : UInt16
  fits : questions.length < 2 ^ 16 ∧ answers.length < 2 ^ 16

def Message.form (message : Message) : List UInt8 :=
  toBe 2 message.id.toNat ++ (toBe 2 message.flags.toNat ++ (toBe 2 message.questions.length ++
    (toBe 2 message.answers.length ++ (toBe 2 message.authorities.toNat ++
      (toBe 2 message.additionals.toNat ++ (message.questions.flatMap Question.form ++
        message.answers.flatMap Answer.form))))))

/-- The address in an answer to a query of the given type, if it has one. -/
def Answer.address (qtype : UInt16) (answer : Answer) : Option SocketAddr :=
  if answer.answerClass = 1 ∧ answer.answerType = qtype then
    if answer.answerType = 1 ∧ answer.data.length = 4 then
      some ⟨.v4 (BitVec.ofNat 32 (ofBe answer.data)), 0⟩
    else if answer.answerType = 28 ∧ answer.data.length = 16 then
      some ⟨.v6 (BitVec.ofNat 128 (ofBe answer.data)), 0⟩
    else none
  else none

/-! ## Messages are read -/

section Reading

variable {packet : Packet} {offset : ℕ} {rest : List UInt8}

theorem le_len_of_drop {form : List UInt8} (h : packet.bytes.drop offset = form ++ rest)
    (hform : 0 < form.length) : offset + form.length ≤ packet.bytes.length := by
  have hlen := congrArg List.length h
  rw [List.length_drop, List.length_append] at hlen
  omega

theorem drop_of_drop {bs form : List UInt8} (h : bs.drop offset = form ++ rest) :
    bs.drop (offset + form.length) = rest := by
  rw [← List.drop_drop, h, List.drop_left]

theorem getElem?_of_drop {bs : List UInt8} {b : UInt8} (h : bs.drop offset = b :: rest) :
    bs[offset]? = some b := by
  rw [← Nat.add_zero offset, ← List.getElem?_drop, h]
  rfl

theorem u16At_of_drop {bs : List UInt8} {n : ℕ} (hn : n < 2 ^ 16)
    (h : bs.drop offset = toBe 2 n ++ rest) : u16At bs offset = .ok (UInt16.ofNat n) := by
  have hlow : bs.drop (offset + 1) = UInt8.ofNat (n / 256 ^ 0) :: rest :=
    drop_of_drop (show _ = [UInt8.ofNat (n / 256 ^ 1)] ++ _ from h)
  rw [u16At, index_eq (getElem?_of_drop h), ok_bind, index_eq (getElem?_of_drop hlow), ok_bind]
  change Except.ok (UInt16.ofNat (ofBe (toBe 2 n))) = _
  rw [ofBe_toBe, Nat.mod_eq_of_lt (b := 256 ^ 2) hn]

/-- The first byte of a label is its length, and no pointer. -/
theorem label_byte : ∀ n < 64, 0 < n → UInt8.ofNat n &&& 0xC0 ≠ 0xC0 ∧ UInt8.ofNat n ≠ 0 ∧
    (UInt8.ofNat n).toNat = n := by
  decide

theorem pointer_byte : ∀ n < 64, UInt8.ofNat (0xC0 + n) &&& 0xC0 = 0xC0 := by decide

theorem skipDnsName_root (h : packet.bytes.drop offset = 0 :: rest) :
    skipDnsName packet offset = .ok (offset + 1) := by
  have hslice := packet.isSlice
  have hlen := le_len_of_drop (show _ = [0] ++ rest from h) Nat.zero_lt_one
  rw [List.length_singleton] at hlen
  rw [skipDnsName, getElem?_of_drop h]
  exact add_eq (by omega)

theorem skipDnsName_pointer {high low : UInt8} (hhigh : high &&& 0xC0 = 0xC0)
    (h : packet.bytes.drop offset = high :: low :: rest) :
    skipDnsName packet offset = .ok (offset + 2) := by
  have hslice := packet.isSlice
  have hlen := le_len_of_drop (show _ = [high, low] ++ rest from h) Nat.zero_lt_two
  have hlow := getElem?_of_drop (drop_of_drop (show _ = [high] ++ low :: rest from h))
  rw [List.length_cons, List.length_singleton] at hlen
  rw [List.length_singleton] at hlow
  rw [skipDnsName, getElem?_of_drop h]
  simp only [if_pos hhigh]
  rw [add_eq (by omega), ok_bind, hlow, if_neg (Option.some_ne_none low), add_eq (by omega)]

theorem skipDnsName_label (label : Label) (h : packet.bytes.drop offset = label.form ++ rest) :
    skipDnsName packet offset = skipDnsName packet (offset + label.form.length) := by
  obtain ⟨hpointer, hroot, hlength⟩ :=
    label_byte label.bytes.length (by have := label.fits; omega) label.fits.1
  have hslice := packet.isSlice
  have hlen := le_len_of_drop h Nat.succ_pos'
  have hform : 1 + label.bytes.length = label.form.length := Nat.add_comm _ _
  have hadd : checkedAdd offset (1 + (UInt8.ofNat label.bytes.length).toNat) =
      some (offset + label.form.length) := by
    rw [hlength, hform, checkedAdd_eq (hlen.trans (by omega))]
  rw [skipDnsName, getElem?_of_drop h]
  simp only [if_neg hpointer, if_neg hroot]
  rw [hadd]
  exact if_neg (not_lt.mpr hlen)

/-- **A name is skipped to its end.** -/
theorem skipDnsName_form (name : Name) (h : packet.bytes.drop offset = name.form ++ rest) :
    skipDnsName packet offset = .ok (offset + name.form.length) := by
  obtain ⟨labels, ending⟩ := name
  rw [Name.form] at h ⊢
  simp only at h ⊢
  induction labels generalizing offset with
  | nil =>
    cases ending with
    | root => exact skipDnsName_root h
    | pointer target =>
      refine skipDnsName_pointer ?_ h
      have hlt := target.isLt
      have hhigh : (0xC000 + target.toNat) / 256 ^ 1 = 0xC0 + target.toNat / 256 := by omega
      rw [hhigh]
      exact pointer_byte _ (by omega)
  | cons label labels ih =>
    rw [List.flatMap_cons, List.append_assoc, List.append_assoc] at h
    rw [skipDnsName_label label h, ih (by rw [List.append_assoc]; exact drop_of_drop h)]
    simp only [List.flatMap_cons, List.length_append, Nat.add_assoc]

theorem skipDnsQuestion_form (question : Question)
    (h : packet.bytes.drop offset = question.form ++ rest) :
    skipDnsQuestion packet offset = .ok (offset + question.form.length) := by
  have hslice := packet.isSlice
  have hform : question.form.length = question.name.form.length + 4 := by
    simp [Question.form]
  have hlen := le_len_of_drop h (by omega)
  rw [Question.form, List.append_assoc] at h
  rw [skipDnsQuestion, skipDnsName_form question.name h, ok_bind, hform, ← Nat.add_assoc]
  rw [hform, ← Nat.add_assoc] at hlen
  simp only [checkedAdd_eq (hlen.trans (hslice.trans (by omega)))]
  exact if_neg (not_lt.mpr hlen)

theorem skipDnsQuestions_form (questions : List Question)
    (h : packet.bytes.drop offset = questions.flatMap Question.form ++ rest) :
    skipDnsQuestions packet questions.length offset =
      .ok (offset + (questions.flatMap Question.form).length) := by
  induction questions generalizing offset with
  | nil => rfl
  | cons question questions ih =>
    rw [List.flatMap_cons, List.append_assoc] at h
    rw [List.length_cons, skipDnsQuestions, skipDnsQuestion_form question h, ok_bind,
      ih (drop_of_drop h), List.flatMap_cons, List.length_append, Nat.add_assoc]

/-- The address of an answer is appended, if it has one. -/
theorem pushAddress_eq (addrs : List SocketAddr) (answer : Answer) (qtype : UInt16) :
    (if answer.answerClass = 1 ∧ answer.answerType = qtype then
        pushAddress addrs answer.answerType answer.data.length answer.data
      else return addrs) = .ok (addrs ++ (answer.address qtype).toList) := by
  unfold pushAddress Answer.address
  split_ifs with hasked hv4 hv6 hlen
  · obtain ⟨b0, b1, b2, b3, hdata⟩ := List.length_eq_four.mp hv4.2
    rw [hdata]
    rfl
  · rfl
  · exact absurd hv6.2 hlen
  · rw [Option.toList_none, List.append_nil]
    rfl
  · rw [Option.toList_none, List.append_nil]
    rfl

theorem parseDnsAnswer_form (answer : Answer) (qtype : UInt16) (addrs : List SocketAddr)
    (h : packet.bytes.drop offset = answer.form ++ rest) :
    parseDnsAnswer packet qtype offset addrs =
      .ok (offset + answer.form.length, addrs ++ (answer.address qtype).toList) := by
  have hslice := packet.isSlice
  have hfits := answer.fits
  have hform : answer.form.length = answer.name.form.length + 10 + answer.data.length := by
    simp only [Answer.form, List.length_append, length_toBe]
    omega
  have hlen := le_len_of_drop h (by omega)
  simp only [Answer.form, List.append_assoc] at h
  rw [parseDnsAnswer, skipDnsName_form answer.name h, ok_bind]
  have htype := drop_of_drop h
  generalize hstart : offset + answer.name.form.length = start at htype ⊢
  -- the fields behind the name, each where the one before it ends
  have hclass := drop_of_drop htype
  have httl := drop_of_drop hclass
  have hrdlen := drop_of_drop httl
  have hdata := drop_of_drop hrdlen
  simp only [length_toBe, Nat.add_assoc, Nat.reduceAdd] at hclass hrdlen hdata
  have hend : start + 10 + answer.data.length ≤ packet.bytes.length := by omega
  have hrdata : slice packet.bytes (start + 10) (start + 10 + answer.data.length) = answer.data :=
    slice_eq_of_drop_eq hdata
  have hlength : (UInt16.ofNat answer.data.length).toNat = answer.data.length :=
    UInt16.toNat_ofNat_of_lt' hfits
  have hnext : start + 10 + answer.data.length = offset + answer.form.length := by omega
  rw [add_eq (by omega), ok_bind, if_neg (by rw [Packet.len]; omega),
    u16At_of_drop answer.answerType.toNat_lt htype, ok_bind,
    u16At_of_drop answer.answerClass.toNat_lt hclass, ok_bind, u16At_of_drop hfits hrdlen, ok_bind,
    hlength, add_eq (by omega), ok_bind, if_neg (not_lt.mpr (show _ ≤ packet.len from hend)),
    range_eq (by omega) hend, ok_bind, hrdata, UInt16.ofNat_toNat, UInt16.ofNat_toNat,
    pushAddress_eq, ok_bind, hnext]
  rfl

theorem parseDnsAnswers_form (answers : List Answer) (qtype : UInt16) (addrs : List SocketAddr)
    (h : packet.bytes.drop offset = answers.flatMap Answer.form ++ rest) :
    parseDnsAnswers packet qtype answers.length offset addrs =
      .ok (addrs ++ answers.filterMap (Answer.address qtype)) := by
  induction answers generalizing offset addrs with
  | nil => rw [List.filterMap_nil, List.append_nil]; rfl
  | cons answer answers ih =>
    rw [List.flatMap_cons, List.append_assoc] at h
    rw [List.length_cons, parseDnsAnswers, parseDnsAnswer_form answer qtype addrs h, ok_bind]
    simp only
    rw [ih _ (drop_of_drop h), List.append_assoc]
    cases haddress : answer.address qtype with
    | none => rw [List.filterMap_cons_none haddress]; rfl
    | some addr => rw [List.filterMap_cons_some haddress]; rfl

/-- **The addresses of a message.** -/
theorem parseDnsResponse_form (message : Message) (qtype : UInt16)
    (hcode : message.flags &&& 0x000f = 0) (h : packet.bytes = message.form ++ rest) :
    parseDnsResponse packet message.id qtype =
      .ok (message.answers.filterMap (Answer.address qtype)) := by
  have hid : packet.bytes.drop 0 = message.form ++ rest := h
  have hlen := le_len_of_drop hid (by simp [Message.form])
  simp only [Message.form, List.append_assoc] at hid
  have hflags := drop_of_drop hid
  have hquestions := drop_of_drop hflags
  have hanswers := drop_of_drop hquestions
  have hbody := drop_of_drop (drop_of_drop (drop_of_drop hanswers))
  simp only [length_toBe, Nat.reduceAdd] at hflags hquestions hanswers hbody
  have hlong : ¬ packet.len < 12 := by
    simp only [Message.form, List.length_append, length_toBe] at hlen
    rw [Packet.len]
    omega
  obtain ⟨hquestionsFit, hanswersFit⟩ := message.fits
  rw [parseDnsResponse, if_neg hlong, u16At_of_drop message.id.toNat_lt hid, ok_bind,
    UInt16.ofNat_toNat, if_neg (not_not.mpr rfl), u16At_of_drop message.flags.toNat_lt hflags,
    ok_bind, UInt16.ofNat_toNat, if_neg (not_not.mpr hcode), u16At_of_drop hquestionsFit hquestions,
    ok_bind, u16At_of_drop hanswersFit hanswers, ok_bind, UInt16.toNat_ofNat_of_lt' hquestionsFit,
    UInt16.toNat_ofNat_of_lt' hanswersFit, skipDnsQuestions_form message.questions hbody, ok_bind,
    parseDnsAnswers_form message.answers qtype [] (drop_of_drop hbody), List.nil_append]

end Reading

/-! ## Queries -/

theorem appends_pushLabel : Appends pushLabel
    (fun label : String => UInt8.ofNat label.utf8ByteSize :: label.toUTF8.toList)
    fun label => ¬ (label = "" ∨ 63 < label.utf8ByteSize) :=
  ⟨fun _ _ hfits => if_neg hfits, fun _ _ hfits => ⟨_, if_pos (not_not.mp hfits)⟩⟩

/-- A query is a header and one question. -/
theorem buildDnsQuery_eq {id qtype : UInt16} {host : String} {query : List UInt8}
    (h : buildDnsQuery id host qtype = .ok query) :
    ∃ question : Question, query = queryHeader id ++ question.form := by
  obtain ⟨packet, hpacket, hreturn⟩ := bind_eq_ok h
  cases hreturn
  obtain ⟨hfits, rfl⟩ := appends_pushLabel.foldlM.eq_of_ok _ hpacket
  -- the labels of the host, which the loop has checked
  have hlabels : ∀ names : List String, (∀ name ∈ names, ¬ (name = "" ∨ 63 < name.utf8ByteSize)) →
      ∃ labels : List Label, labels.flatMap Label.form =
        names.flatMap fun name => UInt8.ofNat name.utf8ByteSize :: name.toUTF8.toList := by
    intro names hnames
    induction names with
    | nil => exact ⟨[], rfl⟩
    | cons name names ih =>
      obtain ⟨hname, hnames⟩ := List.forall_mem_cons.mp hnames
      obtain ⟨labels, hlabels⟩ := ih hnames
      obtain ⟨hempty, hlong⟩ := not_or.mp hname
      have hpos : name.utf8ByteSize ≠ 0 :=
        fun hzero => hempty (String.utf8ByteSize_eq_zero_iff.mp hzero)
      let label : Label := ⟨name.toUTF8.toList, by rw [Text.length_toUTF8]; omega⟩
      refine ⟨label :: labels, ?_⟩
      rw [List.flatMap_cons, List.flatMap_cons, hlabels, Label.form, Text.length_toUTF8]
  obtain ⟨labels, hforms⟩ := hlabels _ hfits
  refine ⟨⟨⟨labels, .root⟩, qtype, 1⟩, ?_⟩
  simp only [Question.form, Name.form, hforms, NameEnd.form, List.append_assoc]
  rfl

/-- **Responses of a DNS server.** No packet leads to a panic. From a message with the expected
number and response code zero, whatever follows its answers, the code returns the addresses of the
answers that were asked for, in their order. The question of a query is skipped to its end,
whatever follows. -/
theorem dns_response_parsed :
    (∀ packet expectedId qtype, parseDnsResponse packet expectedId qtype ≠ .error .panic) ∧
    (∀ (packet : Packet) (message : Message) (qtype : UInt16) (rest : List UInt8),
      packet.bytes = message.form ++ rest → message.flags &&& 0x000f = 0 →
        parseDnsResponse packet message.id qtype =
          .ok (message.answers.filterMap (Answer.address qtype))) ∧
    (∀ (id qtype : UInt16) (host : String) (query : List UInt8),
      buildDnsQuery id host qtype = .ok query →
        ∀ (packet : Packet) (header rest : List UInt8), header.length = 12 →
          packet.bytes = header ++ (query.drop 12 ++ rest) →
            skipDnsQuestions packet 1 12 = .ok query.length) := by
  refine ⟨fun packet expectedId qtype => ?_, fun packet message qtype rest h hcode => ?_, ?_⟩
  · exact (returns_parseDnsResponse packet expectedId qtype).ne_panic
  · exact parseDnsResponse_form message qtype hcode h
  · intro id qtype host query hquery packet header rest hheader hbytes
    obtain ⟨question, rfl⟩ := buildDnsQuery_eq hquery
    have hlength : (queryHeader id).length = 12 := by simp [queryHeader]
    have hquestion : packet.bytes.drop 12 = question.form ++ rest := by
      rw [hbytes, ← hheader, List.drop_left, hheader, ← hlength, List.drop_left]
    rw [skipDnsQuestions, skipDnsQuestion_form question hquestion, List.length_append, hlength]
    rfl

end KeliAgent.Dns
