import KeliAgent.Tunnel.DataSession
import KeliAgent.Tunnel.PayloadForms

/-!
# HELLO and READY payloads

The reference decoder of `tests/tunnel_data.rs`, which panics on what it does not understand,
against the encoders of `tunnel_data.rs`.

* `reads_counted`: a list is its number of elements and the forms of these.
* **`connection_payloads_unambiguous`**: an encoder fails exactly when a length does not fit into
  two bytes; otherwise the reference decoder recovers everything and leaves nothing.
-/

namespace KeliAgent

open Wire PayloadCursor

namespace TunnelData

/-! ## The reference decoder -/

/-- Why the reference decoder panics. -/
inductive ReferencePanic where
  | outOfRange | invalidUtf8 | notAtEnd
  deriving DecidableEq, Repr

structure HelloPayload where
  agentIdHint : String
  agentVersion : String
  revision : String
  capabilities : List String
  deriving DecidableEq, Repr

structure ReadyPayload where
  revision : String
  ingressRuleIds : List UInt64
  egressRuleIds : List UInt64
  failedRules : List (UInt64 × String × String)
  deriving DecidableEq, Repr

namespace Reference

/-- The slice that all reads take. -/
def readBytes (cursor : PayloadCursor) (len : ℕ) :
    Except ReferencePanic (List UInt8 × PayloadCursor) :=
  match range? cursor.bytes cursor.offset (cursor.offset + len) with
  | none => .error .outOfRange
  | some bytes => .ok (bytes, { cursor with offset := cursor.offset + len })

def readU16 (cursor : PayloadCursor) : Except ReferencePanic (UInt16 × PayloadCursor) := do
  let (bytes, cursor) ← readBytes cursor 2
  return (UInt16.ofNat (ofBe bytes), cursor)

def readU64 (cursor : PayloadCursor) : Except ReferencePanic (UInt64 × PayloadCursor) := do
  let (bytes, cursor) ← readBytes cursor 8
  return (UInt64.ofNat (ofBe bytes), cursor)

def readString (cursor : PayloadCursor) : Except ReferencePanic (String × PayloadCursor) := do
  let (len, cursor) ← readU16 cursor
  let (bytes, cursor) ← readBytes cursor len.toNat
  match String.fromUTF8? ⟨bytes.toArray⟩ with
  | some value => return (value, cursor)
  | none => throw .invalidUtf8

/-- As many values as the count says. -/
def readCounted {α : Type} (read : PayloadCursor → Except ReferencePanic (α × PayloadCursor))
    (cursor : PayloadCursor) : Except ReferencePanic (List α × PayloadCursor) := do
  let (count, cursor) ← readU16 cursor
  readMany read count.toNat cursor

def readStringList : PayloadCursor → Except ReferencePanic (List String × PayloadCursor) :=
  readCounted readString

def readU64List : PayloadCursor → Except ReferencePanic (List UInt64 × PayloadCursor) :=
  readCounted readU64

def readFailedRule (cursor : PayloadCursor) :
    Except ReferencePanic ((UInt64 × String × String) × PayloadCursor) := do
  let (ruleId, cursor) ← readU64 cursor
  let (status, cursor) ← readString cursor
  let (error, cursor) ← readString cursor
  return ((ruleId, status, error), cursor)

def expectEnd (cursor : PayloadCursor) : Except ReferencePanic Unit :=
  if cursor.offset = cursor.bytes.length then .ok () else .error .notAtEnd

end Reference

open Reference

def parseHelloPayload (payload : List UInt8) : Except ReferencePanic HelloPayload := do
  let cursor := PayloadCursor.new payload
  let (agentIdHint, cursor) ← Reference.readString cursor
  let (agentVersion, cursor) ← Reference.readString cursor
  let (revision, cursor) ← Reference.readString cursor
  let (capabilities, cursor) ← readStringList cursor
  Reference.expectEnd cursor
  return { agentIdHint, agentVersion, revision, capabilities }

def parseReadyPayload (payload : List UInt8) : Except ReferencePanic ReadyPayload := do
  let cursor := PayloadCursor.new payload
  let (revision, cursor) ← Reference.readString cursor
  let (ingressRuleIds, cursor) ← readU64List cursor
  let (egressRuleIds, cursor) ← readU64List cursor
  let (failedRules, cursor) ← readCounted readFailedRule cursor
  Reference.expectEnd cursor
  return { revision, ingressRuleIds, egressRuleIds, failedRules }

/-! ## Forms -/

/-- The form of a list: the number of its elements, and their forms. -/
def countedForm {α : Type} (form : α → List UInt8) (values : List α) : List UInt8 :=
  toBe 2 values.length ++ values.flatMap form

def CountFits {α : Type} (Fits : α → Prop) (values : List α) : Prop :=
  values.length < 2 ^ 16 ∧ ∀ value ∈ values, Fits value

def u64Form (value : UInt64) : List UInt8 := toBe 8 value.toNat

def failureForm (failure : TunnelDataRuleFailure) : List UInt8 :=
  u64Form failure.ruleId ++ (stringForm failure.status ++ stringForm failure.error)

def FailureFits (failure : TunnelDataRuleFailure) : Prop :=
  StringFits failure.status ∧ StringFits failure.error

section Writers

theorem appends_writeCount (field : String) :
    Appends (fun output len => writeCount output len field) (toBe 2) (· < 2 ^ 16) :=
  ⟨fun _ _ h => if_pos h, fun _ _ h => ⟨_, if_neg h⟩⟩

theorem appends_writeString : Appends TunnelData.writeString stringForm StringFits := by
  have h := ((appends_writeCount "string length").part String.utf8ByteSize).comp
    (Appends.always fun value : String => value.toUTF8.toList)
  exact h.congr fun value => (and_true (StringFits value)).symm.to_iff

theorem appends_writeStringList :
    Appends writeStringList (countedForm stringForm) (CountFits StringFits) :=
  ((appends_writeCount "string list count").part List.length).comp appends_writeString.foldlM

theorem appends_writeU64List :
    Appends writeU64List (countedForm u64Form) (CountFits fun _ => True) := by
  have h := ((appends_writeCount "u64 list count").part List.length).comp
    (Appends.always (List.flatMap u64Form))
  exact h.congr fun values => by simp [CountFits]

theorem appends_writeFailedRule : Appends writeFailedRule failureForm FailureFits := by
  have h := (Appends.always fun failure : TunnelDataRuleFailure => u64Form failure.ruleId).comp
    ((appends_writeString.part TunnelDataRuleFailure.status).comp
      (appends_writeString.part TunnelDataRuleFailure.error))
  exact h.congr fun failure => (true_and (FailureFits failure)).symm.to_iff

/-- The payload with the capabilities that the agent announces. -/
def helloPayload (agentIdHint agentVersion revision : String) : HelloPayload :=
  { agentIdHint, agentVersion, revision
    capabilities := ["tcp", "multiplex", "flow_control", "stats"] }

def helloForm (hello : HelloPayload) : List UInt8 :=
  stringForm hello.agentIdHint ++ (stringForm hello.agentVersion ++
    (stringForm hello.revision ++ countedForm stringForm hello.capabilities))

def HelloFits (hello : HelloPayload) : Prop :=
  StringFits hello.agentIdHint ∧ StringFits hello.agentVersion ∧ StringFits hello.revision ∧
    CountFits StringFits hello.capabilities

theorem appends_hello :
    Appends (fun output hello => do
        let output ← TunnelData.writeString output hello.agentIdHint
        let output ← TunnelData.writeString output hello.agentVersion
        let output ← TunnelData.writeString output hello.revision
        writeStringList output hello.capabilities)
      helloForm HelloFits :=
  (appends_writeString.part HelloPayload.agentIdHint).comp
    ((appends_writeString.part HelloPayload.agentVersion).comp
      ((appends_writeString.part HelloPayload.revision).comp
        (appends_writeStringList.part HelloPayload.capabilities)))

def readyForm (ready : TunnelDataReadyState) : List UInt8 :=
  stringForm ready.revision ++ (countedForm u64Form ready.ingressRuleIds ++
    (countedForm u64Form ready.egressRuleIds ++ countedForm failureForm ready.failedRules))

def ReadyFits (ready : TunnelDataReadyState) : Prop :=
  StringFits ready.revision ∧ CountFits (fun _ => True) ready.ingressRuleIds ∧
    CountFits (fun _ => True) ready.egressRuleIds ∧ CountFits FailureFits ready.failedRules

theorem appends_ready :
    Appends (fun output (ready : TunnelDataReadyState) => do
        let output ← TunnelData.writeString output ready.revision
        let output ← writeU64List output ready.ingressRuleIds
        let output ← writeU64List output ready.egressRuleIds
        let output ← writeCount output ready.failedRules.length "failed rule count"
        ready.failedRules.foldlM writeFailedRule output)
      readyForm ReadyFits :=
  (appends_writeString.part TunnelDataReadyState.revision).comp
    ((appends_writeU64List.part TunnelDataReadyState.ingressRuleIds).comp
      ((appends_writeU64List.part TunnelDataReadyState.egressRuleIds).comp
        (((appends_writeCount "failed rule count").part
            fun ready : TunnelDataReadyState => ready.failedRules.length).comp
          (appends_writeFailedRule.foldlM.part TunnelDataReadyState.failedRules))))

end Writers

section Readers

theorem reads_readBytes (len : ℕ) :
    Reads unread Sound (Reference.readBytes · len) id (·.length = len) := by
  refine (PayloadCursor.reads_readBytes "" len).of_ok fun cursor r h => ?_
  rw [readBytes_eq_range?] at h
  unfold Reference.readBytes
  cases hrange : range? cursor.bytes cursor.offset (cursor.offset + len) with
  | none => rw [hrange] at h; cases h
  | some bytes => rw [hrange] at h; cases h; rfl

theorem reads_readU16 :
    Reads unread Sound Reference.readU16 (fun value => toBe 2 value.toNat) fun _ => True :=
  (reads_readBytes 2).map (fun bytes => UInt16.ofNat (ofBe bytes))
    (fun value => toBe 2 value.toNat) fun value _ => ⟨length_toBe _ _, u16_ofBe_toBe value⟩

theorem reads_readU64 : Reads unread Sound Reference.readU64 u64Form fun _ => True :=
  (reads_readBytes 8).map (fun bytes => UInt64.ofNat (ofBe bytes))
    (fun value => toBe 8 value.toNat) fun value _ => ⟨length_toBe _ _, u64_ofBe_toBe value⟩

theorem reads_readString : Reads unread Sound Reference.readString stringForm StringFits :=
  reads_string ReferencePanic.invalidUtf8 reads_readU16 reads_readBytes

/-- **A counted list is read element by element.** -/
theorem reads_counted {α : Type}
    {read : PayloadCursor → Except ReferencePanic (α × PayloadCursor)} {form : α → List UInt8}
    {Fits : α → Prop} (h : Reads unread Sound read form Fits) :
    Reads unread Sound (readCounted read) (countedForm form) (CountFits Fits) := by
  intro cursor values rest hsound hfits hunread
  have hlen := toNat_u16_ofNat hfits.1
  rw [countedForm, List.append_assoc, ← hlen] at hunread
  obtain ⟨cursor₁, hread₁, hsound₁, hunread₁⟩ := reads_readU16 hsound trivial hunread
  obtain ⟨cursor₂, hread₂, hsound₂, hunread₂⟩ := h.many _ hsound₁ ⟨rfl, hfits.2⟩ hunread₁
  refine ⟨cursor₂, ?_, hsound₂, hunread₂⟩
  simp only [readCounted, hread₁, ok_bind, hlen, hread₂]

/-- A failed rule as the reference decoder returns it. -/
def failureTuple (failure : TunnelDataRuleFailure) : UInt64 × String × String :=
  (failure.ruleId, failure.status, failure.error)

/-- The failed rule of such a tuple. -/
def tupleFailure (tuple : UInt64 × String × String) : TunnelDataRuleFailure :=
  ⟨tuple.1, tuple.2.1, tuple.2.2⟩

theorem reads_readFailedRule :
    Reads unread Sound readFailedRule (fun tuple => failureForm (tupleFailure tuple))
      fun tuple => FailureFits (tupleFailure tuple) := by
  rintro cursor ⟨ruleId, status, error⟩ rest hsound ⟨hstatus, herror⟩ hunread
  simp only [failureForm, tupleFailure, List.append_assoc] at hunread
  obtain ⟨cursor₁, hread₁, hsound₁, hunread₁⟩ := reads_readU64 hsound trivial hunread
  obtain ⟨cursor₂, hread₂, hsound₂, hunread₂⟩ := reads_readString hsound₁ hstatus hunread₁
  obtain ⟨cursor₃, hread₃, hsound₃, hunread₃⟩ := reads_readString hsound₂ herror hunread₂
  refine ⟨cursor₃, ?_, hsound₃, hunread₃⟩
  simp only [readFailedRule, hread₁, hread₂, hread₃, ok_bind]
  rfl

theorem expectEnd_of_unread {cursor : PayloadCursor} (hsound : cursor.Sound)
    (h : cursor.unread = []) : Reference.expectEnd cursor = .ok () := by
  have hlen := congrArg List.length h
  rw [length_unread, List.length_nil] at hlen
  exact if_pos (le_antisymm hsound (by omega))

theorem parseHelloPayload_form {hello : HelloPayload} (h : HelloFits hello) :
    parseHelloPayload (helloForm hello) = .ok hello := by
  obtain ⟨hid, hversion, hrevision, hcapabilities⟩ := h
  obtain ⟨c₁, hread₁, hs₁, hu₁⟩ := reads_readString (sound_new _) hid (unread_new (helloForm hello))
  obtain ⟨c₂, hread₂, hs₂, hu₂⟩ := reads_readString hs₁ hversion hu₁
  obtain ⟨c₃, hread₃, hs₃, hu₃⟩ := reads_readString hs₂ hrevision hu₂
  obtain ⟨c₄, hread₄, hs₄, hu₄⟩ := reads_counted reads_readString hs₃ hcapabilities
    (hu₃.trans (List.append_nil _).symm)
  simp only [parseHelloPayload, readStringList, hread₁, hread₂, hread₃, hread₄, ok_bind,
    expectEnd_of_unread hs₄ hu₄]
  rfl

/-- The READY state as the reference decoder returns it. -/
def readyPayload (ready : TunnelDataReadyState) : ReadyPayload :=
  { revision := ready.revision
    ingressRuleIds := ready.ingressRuleIds
    egressRuleIds := ready.egressRuleIds
    failedRules := ready.failedRules.map failureTuple }

theorem countedForm_failures (failures : List TunnelDataRuleFailure) :
    countedForm (fun tuple => failureForm (tupleFailure tuple)) (failures.map failureTuple) =
      countedForm failureForm failures := by
  rw [countedForm, countedForm, List.length_map, List.flatMap_map]
  rfl

theorem parseReadyPayload_form {ready : TunnelDataReadyState} (h : ReadyFits ready) :
    parseReadyPayload (readyForm ready) = .ok (readyPayload ready) := by
  obtain ⟨hrevision, hingress, hegress, hfailed⟩ := h
  have hfailed' : CountFits (fun tuple => FailureFits (tupleFailure tuple))
      (ready.failedRules.map failureTuple) := by
    refine ⟨by rw [List.length_map]; exact hfailed.1, ?_⟩
    exact List.forall_mem_map.mpr hfailed.2
  obtain ⟨c₁, hread₁, hs₁, hu₁⟩ := reads_readString (sound_new _) hrevision
    (unread_new (readyForm ready))
  obtain ⟨c₂, hread₂, hs₂, hu₂⟩ := reads_counted reads_readU64 hs₁ hingress hu₁
  obtain ⟨c₃, hread₃, hs₃, hu₃⟩ := reads_counted reads_readU64 hs₂ hegress hu₂
  rw [← countedForm_failures] at hu₃
  obtain ⟨c₄, hread₄, hs₄, hu₄⟩ := reads_counted reads_readFailedRule hs₃ hfailed'
    (hu₃.trans (List.append_nil _).symm)
  simp only [parseReadyPayload, readU64List, hread₁, hread₂, hread₃, hread₄, ok_bind,
    expectEnd_of_unread hs₄ hu₄]
  rfl

end Readers

/-- The READY state is determined by what the reference decoder returns. -/
theorem readyPayload_injective {ready ready' : TunnelDataReadyState}
    (h : readyPayload ready = readyPayload ready') : ready = ready' := by
  obtain ⟨revision, ingress, egress, failed⟩ := ready
  obtain ⟨revision', ingress', egress', failed'⟩ := ready'
  simp only [readyPayload, ReadyPayload.mk.injEq] at h
  obtain ⟨rfl, rfl, rfl, hfailed⟩ := h
  have hinj : Function.Injective failureTuple :=
    Function.LeftInverse.injective (g := tupleFailure) fun _ => rfl
  rw [List.map_injective_iff.mpr hinj hfailed]

/-- **HELLO and READY payloads are unambiguous.** An encoder fails exactly when a string or a list
has more than 65535 bytes or elements; otherwise the reference decoder returns all that was encoded,
at the end of the payload. -/
theorem connection_payloads_unambiguous :
    (∀ agentIdHint agentVersion revision : String,
      (∃ error, encodeHelloPayload agentIdHint agentVersion revision = .error error) ↔
        65535 < agentIdHint.utf8ByteSize ∨ 65535 < agentVersion.utf8ByteSize ∨
          65535 < revision.utf8ByteSize ∨
          65535 < (helloPayload agentIdHint agentVersion revision).capabilities.length ∨
          ∃ capability ∈ (helloPayload agentIdHint agentVersion revision).capabilities,
            65535 < capability.utf8ByteSize) ∧
    (∀ agentIdHint agentVersion revision payload,
      encodeHelloPayload agentIdHint agentVersion revision = .ok payload →
        parseHelloPayload payload = .ok (helloPayload agentIdHint agentVersion revision)) ∧
    (∀ ready : TunnelDataReadyState, (∃ error, encodeReadyPayload ready = .error error) ↔
      65535 < ready.revision.utf8ByteSize ∨ 65535 < ready.ingressRuleIds.length ∨
        65535 < ready.egressRuleIds.length ∨ 65535 < ready.failedRules.length ∨
        ∃ failure ∈ ready.failedRules,
          65535 < failure.status.utf8ByteSize ∨ 65535 < failure.error.utf8ByteSize) ∧
    (∀ ready payload, encodeReadyPayload ready = .ok payload →
      parseReadyPayload payload = .ok (readyPayload ready)) ∧
    ∀ ready ready' payload, encodeReadyPayload ready = .ok payload →
      encodeReadyPayload ready' = .ok payload → ready = ready' := by
  have hlt : ∀ n : ℕ, n < 2 ^ 16 ↔ ¬ 65535 < n := by omega
  have hready : ∀ ready payload, encodeReadyPayload ready = .ok payload →
      parseReadyPayload payload = .ok (readyPayload ready) := by
    intro ready payload h
    obtain ⟨hfits, rfl⟩ := appends_ready.eq_of_ok [] (a := ready) h
    exact parseReadyPayload_form hfits
  refine ⟨fun agentIdHint agentVersion revision => ?_,
    fun agentIdHint agentVersion revision payload h => ?_, fun ready => ?_, hready,
    fun ready ready' payload h h' => ?_⟩
  · refine (appends_hello.error_iff [] (helloPayload agentIdHint agentVersion revision)).trans ?_
    simp only [HelloFits, StringFits, CountFits, hlt, not_and_or, not_forall, not_not, exists_prop]
    rfl
  · obtain ⟨hfits, rfl⟩ :=
      appends_hello.eq_of_ok [] (a := helloPayload agentIdHint agentVersion revision) h
    exact parseHelloPayload_form hfits
  · refine (appends_ready.error_iff [] ready).trans ?_
    simp only [ReadyFits, StringFits, CountFits, FailureFits, hlt, not_and_or, not_forall, not_not,
      exists_prop, not_true_eq_false, and_false, exists_false, or_false]
  · have hparse := (hready ready payload h).symm.trans (hready ready' payload h')
    exact readyPayload_injective (Except.ok.inj hparse)

end TunnelData

end KeliAgent
