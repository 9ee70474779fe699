import KeliAgent.Ktp.Broken

/-!
# The frame relay

`KtpEncryptedTcpFrameRelay` of `ktp_transport.rs`: it opens the records of one party, seals the
frames again for the other, in both directions, one frame at a time or in batches, and counts them.

* `forwardFrame`, `forwardBatch`: one direction, the common part of the four functions.
* `Carrying`: what was forwarded, what was read and is still to be forwarded, and what the other
  party's stream will still deliver; `Carrying.forwardFrame`, `Carrying.forwardBatch`.
* **`relay_transparent`**: one party receives the first frames that the other has sent; if no call
  has failed, as many as the statistics say.
-/

namespace KeliAgent

open Wire

structure KtpEncryptedTcpRelayStats where
  framesLeftToRight : ℕ
  framesRightToLeft : ℕ
  batchesLeftToRight : ℕ
  batchesRightToLeft : ℕ
  maxBatchFramesLeftToRight : ℕ
  maxBatchFramesRightToLeft : ℕ
  deriving DecidableEq

namespace KtpEncryptedTcpRelayStats

def default : KtpEncryptedTcpRelayStats := ⟨0, 0, 0, 0, 0, 0⟩

def recordLeftToRightBatch (self : KtpEncryptedTcpRelayStats) (frames : ℕ) :
    KtpEncryptedTcpRelayStats :=
  if frames = 0 then self
  else
    { self with
      framesLeftToRight := self.framesLeftToRight + frames
      batchesLeftToRight := self.batchesLeftToRight + 1
      maxBatchFramesLeftToRight := max self.maxBatchFramesLeftToRight frames }

def recordRightToLeftBatch (self : KtpEncryptedTcpRelayStats) (frames : ℕ) :
    KtpEncryptedTcpRelayStats :=
  if frames = 0 then self
  else
    { self with
      framesRightToLeft := self.framesRightToLeft + frames
      batchesRightToLeft := self.batchesRightToLeft + 1
      maxBatchFramesRightToLeft := max self.maxBatchFramesRightToLeft frames }

@[simp] theorem framesLeftToRight_record (self : KtpEncryptedTcpRelayStats) (frames : ℕ) :
    (self.recordLeftToRightBatch frames).framesLeftToRight = self.framesLeftToRight + frames ∧
      (self.recordLeftToRightBatch frames).framesRightToLeft = self.framesRightToLeft := by
  unfold recordLeftToRightBatch
  split_ifs with h
  · exact ⟨by rw [h, Nat.add_zero], rfl⟩
  · exact ⟨rfl, rfl⟩

@[simp] theorem framesRightToLeft_record (self : KtpEncryptedTcpRelayStats) (frames : ℕ) :
    (self.recordRightToLeftBatch frames).framesRightToLeft = self.framesRightToLeft + frames ∧
      (self.recordRightToLeftBatch frames).framesLeftToRight = self.framesLeftToRight := by
  unfold recordRightToLeftBatch
  split_ifs with h
  · exact ⟨by rw [h, Nat.add_zero], rfl⟩
  · exact ⟨rfl, rfl⟩

end KtpEncryptedTcpRelayStats

structure KtpEncryptedTcpFrameRelay where
  left : KtpEncryptedStream
  right : KtpEncryptedStream
  leftBatch : List KtpFrame
  rightBatch : List KtpFrame
  stats : KtpEncryptedTcpRelayStats

def ktpRelayBatchFrames : ℕ := 64

/-- One frame from a stream to another: the result and both streams. -/
def forwardFrame (aead : Aead) (source target : KtpEncryptedStream) (outcome : WriteOutcome) :
    Except KtpTcpTransportError KtpFrame × KtpEncryptedStream × KtpEncryptedStream :=
  match source.nextFrame aead with
  | (.error error, source) => (.error error, source, target)
  | (.ok frame, source) => match target.sendFrame aead frame outcome with
    | (.error error, target) => (.error error, source, target)
    | (.ok (), target) => (.ok frame, source, target)

/-- A batch of frames from a stream to another: the result, the batch, and both streams. -/
def forwardBatch (aead : Aead) (source target : KtpEncryptedStream) (maxFrames : ℕ)
    (outcome : WriteOutcome) :
    Except KtpTcpTransportError ℕ × List KtpFrame × KtpEncryptedStream × KtpEncryptedStream :=
  match source.nextFramesInto aead maxFrames with
  | (.error error, batch, source) => (.error error, batch, source, target)
  | (.ok frameCount, batch, source) => match target.sendFrames aead batch outcome with
    | (.error error, target) => (.error error, batch, source, target)
    | (.ok (), target) => (.ok frameCount, batch, source, target)

namespace KtpEncryptedTcpFrameRelay

def new (left right : KtpEncryptedStream) : KtpEncryptedTcpFrameRelay where
  left := left
  right := right
  leftBatch := []
  rightBatch := []
  stats := .default

variable (aead : Aead) (self : KtpEncryptedTcpFrameRelay)

def relayNextLeftToRight (outcome : WriteOutcome) :
    Except KtpTcpTransportError KtpFrame × KtpEncryptedTcpFrameRelay :=
  match forwardFrame aead self.left self.right outcome with
  | (.error error, left, right) => (.error error, { self with left := left, right := right })
  | (.ok frame, left, right) =>
    (.ok frame,
      { self with left := left, right := right, stats := self.stats.recordLeftToRightBatch 1 })

def relayNextRightToLeft (outcome : WriteOutcome) :
    Except KtpTcpTransportError KtpFrame × KtpEncryptedTcpFrameRelay :=
  match forwardFrame aead self.right self.left outcome with
  | (.error error, right, left) => (.error error, { self with left := left, right := right })
  | (.ok frame, right, left) =>
    (.ok frame,
      { self with left := left, right := right, stats := self.stats.recordRightToLeftBatch 1 })

def relayNextLeftToRightBatch (maxFrames : ℕ) (outcome : WriteOutcome) :
    Except KtpTcpTransportError ℕ × KtpEncryptedTcpFrameRelay :=
  match forwardBatch aead self.left self.right maxFrames outcome with
  | (.error error, batch, left, right) =>
    (.error error, { self with left := left, right := right, leftBatch := batch })
  | (.ok frameCount, batch, left, right) =>
    (.ok frameCount,
      { self with
        left := left
        right := right
        leftBatch := batch
        stats := self.stats.recordLeftToRightBatch frameCount })

def relayNextRightToLeftBatch (maxFrames : ℕ) (outcome : WriteOutcome) :
    Except KtpTcpTransportError ℕ × KtpEncryptedTcpFrameRelay :=
  match forwardBatch aead self.right self.left maxFrames outcome with
  | (.error error, batch, right, left) =>
    (.error error, { self with left := left, right := right, rightBatch := batch })
  | (.ok frameCount, batch, right, left) =>
    (.ok frameCount,
      { self with
        left := left
        right := right
        rightBatch := batch
        stats := self.stats.recordRightToLeftBatch frameCount })

/-- `relay_bidirectional_rounds`, with the outcomes of the two writes of each round. -/
def relayBidirectionalRounds (self : KtpEncryptedTcpFrameRelay) :
    List (WriteOutcome × WriteOutcome) →
      Except KtpTcpTransportError KtpEncryptedTcpRelayStats × KtpEncryptedTcpFrameRelay
  | [] => (.ok self.stats, self)
  | outcomes :: rounds =>
    match self.relayNextLeftToRightBatch aead ktpRelayBatchFrames outcomes.1 with
    | (.error error, self) => (.error error, self)
    | (.ok _, self) =>
      match self.relayNextRightToLeftBatch aead ktpRelayBatchFrames outcomes.2 with
      | (.error error, self) => (.error error, self)
      | (.ok _, self) => relayBidirectionalRounds self rounds

end KtpEncryptedTcpFrameRelay

/-! ## One direction -/

/-- The direction from `target` to `source` was left alone. -/
structure Aside (source target source' target' : KtpEncryptedStream) : Prop where
  sealer : source'.sealer = source.sealer
  written : source'.written = source.written
  codec : target'.codec = target.codec
  incoming : target'.incoming = target.incoming

/-- A relay between what one party's stream delivers in all, `total`, and the other party's stream:
the frames forwarded so far are written, those held are still to be written, and the source will
deliver the others. -/
def Carrying (aead : Aead) (start : KtpCryptoSeal) (b : ℕ) (total held : List KtpFrame)
    (source target : KtpEncryptedStream) (count : ℕ) : Prop :=
  ∃ forwarded rest e, forwarded ++ (held ++ rest) = total ∧ Written aead start forwarded target ∧
    Singly aead source rest e ∧ source.codec.Wf b ∧ count = forwarded.length

section Direction

variable {aead : Aead} {start : KtpCryptoSeal} {b : ℕ} {total held : List KtpFrame}
  {source target source' target' : KtpEncryptedStream} {count : ℕ}

theorem Carrying.brokenOff (h : Carrying aead start b total held source target count) :
    BrokenOff aead start total target := by
  obtain ⟨forwarded, rest, e, rfl, hwritten, -⟩ := h
  exact hwritten.brokenOff (List.prefix_append _ _)

/-- Only the codec and the reads of the source and the seal and the writes of the target matter. -/
theorem Carrying.aside (h : Carrying aead start b total held source target count)
    (haside : Aside target source target' source') :
    Carrying aead start b total held source' target' count := by
  obtain ⟨forwarded, rest, e, heq, hwritten, hsingly, hwf, hcount⟩ := h
  refine ⟨forwarded, rest, e, heq, ?_, hsingly.congr haside.codec haside.incoming,
    haside.codec ▸ hwf, hcount⟩
  rw [Written, haside.sealer, haside.written]
  exact hwritten

theorem BrokenOff.aside (h : BrokenOff aead start total target)
    (haside : Aside target source target' source') : BrokenOff aead start total target' := by
  rw [BrokenOff, haside.written]
  exact h

theorem Carrying.nextFrame (h : Carrying aead start b total [] source target count)
    {frame : KtpFrame} (hnext : source.nextFrame aead = (.ok frame, source')) :
    Carrying aead start b total [frame] source' target count := by
  obtain ⟨forwarded, rest, e, heq, hwritten, hsingly, hwf, hcount⟩ := h
  have hwf' := (recordNext_of_nextFrame hwf hnext).choose_spec.2.1
  cases hsingly with
  | fail hfail =>
    rw [hnext] at hfail
    cases hfail
  | deliver hdeliver hrest =>
    rw [hnext] at hdeliver
    cases hdeliver
    exact ⟨forwarded, _, e, heq, hwritten, hrest, hwf', hcount⟩

theorem Carrying.nextFramesInto (h : Carrying aead start b total [] source target count)
    {maxFrames frameCount : ℕ} (hpos : 0 < maxFrames) {batch : List KtpFrame}
    (hnext : source.nextFramesInto aead maxFrames = (.ok frameCount, batch, source')) :
    Carrying aead start b total batch source' target count ∧ frameCount = batch.length := by
  obtain ⟨forwarded, rest, e, heq, hwritten, hsingly, hwf, hcount⟩ := h
  rcases nextFramesInto_cases aead hwf ⟨maxFrames, hpos⟩ with
    ⟨items, e', st', hr, -⟩ | ⟨items, st', hr, hwf', -, hs⟩
  · cases hr.symm.trans hnext
  · cases hr.symm.trans hnext
    -- what the source delivers now, and what it has delivered, is what it would have delivered
    obtain ⟨rest', e', hrest'⟩ := exists_singly aead hwf'
    obtain ⟨rfl, -⟩ := hsingly.unique (hs rest' e' hrest')
    exact ⟨⟨forwarded, rest', e', heq, hwritten, hrest', hwf', hcount⟩, rfl⟩

theorem Carrying.send {call : SendCall}
    (h : Carrying aead start b total call.frames source target count) (outcome : WriteOutcome) :
    match call.send aead target outcome with
    | (.ok (), target') =>
      Carrying aead start b total [] source target' (count + call.frames.length)
    | (.error _, target') => BrokenOff aead start total target' := by
  obtain ⟨forwarded, rest, e, rfl, hwritten, hsingly, hwf, rfl⟩ := h
  have hsent := hwritten.send call outcome
  rcases hsend : call.send aead target outcome with ⟨_ | _, target'⟩ <;> rw [hsend] at hsent
  · obtain ⟨hok, -⟩ | ⟨-, sealed, records, sealer, hfirst, hsealed⟩ := hsent
    · cases hok
    · refine ⟨sealed, records, sealer, hfirst.trans ?_, hsealed⟩
      rw [← List.append_assoc]
      exact List.prefix_append _ _
  · obtain ⟨-, hwritten'⟩ | ⟨⟨e, herror⟩, -⟩ := hsent
    · refine ⟨forwarded ++ call.frames, rest, e, ?_, hwritten', hsingly, hwf, ?_⟩
      · rw [List.nil_append, List.append_assoc]
      · rw [List.length_append]
    · cases herror

/-- A call leaves the reading side of its stream alone. -/
theorem SendCall.send_codec (aead : Aead) (call : SendCall) (st : KtpEncryptedStream)
    (outcome : WriteOutcome) : (call.send aead st outcome).2.codec = st.codec ∧
      (call.send aead st outcome).2.incoming = st.incoming := by
  have hwrite (st : KtpEncryptedStream) : (st.writeAll outcome).2.codec = st.codec ∧
      (st.writeAll outcome).2.incoming = st.incoming := by
    cases outcome <;> exact ⟨rfl, rfl⟩
  cases call with
  | sendFrame frame =>
    unfold send KtpEncryptedStream.sendFrame
    dsimp only
    split
    · exact ⟨rfl, rfl⟩
    · exact hwrite _
  | sendFrames frames =>
    unfold send KtpEncryptedStream.sendFrames
    dsimp only
    split_ifs
    · exact ⟨rfl, rfl⟩
    split
    · exact ⟨rfl, rfl⟩
    · exact hwrite _

/-- A batch call leaves the writing side of its stream alone. -/
theorem nextFramesInto_sealer (aead : Aead) (st : KtpEncryptedStream) (maxFrames : ℕ) :
    (st.nextFramesInto aead maxFrames).2.2.sealer = st.sealer ∧
      (st.nextFramesInto aead maxFrames).2.2.written = st.written := by
  unfold KtpEncryptedStream.nextFramesInto
  split_ifs
  · exact ⟨rfl, rfl⟩
  · exact ⟨rfl, rfl⟩

theorem aside_forwardFrame (aead : Aead) (source target : KtpEncryptedStream)
    (outcome : WriteOutcome) :
    Aside source target (forwardFrame aead source target outcome).2.1
      (forwardFrame aead source target outcome).2.2 := by
  unfold forwardFrame
  rcases hnext : source.nextFrame aead with ⟨e | frame, source'⟩
  · exact ⟨(congrArg (·.2.sealer) hnext).symm, (congrArg (·.2.written) hnext).symm, rfl, rfl⟩
  · have hcodec := SendCall.send_codec aead (.sendFrame frame) target outcome
    dsimp only
    rcases hsend : target.sendFrame aead frame outcome with ⟨e | _, target'⟩ <;>
      rw [SendCall.send, hsend] at hcodec <;>
      exact ⟨(congrArg (·.2.sealer) hnext).symm, (congrArg (·.2.written) hnext).symm, hcodec.1,
        hcodec.2⟩

theorem aside_forwardBatch (aead : Aead) (source target : KtpEncryptedStream) (maxFrames : ℕ)
    (outcome : WriteOutcome) :
    Aside source target (forwardBatch aead source target maxFrames outcome).2.2.1
      (forwardBatch aead source target maxFrames outcome).2.2.2 := by
  have hsealer := nextFramesInto_sealer aead source maxFrames
  unfold forwardBatch
  rcases hnext : source.nextFramesInto aead maxFrames with ⟨e | frameCount, batch, source'⟩
  · rw [hnext] at hsealer
    exact ⟨hsealer.1, hsealer.2, rfl, rfl⟩
  · have hcodec := SendCall.send_codec aead (.sendFrames batch) target outcome
    rw [hnext] at hsealer
    dsimp only
    rcases hsend : target.sendFrames aead batch outcome with ⟨e | _, target'⟩ <;>
      rw [SendCall.send, hsend] at hcodec <;> exact ⟨hsealer.1, hsealer.2, hcodec.1, hcodec.2⟩

/-- One frame more was forwarded, or the stream to the other party has broken off. -/
theorem Carrying.forwardFrame (h : Carrying aead start b total [] source target count)
    (outcome : WriteOutcome) :
    match KeliAgent.forwardFrame aead source target outcome with
    | (.ok _, source', target') => Carrying aead start b total [] source' target' (count + 1)
    | (.error _, _, target') => BrokenOff aead start total target' := by
  unfold KeliAgent.forwardFrame
  rcases hnext : source.nextFrame aead with ⟨e | frame, source'⟩
  · exact h.brokenOff
  · have hheld : Carrying aead start b total (SendCall.sendFrame frame).frames source' target
      count := h.nextFrame hnext
    have hsent := hheld.send outcome
    rw [SendCall.send] at hsent
    dsimp only
    rcases hsend : target.sendFrame aead frame outcome with ⟨_ | _, target'⟩ <;>
      rw [hsend] at hsent <;> exact hsent

theorem Carrying.forwardBatch (h : Carrying aead start b total [] source target count)
    {maxFrames : ℕ} (hpos : 0 < maxFrames) (outcome : WriteOutcome) :
    match KeliAgent.forwardBatch aead source target maxFrames outcome with
    | (.ok frameCount, _, source', target') =>
      Carrying aead start b total [] source' target' (count + frameCount)
    | (.error _, _, _, target') => BrokenOff aead start total target' := by
  unfold KeliAgent.forwardBatch
  rcases hnext : source.nextFramesInto aead maxFrames with ⟨e | frameCount, batch, source'⟩
  · exact h.brokenOff
  · obtain ⟨hbatch, rfl⟩ := h.nextFramesInto hpos hnext
    have hheld : Carrying aead start b total (SendCall.sendFrames batch).frames source' target
      count := hbatch
    have hsent := hheld.send outcome
    rw [SendCall.send] at hsent
    dsimp only
    rcases hsend : target.sendFrames aead batch outcome with ⟨_ | _, target'⟩ <;>
      rw [hsend] at hsent <;> exact hsent

end Direction

/-! ## Whole runs -/

inductive RelaySide where
  | left | right
  deriving DecidableEq

def RelaySide.other : RelaySide → RelaySide
  | .left => .right
  | .right => .left

/-- A call of the relay's interface, with the outcomes of its writes. -/
inductive RelayCall where
  | nextLeftToRight (outcome : WriteOutcome)
  | nextRightToLeft (outcome : WriteOutcome)
  | bidirectionalRounds (outcomes : List (WriteOutcome × WriteOutcome))

namespace KtpEncryptedTcpFrameRelay

def stream (self : KtpEncryptedTcpFrameRelay) : RelaySide → KtpEncryptedStream
  | .left => self.left
  | .right => self.right

/-- The frames that were forwarded from a side. -/
def forwarded (self : KtpEncryptedTcpFrameRelay) : RelaySide → ℕ
  | .left => self.stats.framesLeftToRight
  | .right => self.stats.framesRightToLeft

def call (aead : Aead) (self : KtpEncryptedTcpFrameRelay) :
    RelayCall → Except KtpTcpTransportError Unit × KtpEncryptedTcpFrameRelay
  | .nextLeftToRight outcome => (self.relayNextLeftToRight aead outcome).map (·.map fun _ => ()) id
  | .nextRightToLeft outcome => (self.relayNextRightToLeft aead outcome).map (·.map fun _ => ()) id
  | .bidirectionalRounds outcomes =>
    (self.relayBidirectionalRounds aead outcomes).map (·.map fun _ => ()) id

/-- Calls one after the other, up to the first that fails. -/
def run (aead : Aead) (self : KtpEncryptedTcpFrameRelay) :
    List RelayCall → Except KtpTcpTransportError Unit × KtpEncryptedTcpFrameRelay
  | [] => (.ok (), self)
  | call :: calls => match self.call aead call with
    | (.error error, self) => (.error error, self)
    | (.ok (), self) => run aead self calls

end KtpEncryptedTcpFrameRelay

/-- The direction from a side to the other one, as `Carrying` says. -/
def Relaying (aead : Aead) (start : KtpCryptoSeal) (b : ℕ) (total : List KtpFrame)
    (side : RelaySide) (self : KtpEncryptedTcpFrameRelay) : Prop :=
  Carrying aead start b total [] (self.stream side) (self.stream side.other) (self.forwarded side)

section Runs

open KtpEncryptedTcpFrameRelay

variable {aead : Aead} {start : KtpCryptoSeal} {b : ℕ} {total : List KtpFrame} {side : RelaySide}
  {self : KtpEncryptedTcpFrameRelay}

/-- A call forwarded frames from a side, with these streams after it. -/
structure Forwarded (s : RelaySide) (self self' : KtpEncryptedTcpFrameRelay)
    (source target : KtpEncryptedStream) (frames : ℕ) : Prop where
  source : self'.stream s = source
  target : self'.stream s.other = target
  count : self'.forwarded s = self.forwarded s + frames
  others : self'.forwarded s.other = self.forwarded s.other

/-- Whichever direction a call was for, it is the direction from `side`, or leaves it alone. -/
theorem Relaying.of_forwarded (h : Relaying aead start b total side self) {s : RelaySide}
    {self' : KtpEncryptedTcpFrameRelay} {source target : KtpEncryptedStream} {frames : ℕ}
    (hforwarded : Forwarded s self self' source target frames)
    (haside : Aside (self.stream s) (self.stream s.other) source target)
    (hcarrying : ∀ {count}, Carrying aead start b total [] (self.stream s) (self.stream s.other)
      count → Carrying aead start b total [] source target (count + frames)) :
    Relaying aead start b total side self' := by
  obtain ⟨rfl, rfl, hcount, hothers⟩ := hforwarded
  unfold Relaying at h ⊢
  cases side <;> cases s
  case left.left | right.right =>
    rw [hcount]
    exact hcarrying h
  case left.right | right.left =>
    exact hothers ▸ Carrying.aside h haside

theorem Relaying.brokenOff_of_forwarded (h : Relaying aead start b total side self) {s : RelaySide}
    {self' : KtpEncryptedTcpFrameRelay} {source target : KtpEncryptedStream} {frames : ℕ}
    (hforwarded : Forwarded s self self' source target frames)
    (haside : Aside (self.stream s) (self.stream s.other) source target)
    (hbroken : ∀ {count}, Carrying aead start b total [] (self.stream s) (self.stream s.other)
      count → BrokenOff aead start total target) :
    BrokenOff aead start total (self'.stream side.other) := by
  obtain ⟨rfl, rfl, -, -⟩ := hforwarded
  cases side <;> cases s
  case left.left | right.right => exact hbroken h
  case left.right | right.left => exact (Carrying.aside h haside).brokenOff

/-- What a call leaves of the direction from `side`. -/
def Relayed {α : Type} (aead : Aead) (start : KtpCryptoSeal) (b : ℕ) (total : List KtpFrame)
    (side : RelaySide) (after : Except KtpTcpTransportError α × KtpEncryptedTcpFrameRelay) : Prop :=
  match after with
  | (.ok _, self) => Relaying aead start b total side self
  | (.error _, self) => BrokenOff aead start total (self.stream side.other)

theorem Relaying.forwardFrame (h : Relaying aead start b total side self) (s : RelaySide)
    (outcome : WriteOutcome)
    {after : Except KtpTcpTransportError KtpFrame × KtpEncryptedTcpFrameRelay}
    (hresult : after.1 = (forwardFrame aead (self.stream s) (self.stream s.other) outcome).1)
    (hforwarded : Forwarded s self after.2
      (KeliAgent.forwardFrame aead (self.stream s) (self.stream s.other) outcome).2.1
      (KeliAgent.forwardFrame aead (self.stream s) (self.stream s.other) outcome).2.2
      (if after.1.isOk then 1 else 0)) :
    Relayed aead start b total side after := by
  obtain ⟨result, self'⟩ := after
  have haside := aside_forwardFrame aead (self.stream s) (self.stream s.other) outcome
  have hforward {count : ℕ} (h : Carrying aead start b total [] (self.stream s)
    (self.stream s.other) count) := h.forwardFrame outcome
  cases hresult
  rcases heq : KeliAgent.forwardFrame aead (self.stream s) (self.stream s.other) outcome with
    ⟨_ | _, source, target⟩ <;> rw [heq] at haside hforwarded hforward
  · exact h.brokenOff_of_forwarded hforwarded haside hforward
  · exact h.of_forwarded hforwarded haside hforward

theorem Relaying.forwardBatch (h : Relaying aead start b total side self) (s : RelaySide)
    {maxFrames : ℕ} (hpos : 0 < maxFrames) (outcome : WriteOutcome)
    {after : Except KtpTcpTransportError ℕ × KtpEncryptedTcpFrameRelay}
    (hresult : after.1 =
      (forwardBatch aead (self.stream s) (self.stream s.other) maxFrames outcome).1)
    (hforwarded : Forwarded s self after.2
      (KeliAgent.forwardBatch aead (self.stream s) (self.stream s.other) maxFrames outcome).2.2.1
      (KeliAgent.forwardBatch aead (self.stream s) (self.stream s.other) maxFrames outcome).2.2.2
      (after.1.toOption.getD 0)) :
    Relayed aead start b total side after := by
  obtain ⟨result, self'⟩ := after
  have haside := aside_forwardBatch aead (self.stream s) (self.stream s.other) maxFrames outcome
  have hforward {count : ℕ} (h : Carrying aead start b total [] (self.stream s)
    (self.stream s.other) count) := h.forwardBatch hpos outcome
  cases hresult
  rcases heq : KeliAgent.forwardBatch aead (self.stream s) (self.stream s.other) maxFrames outcome
    with ⟨_ | _, batch, source, target⟩ <;> rw [heq] at haside hforwarded hforward
  · exact h.brokenOff_of_forwarded hforwarded haside hforward
  · exact h.of_forwarded hforwarded haside hforward

theorem Relaying.relayNextLeftToRight (h : Relaying aead start b total side self)
    (outcome : WriteOutcome) :
    Relayed aead start b total side (self.relayNextLeftToRight aead outcome) := by
  refine h.forwardFrame .left outcome ?_ ?_ <;>
    unfold KtpEncryptedTcpFrameRelay.relayNextLeftToRight <;>
    rcases heq : KeliAgent.forwardFrame aead self.left self.right outcome with ⟨_ | _, l, r⟩ <;>
    simp only [stream, RelaySide.other, heq]
  · exact ⟨rfl, rfl, rfl, rfl⟩
  · exact ⟨rfl, rfl, rfl, rfl⟩

theorem Relaying.relayNextRightToLeft (h : Relaying aead start b total side self)
    (outcome : WriteOutcome) :
    Relayed aead start b total side (self.relayNextRightToLeft aead outcome) := by
  refine h.forwardFrame .right outcome ?_ ?_ <;>
    unfold KtpEncryptedTcpFrameRelay.relayNextRightToLeft <;>
    rcases heq : KeliAgent.forwardFrame aead self.right self.left outcome with ⟨_ | _, r, l⟩ <;>
    simp only [stream, RelaySide.other, heq]
  · exact ⟨rfl, rfl, rfl, rfl⟩
  · exact ⟨rfl, rfl, rfl, rfl⟩

theorem Relaying.relayNextLeftToRightBatch (h : Relaying aead start b total side self)
    {maxFrames : ℕ} (hpos : 0 < maxFrames) (outcome : WriteOutcome) :
    Relayed aead start b total side (self.relayNextLeftToRightBatch aead maxFrames outcome) := by
  refine h.forwardBatch .left hpos outcome ?_ ?_ <;>
    unfold KtpEncryptedTcpFrameRelay.relayNextLeftToRightBatch <;>
    rcases heq : KeliAgent.forwardBatch aead self.left self.right maxFrames outcome with
      ⟨_ | frames, batch, l, r⟩ <;>
    simp only [stream, RelaySide.other, heq]
  · exact ⟨rfl, rfl, rfl, rfl⟩
  · obtain ⟨hcount, hothers⟩ := self.stats.framesLeftToRight_record frames
    exact ⟨rfl, rfl, hcount, hothers⟩

theorem Relaying.relayNextRightToLeftBatch (h : Relaying aead start b total side self)
    {maxFrames : ℕ} (hpos : 0 < maxFrames) (outcome : WriteOutcome) :
    Relayed aead start b total side (self.relayNextRightToLeftBatch aead maxFrames outcome) := by
  refine h.forwardBatch .right hpos outcome ?_ ?_ <;>
    unfold KtpEncryptedTcpFrameRelay.relayNextRightToLeftBatch <;>
    rcases heq : KeliAgent.forwardBatch aead self.right self.left maxFrames outcome with
      ⟨_ | frames, batch, r, l⟩ <;>
    simp only [stream, RelaySide.other, heq]
  · exact ⟨rfl, rfl, rfl, rfl⟩
  · obtain ⟨hcount, hothers⟩ := self.stats.framesRightToLeft_record frames
    exact ⟨rfl, rfl, hcount, hothers⟩

/-- All rounds, by induction on the rounds to go. -/
theorem Relaying.relayBidirectionalRounds (h : Relaying aead start b total side self)
    (outcomes : List (WriteOutcome × WriteOutcome)) :
    Relayed aead start b total side (self.relayBidirectionalRounds aead outcomes) := by
  have hpos : 0 < ktpRelayBatchFrames := by decide
  induction outcomes generalizing self with
  | nil => exact h
  | cons outcomes rounds ih =>
    unfold KtpEncryptedTcpFrameRelay.relayBidirectionalRounds
    have hleft := h.relayNextLeftToRightBatch hpos outcomes.1
    rcases heq : self.relayNextLeftToRightBatch aead ktpRelayBatchFrames outcomes.1 with
      ⟨_ | _, self₁⟩ <;> rw [heq] at hleft
    · exact hleft
    have hright := Relaying.relayNextRightToLeftBatch hleft hpos outcomes.2
    dsimp only
    rcases heq' : self₁.relayNextRightToLeftBatch aead ktpRelayBatchFrames outcomes.2 with
      ⟨_ | _, self₂⟩ <;> rw [heq'] at hright
    · exact hright
    · exact ih hright

theorem Relayed.map {α β : Type} {after : Except KtpTcpTransportError α × KtpEncryptedTcpFrameRelay}
    (h : Relayed aead start b total side after) (f : α → β) :
    Relayed aead start b total side (after.map (·.map f) id) := by
  obtain ⟨_ | _, self⟩ := after <;> exact h

theorem Relaying.call (h : Relaying aead start b total side self) (call : RelayCall) :
    Relayed aead start b total side (self.call aead call) := by
  cases call with
  | nextLeftToRight outcome => exact (h.relayNextLeftToRight outcome).map _
  | nextRightToLeft outcome => exact (h.relayNextRightToLeft outcome).map _
  | bidirectionalRounds outcomes => exact (h.relayBidirectionalRounds outcomes).map _

theorem Relaying.run (h : Relaying aead start b total side self) (calls : List RelayCall) :
    Relayed aead start b total side (self.run aead calls) := by
  induction calls generalizing self with
  | nil => exact h
  | cons call calls ih =>
    have hcall := h.call call
    unfold KtpEncryptedTcpFrameRelay.run
    rcases heq : self.call aead call with ⟨_ | _, self'⟩ <;> rw [heq] at hcall
    · exact hcall
    · exact ih hcall

/-- A relay that has forwarded nothing yet. -/
theorem relaying_new {left right : KtpEncryptedStream} {key : KtpCryptoKey}
    {d d' : KtpCryptoDirection} {m b' : ℕ} {incoming : List ReadResult} {e : KtpTcpTransportError}
    (hwf : ((new left right).stream side).codec.Wf b)
    (htotal : Singly aead ((new left right).stream side) total e)
    (htarget : (new left right).stream side.other = .fromIo incoming key d d' m b') :
    Relaying aead (.new key d) b total side (new left right) := by
  refine ⟨[], total, e, rfl, ?_, htotal, hwf, by cases side <;> rfl⟩
  rw [htarget]
  exact written_fromIo aead incoming key d d' m b'

end Runs

/-- **The relay is transparent, in both directions.** One party has sent frames, the relay has
received a part of their records in any chunking, and it makes any calls, over writes that may fail
half-way, up to the first call that fails. Then the other party receives the first of these frames,
in order and unchanged, however the stream to it is cut. If no call has failed and the party can
read all that was written, it receives as many frames as the statistics count. -/
theorem relay_transparent {aead : Aead} (hc : aead.Correct) {side : RelaySide}
    {left right : KtpEncryptedStream} {key key' : KtpCryptoKey} {d d' c c' : KtpCryptoDirection}
    {incoming incoming' : List ReadResult} {m b m' b' m₂ b₂ : ℕ}
    (hsource : (KtpEncryptedTcpFrameRelay.new left right).stream side =
      .fromIo incoming key d' d m b)
    (htarget : (KtpEncryptedTcpFrameRelay.new left right).stream side.other =
      .fromIo incoming' key' c c' m' b')
    {sent : List KtpFrame} {records : List (List UInt8)} {sealer : KtpCryptoSeal}
    (hsent : (KtpCryptoSeal.new key d).sealFrames aead sent = (.ok records, sealer))
    (hincoming : incomingBytes incoming <+: records.flatten)
    (hm : ∀ frame ∈ sent, frame.payload.length ≤ min m m₂) (calls : List RelayCall)
    {chunks : List Chunk}
    (hchunks : chunkBytes chunks <+:
      (((KtpEncryptedTcpFrameRelay.new left right).run aead calls).2.stream side.other).written)
    {received : List KtpFrame} {e : KtpTcpTransportError}
    (hreceived : Singly aead (.fromIo (reads chunks) key' c' c m₂ b₂) received e) :
    received <+: sent ∧
    (((KtpEncryptedTcpFrameRelay.new left right).run aead calls).1 = .ok () →
      chunkBytes chunks =
        (((KtpEncryptedTcpFrameRelay.new left right).run aead calls).2.stream side.other).written →
      Fits b₂ ((sent.take
        (((KtpEncryptedTcpFrameRelay.new left right).run aead calls).2.forwarded side)).map
          fun frame => frame.payload.length + 64) →
      received = sent.take
        (((KtpEncryptedTcpFrameRelay.new left right).run aead calls).2.forwarded side)) := by
  have hwf : ((KtpEncryptedTcpFrameRelay.new left right).stream side).codec.Wf b := by
    rw [hsource]
    exact KtpCryptoRecordCodec.wf_new key d m b
  -- what the relay can read at all is the first part of what was sent
  obtain ⟨total, e', htotal⟩ := exists_singly aead hwf
  have hread : total <+: sent := by
    rw [hsource] at htotal
    exact htotal.isPrefix_of_fromIo hc hsent
      (fun frame hmem => (hm frame hmem).trans (min_le_left _ _)) hincoming
  have hm₂ : ∀ frame ∈ total, frame.payload.length ≤ m₂ := fun frame hmem =>
    (hm frame (hread.subset hmem)).trans (min_le_right _ _)
  have hm₂' : ∀ frame ∈ total, frame.Accepted → frame.payload.length ≤ m₂ := fun frame hmem _ =>
    hm₂ frame hmem
  have hrun := (relaying_new hwf htotal htarget).run calls
  rcases heq : (KtpEncryptedTcpFrameRelay.new left right).run aead calls with ⟨_ | _, self⟩ <;>
    rw [heq] at hrun hchunks
  · refine ⟨(BrokenOff.received hc hrun hm₂' hchunks hreceived).trans hread, ?_⟩
    intro hok
    cases hok
  · refine ⟨(BrokenOff.received hc hrun.brokenOff hm₂' hchunks hreceived).trans hread, ?_⟩
    intro _ hall hfits
    obtain ⟨forwarded, rest, e'', rfl, ⟨records', hsealed, hwritten⟩, -, -, hcount⟩ := hrun
    have htake : sent.take (self.forwarded side) = forwarded := by
      rw [hcount]
      exact (List.prefix_iff_eq_take.mp ((List.prefix_append ..).trans hread)).symm
    rw [htake] at hfits ⊢
    have hdelivered := (delivers_iff_fits hc hsealed
      (fun frame hmem => hm₂ frame (List.mem_append_left _ hmem)) b₂ c').mpr hfits chunks
      (hall.trans hwritten)
    exact (hreceived.unique hdelivered).1

/-- The record of a ping, from the left party to the relay or from the relay to the right one. -/
def pingRecord (direction : KtpCryptoDirection) : List UInt8 :=
  cryptoHeaderBytes direction 0 41 ++ frameBytes (.connection .ping [7]) ++ List.replicate 16 0

def pingChunk (direction : KtpCryptoDirection) : Chunk where
  bytes := pingRecord direction
  pos := by cases direction <;> decide
  le := by cases direction <;> decide

/-- The stream of the right party, which receives one record. -/
def pingReader : KtpEncryptedStream :=
  .fromIo (reads [pingChunk .relayToClient]) ⟨Vector.replicate 32 0⟩ .clientToRelay .relayToClient
    16 1024

/-- A ping is relayed from the left party to the right one. -/
theorem relay_transparent_ping :
    ∃ received e, Singly clearAead pingReader received e ∧
      received <+: [.connection .ping [7]] ∧ received = [.connection .ping [7]] := by
  have hwf : pingReader.codec.Wf 1024 := KtpCryptoRecordCodec.wf_new ..
  obtain ⟨received, e, hreceived⟩ := exists_singly clearAead hwf
  have htransparent := @relay_transparent clearAead clearAead_correct .left
    (relayStream [.data (pingChunk .clientToRelay)])
    (.fromIo [] ⟨Vector.replicate 32 0⟩ .relayToClient .clientToRelay 16 1024) _ _ _ _ _ _ _ _ _ _ _
    _ 16 1024 rfl rfl [.connection .ping [7]] [pingRecord .clientToRelay]
    ⟨⟨Vector.replicate 32 0⟩, .clientToRelay, 1⟩ (by decide +kernel) (by decide +kernel) (by decide)
    [.nextLeftToRight .complete] [pingChunk .relayToClient] (by decide +kernel) _ _ hreceived
  refine ⟨received, e, hreceived, htransparent.1, ?_⟩
  exact htransparent.2 (by decide +kernel) (by decide +kernel) (by decide +kernel)

end KeliAgent
