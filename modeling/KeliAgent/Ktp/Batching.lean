import KeliAgent.Ktp.EncryptedStream

/-!
# Batched reading

`next_frames` and `next_frames_into` read up to a number of frames in one call. They are compared
with `next_frame` on the same stream.

* `Batched`: the frames delivered by successive batch calls, up to and including the one that fails.
* `BadBehindGood`: the bytes a call decodes hold a good record and then, within the batch, a bad
  one.
* **`batched_eq_singly_iff`**: the batch calls deliver what `next_frame` delivers if and only if
  no `next_frames` call is made in such a state. There `next_frames` fails and drops the good
  frames, while `next_frames_into` leaves them in the caller's vector.
-/

namespace KeliAgent

open Wire

/-- A batch call, of at least one frame. -/
inductive BatchCall where
  | nextFrames (maxFrames : ℕ+)
  | nextFramesInto (maxFrames : ℕ+)

/-- The call's result, the frames it hands to the caller, and the stream after it. -/
def BatchCall.run (aead : Aead) (st : KtpEncryptedStream) :
    BatchCall → Except KtpTcpTransportError Unit × List KtpFrame × KtpEncryptedStream
  | .nextFrames n => match st.nextFrames aead n with
    | (.error e, st') => (.error e, [], st')
    | (.ok frames, st') => (.ok (), frames, st')
  | .nextFramesInto n => match st.nextFramesInto aead n with
    | (.error e, frames, st') => (.error e, frames, st')
    | (.ok _, frames, st') => (.ok (), frames, st')

/-- `Batched aead st calls frames e`: of the successive `calls` only the last one fails, with `e`,
and all of them together deliver `frames`. -/
inductive Batched (aead : Aead) :
    KtpEncryptedStream → List BatchCall → List KtpFrame → KtpTcpTransportError → Prop
  | fail {st st' call fs e} (h : call.run aead st = (.error e, fs, st')) :
    Batched aead st [call] fs e
  | deliver {st st' call calls fs gs e} (h : call.run aead st = (.ok (), fs, st'))
    (hs : Batched aead st' calls gs e) : Batched aead st (call :: calls) (fs ++ gs) e

/-- When enough is received for an answer, the first `n` records received start with a good one
and contain a bad one. -/
def BadBehindGood (aead : Aead) (st : KtpEncryptedStream) (n : ℕ) : Prop :=
  match fill aead st.incoming st.codec with
  | (.ok (), codec, _) =>
    let parsed := (recordParser aead codec.maxBufferLen).parse n codec.opener codec.unread
    parsed.items ≠ [] ∧ parsed.error.isSome
  | (.error _, _, _) => False

/-- A call that loses frames: `next_frames` over a bad record behind a good one. -/
def BatchCall.Drops (aead : Aead) (st : KtpEncryptedStream) : BatchCall → Prop
  | .nextFrames n => BadBehindGood aead st n
  | .nextFramesInto _ => False

/-- None of the successive calls loses frames. -/
def NoDrops (aead : Aead) : KtpEncryptedStream → List BatchCall → Prop
  | _, [] => True
  | st, call :: calls => ¬ call.Drops aead st ∧ NoDrops aead (call.run aead st).2.2 calls

section Batch

variable {aead : Aead} {b : ℕ}

theorem nextFrame_of_poll (st : KtpEncryptedStream) {codec codec' : KtpCryptoRecordCodec}
    (r : List ReadResult) {f : KtpFrame} (h : codec.nextFrame aead = (.ok (some f), codec')) :
    (st.reading codec r).nextFrame aead = (.ok f, st.reading codec' r) := by
  simp only [KtpEncryptedStream.nextFrame, KtpEncryptedStream.reading]
  rw [KtpEncryptedStream.nextFrameLoop, h]

theorem nextFrame_of_poll_error (st : KtpEncryptedStream) {codec codec' : KtpCryptoRecordCodec}
    (r : List ReadResult) {e : KtpCryptoError} (h : codec.nextFrame aead = (.error e, codec')) :
    (st.reading codec r).nextFrame aead = (.error (.crypto e), st.reading codec' r) := by
  simp only [KtpEncryptedStream.nextFrame, KtpEncryptedStream.reading]
  rw [KtpEncryptedStream.nextFrameLoop, h]

/-- The codec's batch loop parses at most `n` records, and `next_frame` delivers the same frames
one by one. -/
theorem nextFramesLoop_spec (aead : Aead) (n : ℕ) {codec : KtpCryptoRecordCodec} (hc : codec.Wf b)
    (acc : List KtpFrame) :
    let p := (recordParser aead b).parse n codec.opener codec.unread
    ∃ codec', codec'.Wf b ∧
      codec.nextFramesLoop aead n acc = (match p.error with
        | some e => .error e
        | none => .ok (acc ++ p.items).length, acc ++ p.items, codec') ∧
      ∀ (st : KtpEncryptedStream) r,
        (∀ e, p.error = some e → Singly aead (st.reading codec r) p.items (.crypto e)) ∧
        (p.error = none → ∀ fs e, Singly aead (st.reading codec' r) fs e →
          Singly aead (st.reading codec r) (p.items ++ fs) e) := by
  induction n generalizing codec acc with
  | zero =>
    refine ⟨codec, hc, ?_, fun st r => ⟨?_, ?_⟩⟩
    · simp [KtpCryptoRecordCodec.nextFramesLoop, Parser.parse]
    · simp [Parser.parse]
    · intro _ fs e h
      exact h
  | succ n ih =>
    rw [KtpCryptoRecordCodec.nextFramesLoop, Parser.parse]
    have hnext : (recordParser aead b).next = recordNext aead b := rfl
    rw [hnext]
    rcases poll_cases aead hc with ⟨hn, hp⟩ | ⟨e, hn, hp⟩ | ⟨f, m, c', hn, hp, hc', hu, -⟩
    · rw [hn, hp]
      exact ⟨codec, hc, by simp, fun st r => ⟨by simp, fun _ fs e h => h⟩⟩
    · rw [hn, hp]
      refine ⟨codec, hc, by simp, fun st r => ⟨fun e' he => ?_, by simp⟩⟩
      cases he
      exact .fail (nextFrame_of_poll_error st r hp)
    · rw [hn, hp]
      obtain ⟨codec', hwf, hloop, hs⟩ := ih hc' (acc ++ [f])
      rw [hu] at hloop hs
      have hone := fun (st : KtpEncryptedStream) r => nextFrame_of_poll st r hp
      simp only [Parsed.prepend]
      rw [← List.append_assoc acc]
      exact ⟨codec', hwf, hloop, fun st r => ⟨fun e he => .deliver (hone st r) ((hs st r).1 e he),
        fun he fs e h => .deliver (hone st r) ((hs st r).2 he fs e h)⟩⟩

/-- A codec that has an answer parses at least one record, or fails. -/
theorem parse_ne_nil {codec : KtpCryptoRecordCodec} (hc : codec.Wf b)
    (hne : (codec.nextFrame aead).1 ≠ .ok none) (n : ℕ)
    (he : ((recordParser aead b).parse (n + 1) codec.opener codec.unread).error = none) :
    ((recordParser aead b).parse (n + 1) codec.opener codec.unread).items ≠ [] := by
  rw [Parser.parse, show (recordParser aead b).next = recordNext aead b from rfl] at he ⊢
  rcases poll_cases aead hc with ⟨hn, hp⟩ | ⟨e, hn, hp⟩ | ⟨f, m, c', hn, -⟩
  · rw [hp] at hne; exact absurd rfl hne
  · rw [hn] at he; cases he
  · rw [hn]; simp [Parsed.prepend]

/-- **A batch call compared with single calls.** -/
theorem nextFramesInto_cases (aead : Aead) {st : KtpEncryptedStream} (hc : st.codec.Wf b)
    (n : ℕ+) :
    (∃ items e st', st.nextFramesInto aead n = (.error e, items, st') ∧ Singly aead st items e ∧
      (BadBehindGood aead st n ↔ items ≠ [])) ∨
    ∃ items st', st.nextFramesInto aead n = (.ok items.length, items, st') ∧ st'.codec.Wf b ∧
      ¬ BadBehindGood aead st n ∧
      ∀ fs e, Singly aead st' fs e → Singly aead st (items ++ fs) e := by
  obtain ⟨k, hk⟩ : ∃ k, (n : ℕ) = k + 1 := ⟨n.natPred, n.natPred_add_one.symm⟩
  have hn : (n : ℕ) ≠ 0 := n.ne_zero
  unfold BadBehindGood KtpEncryptedStream.nextFramesInto
  rw [if_neg hn, hk]
  rcases h : fill aead st.incoming st.codec with ⟨e | u, codec', incoming'⟩
  · obtain ⟨h₁, h₂⟩ := fill_error hc h
    have hfail : st.nextFrame aead = (.error e, st.reading codec' incoming') := by
      rw [KtpEncryptedStream.nextFrame, h₁]
    refine Or.inl ⟨[], e, st.reading codec' incoming', ?_, .fail hfail, by simp⟩
    rw [h₂]
  obtain ⟨hwf, hne, -, h₁, h₂⟩ := fill_ok hc h
  obtain ⟨codec'', hwf', hloop, hs⟩ := nextFramesLoop_spec aead (k + 1) hwf []
  have hsame : ∀ fs e, Singly aead (st.reading codec' incoming') fs e → Singly aead st fs e := by
    intro fs e hs'
    refine hs'.of_nextFrame_eq ?_
    simp only [KtpEncryptedStream.nextFrame, KtpEncryptedStream.reading, h₁]
  rw [h₂, KtpEncryptedStream.nextFramesIntoLoop, KtpCryptoRecordCodec.nextFramesInto, hloop]
  simp only [hwf.maxBufferLen]
  set p := (recordParser aead b).parse (k + 1) codec'.opener codec'.unread with hp
  cases he : p.error with
  | some e =>
    refine Or.inl ⟨p.items, .crypto e, st.reading codec'' incoming', rfl, ?_, by simp⟩
    exact hsame _ _ ((hs st incoming').1 e he)
  | none =>
    have hitems : p.items ≠ [] := parse_ne_nil hwf hne k he
    refine Or.inr ⟨p.items, st.reading codec'' incoming', ?_, hwf', by simp, fun fs e h => ?_⟩
    · simp [List.length_pos_iff, hitems]
    · exact hsame _ _ ((hs st incoming').2 he fs e h)

/-- The frames of a call and of single calls, for any state of the stream. -/
theorem Batched.eq_singly_iff {st : KtpEncryptedStream} {calls : List BatchCall}
    {gs : List KtpFrame} {e : KtpTcpTransportError} (h : Batched aead st calls gs e)
    (hc : st.codec.Wf b) : ∃ fs, Singly aead st fs e ∧ (gs = fs ↔ NoDrops aead st calls) := by
  induction h with
  | @fail st st' call fs e h =>
    cases call with
    | nextFrames n =>
      rcases nextFramesInto_cases aead hc n with ⟨items, e', st'', hr, hs, hbad⟩ | ⟨items, st'', hr, -⟩
      · simp only [BatchCall.run, KtpEncryptedStream.nextFrames, hr] at h
        cases h
        refine ⟨items, hs, ?_⟩
        simp only [NoDrops, BatchCall.Drops, hbad, not_not, and_true]
        exact eq_comm
      · simp only [BatchCall.run, KtpEncryptedStream.nextFrames, hr] at h
        cases h
    | nextFramesInto n =>
      rcases nextFramesInto_cases aead hc n with ⟨items, e', st'', hr, hs, -⟩ | ⟨items, st'', hr, -⟩
      · simp only [BatchCall.run, hr] at h
        cases h
        exact ⟨fs, hs, by simp [NoDrops, BatchCall.Drops]⟩
      · simp only [BatchCall.run, hr] at h
        cases h
  | @deliver st st' call calls fs gs e h _ ih =>
    have key : st'.codec.Wf b ∧ ¬ call.Drops aead st ∧
        ∀ gs' e, Singly aead st' gs' e → Singly aead st (fs ++ gs') e := by
      cases call with
      | nextFrames n =>
        rcases nextFramesInto_cases aead hc n with
          ⟨items, e', st'', hr, -⟩ | ⟨items, st'', hr, hwf, hbad, hs⟩
        · simp only [BatchCall.run, KtpEncryptedStream.nextFrames, hr] at h
          cases h
        · simp only [BatchCall.run, KtpEncryptedStream.nextFrames, hr] at h
          cases h
          exact ⟨hwf, hbad, hs⟩
      | nextFramesInto n =>
        rcases nextFramesInto_cases aead hc n with
          ⟨items, e', st'', hr, -⟩ | ⟨items, st'', hr, hwf, -, hs⟩
        · simp only [BatchCall.run, hr] at h
          cases h
        · simp only [BatchCall.run, hr] at h
          cases h
          exact ⟨hwf, not_false, hs⟩
    obtain ⟨hwf, hdrop, hs⟩ := key
    obtain ⟨gs', hs', hiff⟩ := ih hwf
    refine ⟨fs ++ gs', hs gs' e hs', ?_⟩
    simp only [NoDrops, h, hdrop, not_false_eq_true, true_and, ← hiff, List.append_cancel_left_eq]

end Batch

/-- **Batched reading against reading one frame at a time.** On every incoming stream, when of the
successive batch calls the last one fails, they have delivered what `next_frame` delivers before it
fails (with the same error) if and only if no `next_frames` call met a bad record behind a good one
in the bytes it decoded. -/
theorem batched_eq_singly_iff (aead : Aead) (incoming : List ReadResult) (key : KtpCryptoKey)
    (sealDirection openDirection : KtpCryptoDirection) (m b : ℕ) {calls : List BatchCall}
    {gs : List KtpFrame} {e : KtpTcpTransportError}
    (h : Batched aead (.fromIo incoming key sealDirection openDirection m b) calls gs e) :
    ∃ fs, Singly aead (.fromIo incoming key sealDirection openDirection m b) fs e ∧
      (gs = fs ↔
        NoDrops aead (.fromIo incoming key sealDirection openDirection m b) calls) :=
  h.eq_singly_iff (KtpCryptoRecordCodec.wf_new key openDirection m b)

/-- A stream of one read: the record of a ping, and 24 zero bytes. -/
def pingThenZeros : KtpEncryptedStream :=
  .fromIo
    [.data ⟨cryptoHeaderBytes .relayToClient 0 41 ++ frameBytes (.connection .ping [7]) ++
      List.replicate 16 0 ++ List.replicate 24 0, by decide, by decide⟩]
    ⟨Vector.replicate 32 0⟩ .clientToRelay .relayToClient 16 200

/-- On a ping followed by zeros `next_frame` delivers the ping, but `next_frames` of two frames
fails and delivers nothing. -/
theorem nextFrames_drops_ping :
    Singly clearAead pingThenZeros [.connection .ping [7]]
      (.crypto (.malformedRecord "wrong crypto magic")) ∧
    Batched clearAead pingThenZeros [.nextFrames 2] []
      (.crypto (.malformedRecord "wrong crypto magic")) := by
  have h₁ : (pingThenZeros.nextFrame clearAead).1 = .ok (.connection .ping [7]) := by
    decide +kernel
  have h₂ : ((pingThenZeros.nextFrame clearAead).2.nextFrame clearAead).1 =
      .error (.crypto (.malformedRecord "wrong crypto magic")) := by decide +kernel
  have h₃ : (BatchCall.run clearAead pingThenZeros (.nextFrames 2)).1 =
      .error (.crypto (.malformedRecord "wrong crypto magic")) := by decide +kernel
  have h₄ : (BatchCall.run clearAead pingThenZeros (.nextFrames 2)).2.1 = [] := by decide +kernel
  exact ⟨.deliver (Prod.ext h₁ rfl) (.fail (Prod.ext h₂ rfl)),
    .fail (Prod.ext h₃ (Prod.ext h₄ rfl))⟩

/-- `next_frames_into` of two frames on the same stream leaves the ping with its caller. -/
theorem batched_eq_singly_iff_ping :
    ∃ fs, Singly clearAead pingThenZeros fs (.crypto (.malformedRecord "wrong crypto magic")) ∧
      ([.connection .ping [7]] = fs ↔ NoDrops clearAead pingThenZeros [.nextFramesInto 2]) := by
  have h₁ : (BatchCall.run clearAead pingThenZeros (.nextFramesInto 2)).1 =
      .error (.crypto (.malformedRecord "wrong crypto magic")) := by decide +kernel
  have h₂ : (BatchCall.run clearAead pingThenZeros (.nextFramesInto 2)).2.1 =
      [.connection .ping [7]] := by decide +kernel
  exact batched_eq_singly_iff clearAead _ _ _ _ _ _ (.fail (Prod.ext h₁ (Prod.ext h₂ rfl)))

end KeliAgent
