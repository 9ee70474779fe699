import KeliAgent.Ktp.EncryptedStream

/-!
# Delivery of sealed records

When does a receiver with buffer limit `b` read all records of a stream, however the reads cut it?
It reads only while the current record is incomplete, so just before a push up to one byte less
than that record is unread, and a read adds up to 16 KiB of what is still to come.

* `Fits b lengths`: for every record, the smaller of its length plus 16383 and of all that is left
  from its first byte on is at most `b`.
* `singly_of_fits`: then every chunking is delivered.
* `fits_of_singly`: the condition is needed. The chunking that shows it for one record reads byte by
  byte up to the record's last byte and then as much as possible.
* **`delivers_iff_fits`**: both together.
-/

namespace KeliAgent

open Wire

/-- The records, by their lengths, that a receiver with buffer limit `b` can read in any
chunking. -/
def Fits (b : ℕ) : List ℕ → Prop
  | [] => True
  | r :: rs => min (r + (ktpReadBufferLen - 1)) (r :: rs).sum ≤ b ∧ Fits b rs

instance decidableFits (b : ℕ) : ∀ rs, Decidable (Fits b rs)
  | [] => isTrue trivial
  | r :: rs =>
    have := decidableFits b rs
    inferInstanceAs (Decidable (min (r + (ktpReadBufferLen - 1)) (r :: rs).sum ≤ b ∧ Fits b rs))

/-- The reads that return the given chunks. -/
def reads (chunks : List Chunk) : List ReadResult := chunks.map .data

@[simp] theorem reads_cons (chunk : Chunk) (chunks : List Chunk) :
    reads (chunk :: chunks) = .data chunk :: reads chunks := rfl

theorem reads_append (chunks chunks' : List Chunk) :
    reads (chunks ++ chunks') = reads chunks ++ reads chunks' := List.map_append

/-- The bytes of chunks. -/
def chunkBytes (chunks : List Chunk) : List UInt8 := (chunks.map Chunk.bytes).flatten

@[simp] theorem chunkBytes_cons (chunk : Chunk) (chunks : List Chunk) :
    chunkBytes (chunk :: chunks) = chunk.bytes ++ chunkBytes chunks := rfl

theorem chunkBytes_append (chunks chunks' : List Chunk) :
    chunkBytes (chunks ++ chunks') = chunkBytes chunks ++ chunkBytes chunks' := by
  simp only [chunkBytes, List.map_append, List.flatten_append]

theorem incomingBytes_reads (chunks : List Chunk) :
    incomingBytes (reads chunks) = chunkBytes chunks := by
  induction chunks with
  | nil => rfl
  | cons chunk chunks ih =>
    rw [reads_cons, incomingBytes, ih, chunkBytes_cons]

/-- Chunks without bytes are none. -/
theorem eq_nil_of_chunkBytes {chunks : List Chunk} (h : chunkBytes chunks = []) : chunks = [] := by
  cases chunks with
  | nil => rfl
  | cons chunk chunks =>
    have hpos := chunk.pos
    rw [chunkBytes_cons, List.append_eq_nil_iff] at h
    rw [h.1] at hpos
    cases hpos

/-- What is received of a record, or of the record and more. -/
theorem incomplete_or_complete {received coming record rest : List UInt8}
    (h : received ++ coming = record ++ rest) :
    (∃ more, more ≠ [] ∧ received ++ more = record) ∨
    ∃ tail, received = record ++ tail ∧ tail ++ coming = rest := by
  rcases List.append_eq_append_iff.mp h with ⟨more, hrec, hmore⟩ | ⟨tail, hu, hrest⟩
  · by_cases hne : more = []
    · subst hne
      rw [List.append_nil] at hrec
      exact Or.inr ⟨[], by rw [hrec, List.append_nil], hmore⟩
    · exact Or.inl ⟨more, hne, hrec.symm⟩
  · exact Or.inr ⟨tail, hu, hrest.symm⟩

section Record

variable {aead : Aead} {b : ℕ} {sealer sealer' : KtpCryptoSeal} {frame : KtpFrame}
  {record : List UInt8} {codec : KtpCryptoRecordCodec}

/-- A record that is not complete yet: the codec asks for more. -/
theorem recordNext_incomplete {o : KtpCryptoOpen} (hc : aead.Correct)
    (hs : sealer.sealFrame aead frame = (.ok record, sealer')) (hf : o.Follows sealer)
    (hm : frame.payload.length ≤ o.maxPayloadLen) (hb : record.length ≤ b) {bytes more : List UInt8}
    (hbytes : bytes ++ more = record) (hlt : bytes.length < record.length) :
    recordNext aead b o bytes = .more := by
  by_contra hne
  have h := recordNext_append hne more
  have hemit := recordNext_sealed hc hs hf hm hb []
  rw [List.append_nil, ← hbytes, h] at hemit
  have := (recordNext_emit hemit).2.1
  rw [hbytes] at this
  omega

theorem poll_incomplete (hc : aead.Correct)
    (hs : sealer.sealFrame aead frame = (.ok record, sealer')) (hwf : codec.Wf b)
    (hf : codec.opener.Follows sealer) (hm : frame.payload.length ≤ codec.opener.maxPayloadLen)
    (hb : record.length ≤ b) {more : List UInt8} (hbytes : codec.unread ++ more = record)
    (hne : more ≠ []) : codec.nextFrame aead = (.ok none, codec) := by
  have hlt : codec.unread.length < record.length := by
    rw [← hbytes, List.length_append]
    have := List.length_pos_iff.mpr hne
    omega
  rw [KtpCryptoRecordCodec.nextFrame_eq hwf, recordNext_incomplete hc hs hf hm hb hbytes hlt]

/-- A complete record is taken out of the codec. -/
theorem poll_complete (hc : aead.Correct)
    (hs : sealer.sealFrame aead frame = (.ok record, sealer')) (hwf : codec.Wf b)
    (hf : codec.opener.Follows sealer) (hm : frame.payload.length ≤ codec.opener.maxPayloadLen)
    (hb : record.length ≤ b) (rest : List UInt8) (hbytes : codec.unread = record ++ rest) :
    ∃ codec', codec.nextFrame aead = (.ok (some frame), codec') ∧ codec'.Wf b ∧
      codec'.unread = rest ∧
      codec'.opener = { codec.opener with nextSequence := codec.opener.nextSequence + 1 } := by
  have hemit := recordNext_sealed hc hs hf hm hb rest
  rw [← hbytes] at hemit
  rcases poll_cases aead hwf with ⟨hn, -⟩ | ⟨e, hn, -⟩ | ⟨f, n, codec', hn, hp, hwf', hu, -⟩
  · rw [hemit] at hn; cases hn
  · rw [hemit] at hn; cases hn
  · rw [hemit] at hn
    obtain ⟨rfl, rfl, ho⟩ := Poll.emit.inj hn
    exact ⟨codec', hp, hwf', by rw [hu, hbytes, List.drop_left], ho.symm⟩

/-- **A record that fits is delivered**, however it is cut. -/
theorem nextFrameLoop_delivers (hc : aead.Correct)
    (hs : sealer.sealFrame aead frame = (.ok record, sealer')) (hwf : codec.Wf b)
    (hf : codec.opener.Follows sealer) (hm : frame.payload.length ≤ codec.opener.maxPayloadLen)
    {rest : List UInt8} {chunks : List Chunk}
    (hbytes : codec.unread ++ chunkBytes chunks = record ++ rest)
    (hfit : min (record.length + (ktpReadBufferLen - 1)) (record.length + rest.length) ≤ b) :
    ∃ codec' chunks', KtpEncryptedStream.nextFrameLoop aead (reads chunks) codec =
        (.ok frame, codec', reads chunks') ∧ codec'.Wf b ∧
      codec'.unread ++ chunkBytes chunks' = rest ∧
      codec'.opener = { codec.opener with nextSequence := codec.opener.nextSequence + 1 } := by
  have hb : record.length ≤ b := by omega
  induction chunks generalizing codec with
  | nil =>
    obtain ⟨codec', hp, hwf', hu, ho⟩ := poll_complete hc hs hwf hf hm hb rest (by
      rw [← hbytes]; exact (List.append_nil _).symm)
    refine ⟨codec', [], ?_, hwf', by rw [hu]; exact List.append_nil _, ho⟩
    rw [KtpEncryptedStream.nextFrameLoop, hp]
  | cons chunk chunks ih =>
    rcases incomplete_or_complete hbytes with ⟨more, hne, hrec⟩ | ⟨tail, hu, hrest⟩
    · -- the next chunk is read, and fits
      have hp := poll_incomplete hc hs hwf hf hm hb hrec hne
      have hlen := congrArg List.length hbytes
      have hlen' := congrArg List.length hrec
      have hpos := List.length_pos_iff.mpr hne
      have hle := chunk.le
      simp only [List.length_append, chunkBytes_cons] at hlen hlen'
      unfold ktpReadBufferLen at hle hfit
      rcases push_cases hwf chunk.bytes with ⟨hover, -⟩ | ⟨-, codec₁, hpush, hwf₁, hu₁, ho₁⟩
      · omega
      obtain ⟨codec', chunks', h₁, h₂, h₃, h₄⟩ := ih hwf₁ (ho₁ ▸ hf) (ho₁ ▸ hm)
        (by rw [hu₁, List.append_assoc, ← chunkBytes_cons, hbytes])
      refine ⟨codec', chunks', ?_, h₂, h₃, ho₁ ▸ h₄⟩
      rw [reads_cons, KtpEncryptedStream.nextFrameLoop, hp]
      simp only [hpush]
      exact h₁
    · obtain ⟨codec', hp, hwf', hu', ho⟩ := poll_complete hc hs hwf hf hm hb tail hu
      refine ⟨codec', chunk :: chunks, ?_, hwf', by rw [hu', hrest], ho⟩
      rw [KtpEncryptedStream.nextFrameLoop, hp]

/-- **All records that fit are delivered**, and then the stream is at its end. -/
theorem singly_of_fits (hc : aead.Correct) {frames : List KtpFrame} {records : List (List UInt8)}
    (hs : sealer.sealFrames aead frames = (.ok records, sealer')) (hwf : codec.Wf b)
    (hf : codec.opener.Follows sealer)
    (hm : ∀ frame ∈ frames, frame.payload.length ≤ codec.opener.maxPayloadLen)
    (hfit : Fits b (records.map List.length)) {chunks : List Chunk}
    (hbytes : codec.unread ++ chunkBytes chunks = records.flatten) (st : KtpEncryptedStream) :
    Singly aead (st.reading codec (reads chunks)) frames .closed := by
  induction frames generalizing sealer records codec chunks with
  | nil =>
    cases hs
    obtain ⟨hu, hchunks⟩ := List.append_eq_nil_iff.mp hbytes
    have hp : codec.nextFrame aead = (.ok none, codec) := by
      rw [KtpCryptoRecordCodec.nextFrame_eq hwf, hu]
      rfl
    have hclosed : (st.reading codec (reads chunks)).nextFrame aead =
        (.error .closed, st.reading codec []) := by
      rw [eq_nil_of_chunkBytes hchunks]
      simp only [KtpEncryptedStream.nextFrame, KtpEncryptedStream.reading]
      rw [KtpEncryptedStream.nextFrameLoop, hp]
      rfl
    exact .fail hclosed
  | cons frame frames ih =>
    obtain ⟨record, sealer₁, records', h₁, h₂, rfl⟩ := KtpCryptoSeal.sealFrames_cons hs
    obtain ⟨hfit₁, hfit₂⟩ := hfit
    obtain ⟨-, -, hseal, -⟩ := KtpCryptoSeal.sealFrame_ok h₁
    obtain ⟨codec', chunks', hloop, hwf', hu', ho'⟩ := nextFrameLoop_delivers hc h₁ hwf hf
      (hm frame (List.mem_cons_self ..)) hbytes
      (by rw [List.length_flatten, ← List.sum_cons]; exact hfit₁)
    have hf' : codec'.opener.Follows sealer₁ := by
      rw [ho', hseal]
      exact ⟨hf.key, hf.direction, by rw [hf.sequence]⟩
    have hnext : (st.reading codec (reads chunks)).nextFrame aead =
        (.ok frame, st.reading codec' (reads chunks')) := by
      simp only [KtpEncryptedStream.nextFrame, KtpEncryptedStream.reading, hloop]
    refine .deliver hnext (ih h₂ hwf' hf' (fun f hmem => ?_) hfit₂ hu')
    rw [ho']
    exact hm f (List.mem_cons_of_mem _ hmem)

/-! ## The condition is needed -/

/-- One read for every byte. -/
def singles (bytes : List UInt8) : List Chunk :=
  bytes.map fun byte => ⟨[byte], Nat.one_pos, by unfold ktpReadBufferLen; simp⟩

theorem chunkBytes_singles (bytes : List UInt8) : chunkBytes (singles bytes) = bytes := by
  induction bytes with
  | nil => rfl
  | cons byte bytes ih =>
    rw [singles, List.map_cons, chunkBytes_cons, ← singles, ih]
    rfl

/-- Byte by byte, a record that the buffer can hold is read up to any point. -/
theorem nextFrameLoop_singles (hc : aead.Correct)
    (hs : sealer.sealFrame aead frame = (.ok record, sealer')) (hwf : codec.Wf b)
    (hf : codec.opener.Follows sealer) (hm : frame.payload.length ≤ codec.opener.maxPayloadLen)
    (hb : record.length ≤ b) (bytes more : List UInt8)
    (hbytes : codec.unread ++ (bytes ++ more) = record) :
    ∃ codec', codec'.Wf b ∧ codec'.unread = codec.unread ++ bytes ∧
      codec'.opener = codec.opener ∧
      ∀ incoming, KtpEncryptedStream.nextFrameLoop aead (reads (singles bytes) ++ incoming) codec =
        KtpEncryptedStream.nextFrameLoop aead incoming codec' := by
  induction bytes generalizing codec with
  | nil => exact ⟨codec, hwf, (List.append_nil _).symm, rfl, fun _ => rfl⟩
  | cons byte bytes ih =>
    have hp := poll_incomplete hc hs hwf hf hm hb hbytes (List.cons_ne_nil _ _)
    have hlen := congrArg List.length hbytes
    simp only [List.length_append, List.length_cons] at hlen
    rcases push_cases hwf [byte] with ⟨hover, -⟩ | ⟨-, codec₁, hpush, hwf₁, hu₁, ho₁⟩
    · simp only [List.length_singleton] at hover
      omega
    obtain ⟨codec', h₁, h₂, h₃, h₄⟩ := ih hwf₁ (ho₁ ▸ hf) (ho₁ ▸ hm)
      (by rw [hu₁, List.append_assoc]; exact hbytes)
    refine ⟨codec', h₁, by rw [h₂, hu₁, List.append_assoc]; rfl, h₃.trans ho₁, fun incoming => ?_⟩
    rw [singles, List.map_cons, reads_cons, List.cons_append, KtpEncryptedStream.nextFrameLoop, hp]
    simp only [hpush]
    exact h₄ incoming

/-- A delivered frame is the first one of all bytes received and still to come. -/
theorem recordNext_of_nextFrameLoop (hwf : codec.Wf b) {incoming incoming' : List ReadResult}
    {codec' : KtpCryptoRecordCodec}
    (h : KtpEncryptedStream.nextFrameLoop aead incoming codec = (.ok frame, codec', incoming')) :
    ∃ n o, recordNext aead b codec.opener (codec.unread ++ incomingBytes incoming) =
      .emit frame n o := by
  rcases hfill : fill aead incoming codec with ⟨e | u, c, r⟩
  · rw [(fill_error hwf hfill).1] at h
    cases h
  obtain ⟨hwf', hne, ⟨hbytes, ho⟩, hloop, -⟩ := fill_ok hwf hfill
  rw [hloop, KtpEncryptedStream.nextFrameLoop] at h
  rcases poll_cases aead hwf' with ⟨-, hp⟩ | ⟨e, -, hp⟩ | ⟨f, n, c', hn, hp, -⟩
  · rw [hp] at hne; exact absurd rfl hne
  · rw [hp] at h; cases h
  · rw [hp] at h
    cases h
    refine ⟨n, codec'.opener, ?_⟩
    rw [← hbytes, ← ho, recordNext_append (by rw [hn]; simp), hn]

theorem length_le_of_delivered (hc : aead.Correct)
    (hs : sealer.sealFrame aead frame = (.ok record, sealer')) (hwf : codec.Wf b)
    (hf : codec.opener.Follows sealer) (hm : frame.payload.length ≤ codec.opener.maxPayloadLen)
    {incoming incoming' : List ReadResult} {codec' : KtpCryptoRecordCodec} {f : KtpFrame}
    (rest : List UInt8) (hbytes : codec.unread ++ incomingBytes incoming = record ++ rest)
    (h : KtpEncryptedStream.nextFrameLoop aead incoming codec = (.ok f, codec', incoming')) :
    record.length ≤ b := by
  obtain ⟨n, o, hemit⟩ := recordNext_of_nextFrameLoop hwf h
  obtain ⟨-, -, hn, hmono⟩ := recordNext_emit hemit
  have hmax := recordNext_sealed hc hs hf hm (le_max_right b record.length) rest
  rw [← hbytes, hmono _ (le_max_left _ _)] at hmax
  have := (Poll.emit.inj hmax).2.1
  omega

/-- The longest read of bytes that start with `byte`. -/
def longestRead (byte : UInt8) (rest : List UInt8) : Chunk where
  bytes := (byte :: rest).take ktpReadBufferLen
  pos := by
    rw [List.length_take, List.length_cons]
    unfold ktpReadBufferLen
    omega
  le := List.length_take_le _ _

/-- Byte by byte up to the last byte of a record, and then the longest read: the bound on what
the buffer must hold is reached. -/
theorem fits_of_delivered (hc : aead.Correct)
    (hs : sealer.sealFrame aead frame = (.ok record, sealer')) (hwf : codec.Wf b)
    (hempty : codec.unread = []) (hf : codec.opener.Follows sealer)
    (hm : frame.payload.length ≤ codec.opener.maxPayloadLen) (rest : List UInt8)
    (h : ∀ chunks, chunkBytes chunks = record ++ rest → ∃ codec' incoming',
      KtpEncryptedStream.nextFrameLoop aead (reads chunks) codec = (.ok frame, codec', incoming')) :
    min (record.length + (ktpReadBufferLen - 1)) (record.length + rest.length) ≤ b := by
  have hb : record.length ≤ b := by
    obtain ⟨codec', incoming', hloop⟩ := h (singles (record ++ rest)) (chunkBytes_singles _)
    refine length_le_of_delivered hc hs hwf hf hm rest ?_ hloop
    rw [hempty, incomingBytes_reads, chunkBytes_singles, List.nil_append]
  have hpos : record ≠ [] := by
    intro hnil
    have := KtpCryptoSeal.length_of_sealFrame hs
    rw [hnil, List.length_nil] at this
    omega
  obtain ⟨start, byte, rfl⟩ : ∃ start byte, record = start ++ [byte] :=
    ⟨_, _, (List.dropLast_append_getLast hpos).symm⟩
  have hrec : codec.unread ++ (start ++ [byte]) = start ++ [byte] := by
    rw [hempty, List.nil_append]
  obtain ⟨codec₁, hwf₁, hu₁, ho₁, hloop₁⟩ := nextFrameLoop_singles hc hs hwf hf hm hb start [byte] hrec
  rw [hempty, List.nil_append] at hu₁
  have hp := poll_incomplete hc hs hwf₁ (ho₁ ▸ hf) (ho₁ ▸ hm) hb (by rw [hu₁])
    (List.cons_ne_nil byte [])
  obtain ⟨codec', incoming', hloop⟩ := h
    (singles start ++ longestRead byte rest :: singles ((byte :: rest).drop ktpReadBufferLen)) (by
      rw [chunkBytes_append, chunkBytes_cons, chunkBytes_singles, chunkBytes_singles, longestRead,
        List.take_append_drop, List.append_assoc]
      rfl)
  rw [reads_append, hloop₁, reads_cons, KtpEncryptedStream.nextFrameLoop, hp] at hloop
  rcases push_cases hwf₁ (longestRead byte rest).bytes with ⟨-, e, hpush⟩ | ⟨hfit, -⟩
  · simp only [hpush] at hloop
    cases hloop
  · rw [hu₁, longestRead, List.length_take, List.length_cons] at hfit
    rw [List.length_append, List.length_singleton]
    unfold ktpReadBufferLen at hfit ⊢
    omega

/-- Byte by byte, a record that the buffer can hold is delivered and nothing stays unread. -/
theorem delivered_singles (hc : aead.Correct)
    (hs : sealer.sealFrame aead frame = (.ok record, sealer')) (hwf : codec.Wf b)
    (hempty : codec.unread = []) (hf : codec.opener.Follows sealer)
    (hm : frame.payload.length ≤ codec.opener.maxPayloadLen) (hb : record.length ≤ b) :
    ∃ codec', codec'.Wf b ∧ codec'.unread = [] ∧
      codec'.opener = { codec.opener with nextSequence := codec.opener.nextSequence + 1 } ∧
      ∀ incoming, KtpEncryptedStream.nextFrameLoop aead (reads (singles record) ++ incoming) codec =
        (.ok frame, codec', incoming) := by
  obtain ⟨codec₁, hwf₁, hu₁, ho₁, hloop₁⟩ := nextFrameLoop_singles hc hs hwf hf hm hb
    record [] (by rw [hempty, List.append_nil, List.nil_append])
  obtain ⟨codec', hp, hwf', hu', ho'⟩ := poll_complete hc hs hwf₁ (ho₁ ▸ hf) (ho₁ ▸ hm) hb
    [] (by rw [hu₁, hempty, List.nil_append, List.append_nil])
  refine ⟨codec', hwf', hu', ho₁ ▸ ho', fun incoming => ?_⟩
  rw [hloop₁, KtpEncryptedStream.nextFrameLoop, hp]

/-- **If every chunking is delivered, the records fit.** -/
theorem fits_of_singly (hc : aead.Correct) {frames : List KtpFrame} {records : List (List UInt8)}
    (hs : sealer.sealFrames aead frames = (.ok records, sealer')) (hwf : codec.Wf b)
    (hempty : codec.unread = []) (hf : codec.opener.Follows sealer)
    (hm : ∀ frame ∈ frames, frame.payload.length ≤ codec.opener.maxPayloadLen)
    (st : KtpEncryptedStream)
    (h : ∀ chunks, chunkBytes chunks = records.flatten →
      Singly aead (st.reading codec (reads chunks)) frames .closed) :
    Fits b (records.map List.length) := by
  induction frames generalizing sealer records codec with
  | nil =>
    cases hs
    exact trivial
  | cons frame frames ih =>
    obtain ⟨record, sealer₁, records', h₁, h₂, rfl⟩ := KtpCryptoSeal.sealFrames_cons hs
    have hm₁ := hm frame (List.mem_cons_self ..)
    have hfit := fits_of_delivered hc h₁ hwf hempty hf hm₁ records'.flatten
      fun chunks hchunks => by
        cases h chunks hchunks with
        | deliver hnext _ =>
          rw [KtpEncryptedStream.nextFrame] at hnext
          obtain ⟨hr, -⟩ := Prod.mk.inj hnext
          exact ⟨_, _, Prod.ext hr rfl⟩
    obtain ⟨codec', hwf', hu', ho', hloop⟩ := delivered_singles hc h₁ hwf hempty hf hm₁ (by omega)
    obtain ⟨-, -, hseal, -⟩ := KtpCryptoSeal.sealFrame_ok h₁
    have hf' : codec'.opener.Follows sealer₁ := by
      rw [ho', hseal]
      exact ⟨hf.key, hf.direction, by rw [hf.sequence]⟩
    refine ⟨by rw [List.length_flatten, ← List.sum_cons] at hfit; exact hfit,
      ih h₂ hwf' hu' hf' (fun f hmem => ?_) fun chunks hchunks => ?_⟩
    · rw [ho']
      exact hm f (List.mem_cons_of_mem _ hmem)
    · have hall := h (singles record ++ chunks) (by
        rw [chunkBytes_append, chunkBytes_singles, hchunks, List.flatten_cons])
      cases hall with
      | deliver hnext hrest =>
        simp only [KtpEncryptedStream.nextFrame, KtpEncryptedStream.reading, reads_append,
          hloop] at hnext
        obtain ⟨-, rfl⟩ := Prod.mk.inj hnext
        exact hrest

end Record

/-- **A fresh receiver delivers every chunking of sealed records if and only if they fit.** -/
theorem delivers_iff_fits {aead : Aead} (hc : aead.Correct) {key : KtpCryptoKey}
    {d : KtpCryptoDirection} {frames : List KtpFrame} {records : List (List UInt8)}
    {sealer : KtpCryptoSeal}
    (hs : (KtpCryptoSeal.new key d).sealFrames aead frames = (.ok records, sealer)) {m : ℕ}
    (hm : ∀ frame ∈ frames, frame.payload.length ≤ m) (b : ℕ) (d' : KtpCryptoDirection) :
    (∀ chunks, chunkBytes chunks = records.flatten →
      Singly aead (.fromIo (reads chunks) key d' d m b) frames .closed) ↔
      Fits b (frames.map fun frame => frame.payload.length + 64) := by
  obtain ⟨hacc, hlen⟩ := KtpCryptoSeal.sealFrames_ok hs
  have hwf := KtpCryptoRecordCodec.wf_new key d m b
  have hf : (KtpCryptoOpen.new key d m).Follows (.new key d) := ⟨rfl, rfl, rfl⟩
  have hm' : ∀ frame ∈ frames, frame.payload.length ≤ (KtpCryptoOpen.new key d m).maxPayloadLen :=
    fun frame hmem => le_min (hm frame hmem) (hacc frame hmem).2
  rw [← hlen]
  exact ⟨fits_of_singly hc hs hwf rfl hf hm' (.fromIo [] key d' d m b),
    fun hfit chunks hchunks => singly_of_fits hc hs hwf hf hm' hfit hchunks
      (.fromIo [] key d' d m b)⟩

end KeliAgent
