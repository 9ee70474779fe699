import Mathlib

/-!
# Metered pipes

Messages are sent through a bounded channel to a writer, which writes them to a stream. A counter
meters what is under way: a sender reserves the size of its message before it sends, and gives it
back if the message is refused; the writer releases it when the message is written. Several senders
may be at work at once, each between any two of its steps.

* `Stake`: what a sender or the writer has in hand between two steps.
* `Step`: one step of one of them.
* **`Inv.step`**: the counter is what the senders have reserved, what is queued and what is being
  written; it stays within the limit; and what was written is a prefix of what was sent.
-/

namespace Pipe

variable {β : Type}

/-- The counter, the messages in the channel, and whether there still is a receiver. -/
structure State (β : Type) where
  metered : ℕ
  queue : List (List β)
  isOpen : Bool

/-- What a sender or the writer has in hand. -/
inductive Stake (β : Type) where
  /-- The sender has reserved and is about to send. -/
  | sending (message : List β)
  /-- The message was refused; the sender is about to give back what it reserved. -/
  | returning (message : List β)
  /-- The writer is yet to start. -/
  | starting
  /-- The writer waits for a message. -/
  | waiting
  /-- The writer is about to write the message. -/
  | holding (message : List β)
  /-- The write has ended; the writer is about to release the message. -/
  | released (message : List β) (ok : Bool)
  /-- The writer leaves after a failed write. -/
  | stopping

namespace Stake

/-- What a sender has reserved and not yet sent. -/
def reserved : Stake β → ℕ
  | .sending message | .returning message => message.length
  | _ => 0

/-- What the writer has taken from the channel and not yet released. -/
def writing : Stake β → ℕ
  | .holding message | .released message _ => message.length
  | _ => 0

def isWriter : Stake β → Bool
  | .sending _ | .returning _ => false
  | _ => true

/-- What the writer holds and has not written, if it goes on writing. -/
def unwritten : Stake β → Option (List β)
  | .starting | .waiting | .released _ true => some []
  | .holding message => some message
  | _ => none

theorem isWriter_of_unwritten {k : Stake β} {m : List β} (h : k.unwritten = some m) :
    k.isWriter = true := by
  cases k <;> first | rfl | cases h

end Stake

/-- One step: the pipe and the stakes of the task before and after it, the messages that it sent and
the bytes that it wrote. A pipe that is not there yet has no stakes. -/
inductive Step (limit : ℕ) : Option (State β) → List (Stake β) → Option (State β) →
    List (Stake β) → List (List β) → List β → Prop
  | idle {s ks} : Step limit s ks s ks [] []
  | create : Step limit none [] (some ⟨0, [], true⟩) [.starting] [] []
  | reserve {p : State β} {message} (h : p.metered + message.length ≤ limit) :
    Step limit (some p) [] (some { p with metered := p.metered + message.length })
      [.sending message] [] []
  | send {p : State β} {message} :
    Step limit (some p) [.sending message] (some { p with queue := p.queue ++ [message] }) []
      [message] []
  | refuse {s message} : Step limit s [.sending message] s [.returning message] [] []
  | giveBack {s message} :
    Step limit s [.returning message]
      (s.map fun p => { p with metered := p.metered - message.length }) [] [] []
  | start {s} : Step limit s [.starting] s [.waiting] [] []
  | abandon {s} : Step limit s [.starting] (s.map fun p => { p with isOpen := false }) [] [] []
  | receive {p : State β} {message queue} (h : p.queue = message :: queue) :
    Step limit (some p) [.waiting] (some { p with queue := queue }) [.holding message] [] []
  | write {s message} :
    Step limit s [.holding message] s [.released message true] [] message
  | fail {s message written} (h : written <+: message) :
    Step limit s [.holding message] s [.released message false] [] written
  | release {p : State β} {message ok} :
    Step limit (some p) [.released message ok]
      (some { p with metered := p.metered - message.length })
      [if ok then .waiting else .stopping] [] []
  | stop {s} : Step limit s [.stopping] (s.map fun p => { p with isOpen := false }) [] [] []

/-- What all tasks together have under way outside the channel. -/
def inHand (ks : List (Stake β)) : ℕ := (ks.map fun k => k.reserved + k.writing).sum

/-- What is in the channel. -/
def State.queued (p : State β) : ℕ := (p.queue.map List.length).sum

@[simp] theorem inHand_nil : inHand ([] : List (Stake β)) = 0 := rfl

@[simp] theorem inHand_cons (k : Stake β) (ks : List (Stake β)) :
    inHand (k :: ks) = k.reserved + k.writing + inHand ks := by
  simp [inHand]

theorem inHand_eq (ks : List (Stake β)) :
    inHand ks = (ks.map Stake.reserved).sum + (ks.map Stake.writing).sum := by
  induction ks with
  | nil => rfl
  | cons k ks ih =>
    rw [inHand_cons, ih, List.map_cons, List.map_cons, List.sum_cons, List.sum_cons]
    omega

theorem inHand_perm {ks ks' : List (Stake β)} (h : ks.Perm ks') : inHand ks = inHand ks' :=
  (h.map _).sum_eq

/-- What holds of a pipe, all stakes in it, the messages sent and the bytes written. -/
structure Inv (limit : ℕ) (s : Option (State β)) (ks : List (Stake β)) (sent : List (List β))
    (written : List β) : Prop where
  fresh : s = none → ks = [] ∧ sent = [] ∧ written = []
  metered : ∀ p ∈ s, p.metered = inHand ks + p.queued
  bounded : ∀ p ∈ s, p.metered ≤ limit
  one : ks.countP (·.isWriter) ≤ 1
  stream : ∀ p ∈ s, ∀ k ∈ ks, ∀ m ∈ k.unwritten, sent.flatten = written ++ m ++ p.queue.flatten
  isPrefix : written <+: sent.flatten

namespace Inv

variable {limit : ℕ} {s s' : Option (State β)} {ks ks' rest : List (Stake β)}
  {sent messages : List (List β)} {written bytes : List β}

theorem empty : Inv limit (none : Option (State β)) [] [] [] :=
  ⟨fun _ => ⟨rfl, rfl, rfl⟩, nofun, nofun, Nat.zero_le _, nofun, List.prefix_rfl⟩

theorem perm (h : Inv limit s ks sent written) (hperm : ks.Perm ks') :
    Inv limit s ks' sent written where
  fresh hs := by
    obtain ⟨rfl, hsent, hwritten⟩ := h.fresh hs
    exact ⟨hperm.nil_eq.symm, hsent, hwritten⟩
  metered p hp := by rw [← inHand_perm hperm]; exact h.metered p hp
  bounded := h.bounded
  one := by rw [← hperm.countP_eq]; exact h.one
  stream p hp k hk := h.stream p hp k (hperm.mem_iff.mpr hk)
  isPrefix := h.isPrefix

/-- A release never takes more than there is. -/
theorem le_metered {p : State β} (h : Inv limit (some p) ks sent written) {k : Stake β}
    (hk : k ∈ ks) : k.reserved + k.writing ≤ p.metered := by
  rw [h.metered p rfl]
  have : k.reserved + k.writing ≤ inHand ks :=
    List.single_le_sum (fun _ _ => Nat.zero_le _) _ (List.mem_map_of_mem hk)
  omega

/-- The writer is the only one. -/
theorem unwritten_eq_none {k : Stake β} (h : Inv limit s (k :: rest) sent written)
    (hk : k.isWriter = true) : ∀ k' ∈ rest, k'.unwritten = none := by
  intro k' hk'
  have hone := h.one
  rw [List.countP_cons, if_pos hk] at hone
  have hzero : rest.countP (·.isWriter) = 0 := by omega
  cases hu : k'.unwritten with
  | none => rfl
  | some m => exact absurd (Stake.isWriter_of_unwritten hu) (List.countP_eq_zero.mp hzero k' hk')

/-- A step of a task that holds the stake `k` finds the pipe there. -/
theorem exists_pipe {k : Stake β} (h : Inv limit s (k :: rest) sent written) : ∃ p, s = some p := by
  cases s with
  | none => exact absurd (h.fresh rfl).1 (List.cons_ne_nil _ _)
  | some p => exact ⟨p, rfl⟩

/-- A step of a sender. It may add a message to what was sent and to the queue. -/
theorem sender {p p' : State β} (h : Inv limit (some p) (ks ++ rest) sent written)
    (hks : ∀ k ∈ ks, k.isWriter = false) (hks' : ∀ k ∈ ks', k.isWriter = false)
    (hmetered : p'.metered + inHand ks + p.queued = p.metered + inHand ks' + p'.queued)
    (hbounded : p'.metered ≤ limit)
    (hqueue : p'.queue.flatten = p.queue.flatten ++ messages.flatten) :
    Inv limit (some p') (ks' ++ rest) (sent ++ messages) (written ++ []) := by
  rw [List.append_nil]
  refine ⟨nofun, ?_, ?_, ?_, ?_, ?_⟩
  · rintro _ ⟨⟩
    have := h.metered p rfl
    simp only [inHand, List.map_append, List.sum_append] at this hmetered ⊢
    omega
  · rintro _ ⟨⟩
    exact hbounded
  · have hnone : ∀ {ks : List (Stake β)}, (∀ k ∈ ks, k.isWriter = false) →
        ks.countP (·.isWriter) = 0 :=
      fun h => List.countP_eq_zero.mpr fun k hk => by simp [h k hk]
    have := h.one
    rwa [List.countP_append, hnone hks, ← hnone hks', ← List.countP_append] at this
  · rintro _ ⟨⟩ k hk m hm
    rcases List.mem_append.mp hk with hk | hk
    · exact absurd (Stake.isWriter_of_unwritten hm) (by simp [hks' k hk])
    · rw [List.flatten_append, h.stream p rfl k (List.mem_append_right _ hk) m hm, hqueue]
      simp only [List.append_assoc]
  · rw [List.flatten_append]
    exact h.isPrefix.trans (List.prefix_append _ _)

/-- A step of the writer, which holds the stake `k` before it and at most one stake after it. -/
theorem writer {p p' : State β} {k : Stake β} (h : Inv limit (some p) (k :: rest) sent written)
    (hk : k.isWriter = true) (hlength : ks'.length ≤ 1)
    (hmetered : p'.metered + k.writing + p.queued = p.metered + inHand ks' + p'.queued)
    (hbounded : p'.metered ≤ limit)
    (hstream : ∀ k' ∈ ks', ∀ m ∈ k'.unwritten,
      sent.flatten = written ++ bytes ++ m ++ p'.queue.flatten)
    (hpre : written ++ bytes <+: sent.flatten) :
    Inv limit (some p') (ks' ++ rest) (sent ++ []) (written ++ bytes) := by
  have hreserved : k.reserved = 0 := by cases k <;> first | rfl | cases hk
  rw [List.append_nil]
  refine ⟨nofun, ?_, ?_, ?_, ?_, hpre⟩
  · rintro _ ⟨⟩
    have := h.metered p rfl
    rw [inHand_cons] at this
    simp only [inHand, List.map_append, List.sum_append] at this hmetered ⊢
    omega
  · rintro _ ⟨⟩
    exact hbounded
  · have := h.one
    have hle := (List.countP_le_length (p := fun k => k.isWriter) (l := ks')).trans hlength
    rw [List.countP_cons, if_pos hk] at this
    rw [List.countP_append]
    omega
  · rintro _ ⟨⟩ k' hk' m hm
    rcases List.mem_append.mp hk' with hk' | hk'
    · exact hstream k' hk' m hm
    · rw [h.unwritten_eq_none hk k' hk'] at hm
      cases hm

/-- **One step.** -/
theorem step (h : Inv limit s (ks ++ rest) sent written)
    (hstep : Step limit s ks s' ks' messages bytes) :
    Inv limit s' (ks' ++ rest) (sent ++ messages) (written ++ bytes) := by
  cases hstep with
  | idle => simpa using h
  | create =>
    obtain ⟨hrest, rfl, rfl⟩ := h.fresh rfl
    rw [List.nil_append] at hrest
    subst hrest
    refine ⟨nofun, ?_, ?_, le_rfl, ?_, List.prefix_rfl⟩
    · rintro _ ⟨⟩
      rfl
    · rintro _ ⟨⟩
      exact Nat.zero_le _
    · rintro _ ⟨⟩ k hk m hm
      cases List.mem_singleton.mp hk
      cases hm
      rfl
  | @reserve p message hlimit =>
    refine h.sender (by simp) (by simp [Stake.isWriter]) ?_ hlimit (by simp)
    simp only [inHand_cons, inHand_nil, Stake.reserved, Stake.writing, State.queued]
    omega
  | @send p message =>
    refine h.sender (by simp [Stake.isWriter]) (by simp) ?_ (h.bounded p rfl) (by simp)
    simp only [inHand_cons, inHand_nil, Stake.reserved, Stake.writing, State.queued,
      List.map_append, List.sum_append, List.map_cons, List.map_nil, List.sum_cons, List.sum_nil]
    omega
  | refuse =>
    obtain ⟨p, rfl⟩ := h.exists_pipe
    exact h.sender (by simp [Stake.isWriter]) (by simp [Stake.isWriter]) rfl (h.bounded p rfl)
      (by simp)
  | @giveBack _ message =>
    obtain ⟨p, rfl⟩ := h.exists_pipe
    have hle := h.le_metered List.mem_cons_self
    have hb := h.bounded p rfl
    simp only [Stake.reserved, Stake.writing] at hle
    refine h.sender (by simp [Stake.isWriter]) (by simp) ?_ ?_ (by simp)
    · simp only [inHand_cons, inHand_nil, Stake.reserved, Stake.writing, State.queued]
      omega
    · exact (Nat.sub_le _ _).trans hb
  | start =>
    obtain ⟨p, rfl⟩ := h.exists_pipe
    have hs := h.stream p rfl _ List.mem_cons_self [] rfl
    refine h.writer rfl le_rfl rfl (h.bounded p rfl) ?_ (by simpa using h.isPrefix)
    intro k' hk' m hm
    cases List.mem_singleton.mp hk'
    cases hm
    simpa using hs
  | abandon =>
    obtain ⟨p, rfl⟩ := h.exists_pipe
    exact h.writer rfl (Nat.zero_le _) rfl (h.bounded p rfl) (by simp) (by simpa using h.isPrefix)
  | @receive p message queue hqueue =>
    have hs := h.stream p rfl _ List.mem_cons_self [] rfl
    refine h.writer rfl le_rfl ?_ (h.bounded p rfl) ?_ (by simpa using h.isPrefix)
    · simp only [inHand_cons, inHand_nil, Stake.reserved, Stake.writing, State.queued, hqueue,
        List.map_cons, List.sum_cons]
      omega
    · intro k' hk' m hm
      cases List.mem_singleton.mp hk'
      cases hm
      simpa [hqueue] using hs
  | write =>
    obtain ⟨p, rfl⟩ := h.exists_pipe
    have hs := h.stream p rfl _ List.mem_cons_self bytes rfl
    refine h.writer rfl le_rfl ?_ (h.bounded p rfl) ?_ ?_
    · simp only [inHand_cons, inHand_nil, Stake.reserved, Stake.writing]
      omega
    · intro k' hk' m hm
      cases List.mem_singleton.mp hk'
      cases hm
      simpa using hs
    · rw [hs]
      exact List.prefix_append _ _
  | @fail _ message _ hpre =>
    obtain ⟨p, rfl⟩ := h.exists_pipe
    have hs := h.stream p rfl _ List.mem_cons_self message rfl
    refine h.writer rfl le_rfl ?_ (h.bounded p rfl) ?_ ?_
    · simp only [inHand_cons, inHand_nil, Stake.reserved, Stake.writing]
      omega
    · intro k' hk' m hm
      cases List.mem_singleton.mp hk'
      cases hm
    · rw [hs, List.append_assoc]
      exact (List.prefix_append_right_inj written).mpr (hpre.trans (List.prefix_append _ _))
  | @release p message ok =>
    have hle := h.le_metered List.mem_cons_self
    have hb := h.bounded p rfl
    simp only [Stake.reserved, Stake.writing] at hle
    refine h.writer rfl le_rfl ?_ ((Nat.sub_le _ _).trans hb) ?_ (by simpa using h.isPrefix)
    · cases ok <;> simp only [inHand_cons, inHand_nil, Stake.reserved, Stake.writing, State.queued,
        Bool.false_eq_true, if_true, if_false] <;> omega
    · intro k' hk' m hm
      cases List.mem_singleton.mp hk'
      cases ok with
      | false => cases hm
      | true =>
        cases hm
        simpa using h.stream p rfl _ List.mem_cons_self [] rfl
  | stop =>
    obtain ⟨p, rfl⟩ := h.exists_pipe
    exact h.writer rfl (Nat.zero_le _) rfl (h.bounded p rfl) (by simp) (by simpa using h.isPrefix)

end Inv

end Pipe
