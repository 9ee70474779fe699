import KeliAgent.Lib.Meter
import KeliAgent.Report.NetStatic

/-!
# Traffic over runs of the sampler

Samples and flushes in any order, and the cycles of the collector (`system.rs`), which also set the
list of interfaces.

* `attributed_run`: in a run whose flushes keep the traffic of an interface, what a total attributes
  to the interface is the increase of its counters at the samples that were processed.
* **`traffic_conserved`**: so it is with no bounds on the time.
* **`windowed_totals_agree`**: totals do not depend on the flushes, if every flush is on the same
  side of the window as the traffic that it flushes.
* **`monthly_totals_grow`**: the totals of a period never go down, if no interface disappears while
  it has cached traffic of the period.
-/

namespace KeliAgent

open Table

namespace NetStaticSampler

/-! ## Calls -/

inductive SamplerCall where
  | sample (timestamp : ℕ) (counters : List InterfaceCounter)
  | flush (timestamp : ℕ) (saved : Bool)

def call (sampler : NetStaticSampler) : SamplerCall → NetStaticSampler
  | .sample timestamp counters => sampler.sample timestamp counters
  | .flush timestamp saved => sampler.flush timestamp saved

def run (sampler : NetStaticSampler) (calls : List SamplerCall) : NetStaticSampler :=
  calls.foldl call sampler

/-- The sampler and the time of every flush meet the condition. -/
def AtFlushes (P : NetStaticSampler → ℕ → Prop) : NetStaticSampler → List SamplerCall → Prop
  | _, [] => True
  | sampler, .sample timestamp counters :: calls =>
    AtFlushes P (sampler.sample timestamp counters) calls
  | sampler, .flush timestamp saved :: calls =>
    P sampler timestamp ∧ AtFlushes P (sampler.flush timestamp saved) calls

instance decidableAtFlushes {P : NetStaticSampler → ℕ → Prop}
    [∀ sampler t, Decidable (P sampler t)] : (sampler : NetStaticSampler) →
      (calls : List SamplerCall) → Decidable (AtFlushes P sampler calls)
  | _, [] => inferInstanceAs (Decidable True)
  | sampler, .sample timestamp counters :: calls =>
    decidableAtFlushes (sampler.sample timestamp counters) calls
  | sampler, .flush timestamp saved :: calls =>
    have := decidableAtFlushes (P := P) (sampler.flush timestamp saved) calls
    inferInstanceAs (Decidable (_ ∧ _))

/-- The samples that are not throttled. -/
def processed (config : NetStaticSamplerConfig) :
    Option ℕ → List SamplerCall → List (ℕ × List InterfaceCounter)
  | _, [] => []
  | last, .sample timestamp counters :: calls =>
    if throttles config last timestamp then processed config last calls
    else (timestamp, counters) :: processed config (some timestamp) calls
  | last, .flush _ _ :: calls => processed config last calls

/-- The readings of an interface in one sample. -/
def readingsIn (name : String) (sample : ℕ × List InterfaceCounter) : List (ℕ × InterfaceCounter) :=
  (sample.2.filter (·.name == name)).map (sample.1, ·)

/-- The readings of an interface that is on the list. -/
def readings (config : NetStaticSamplerConfig) (samples : List (ℕ × List InterfaceCounter))
    (name : String) : List (ℕ × InterfaceCounter) :=
  if config.nics = [] ∨ name ∈ config.nics then samples.flatMap (readingsIn name) else []

/-- The sum of the differences of consecutive readings; only readings whose timestamps count are
added. -/
def increase (counts : ℕ → Bool) (direction : Direction) (readings : List (ℕ × InterfaceCounter)) :
    ℕ :=
  Meter.increase (·.2.count direction) (counts ·.1) readings

/-- What the sampler has read last of an interface. -/
def lastReading (sampler : NetStaticSampler) (name : String) : List (ℕ × InterfaceCounter) :=
  ((sampler.lastCounters.lookup name).map fun counter =>
    (0, ⟨name, counter.tx, counter.rx⟩)).toList

/-! ## One interface -/

section Interface

variable {sampler : NetStaticSampler} {counts : ℕ → Bool} {name : String}

/-- The flush keeps what counts for the interface: no sum overflows, no entry that counts is
expired, and the cached entries count if the time of the flush does. -/
structure FlushKeeps (counts : ℕ → Bool) (name : String) (sampler : NetStaticSampler)
    (timestamp : ℕ) : Prop where
  inRange : ∀ direction, ((listAt sampler.cache name).map (·.amount direction)).sum < 2 ^ 64
  preserved : ∀ entry ∈ listAt sampler.store name, counts entry.timestamp = true →
    timestamp - sampler.config.ttl ≤ entry.timestamp
  sameSide : ∀ entry ∈ listAt sampler.cache name, counts entry.timestamp = counts timestamp

/-- Entries on the same side of the window count together. -/
theorem windowed_of_sameSide {entries : List TrafficData} {timestamp : ℕ}
    (h : ∀ entry ∈ entries, counts entry.timestamp = counts timestamp) (direction : Direction) :
    windowed counts direction entries =
      if counts timestamp then (entries.map (·.amount direction)).sum else 0 := by
  induction entries with
  | nil => split_ifs <;> rfl
  | cons entry entries ih =>
    obtain ⟨hentry, hentries⟩ := List.forall_mem_cons.mp h
    rw [windowed_cons, hentry, ih hentries]
    split_ifs <;> rfl

theorem windowed_merged {entries : List TrafficData}
    (h : ∀ direction, (entries.map (·.amount direction)).sum < 2 ^ 64) (timestamp : ℕ)
    (direction : Direction) :
    windowed counts direction (merged timestamp entries) =
      if counts timestamp then (entries.map (·.amount direction)).sum else 0 := by
  have hsum : ∀ direction, sumAmounts entries direction = (entries.map (·.amount direction)).sum :=
    fun direction => Nat.mod_eq_of_lt (h direction)
  unfold merged
  split_ifs with hpos hcounts hcounts
  · rw [windowed_cons, windowed_nil, if_pos hcounts, add_zero, ← hsum]
    cases direction <;> rfl
  · rw [windowed_cons, windowed_nil, if_neg hcounts]
  · rw [windowed_nil, ← hsum]
    cases direction <;> omega
  · rfl

theorem windowed_unexpired {ttl now : ℕ} {entries : List TrafficData}
    (h : ∀ entry ∈ entries, counts entry.timestamp = true → now - ttl ≤ entry.timestamp)
    (direction : Direction) :
    windowed counts direction (unexpired ttl now entries) = windowed counts direction entries := by
  induction entries with
  | nil => rfl
  | cons entry entries ih =>
    obtain ⟨hentry, hentries⟩ := List.forall_mem_cons.mp h
    rw [unexpired, List.filter_cons, windowed_cons, ← ih hentries]
    by_cases hcounts : counts entry.timestamp = true
    · rw [if_pos (decide_eq_true (hentry hcounts)), windowed_cons]
      rfl
    · rw [if_neg hcounts, zero_add]
      split_ifs
      · rw [windowed_cons, if_neg hcounts, zero_add]
        rfl
      · rfl

theorem mem_merged {timestamp : ℕ} {entries : List TrafficData} {entry : TrafficData}
    (h : entry ∈ merged timestamp entries) : entry.timestamp = timestamp := by
  unfold merged at h
  split_ifs at h
  · cases List.mem_singleton.mp h
    rfl
  · cases h

/-- A flush that drops no entry that counts: the cached traffic counts if the time of the flush
does. -/
theorem attributed_flush_eq {timestamp : ℕ}
    (hrange : ∀ direction, ((listAt sampler.cache name).map (·.amount direction)).sum < 2 ^ 64)
    (hkept : ∀ entry ∈ listAt sampler.store name, counts entry.timestamp = true →
      timestamp - sampler.config.ttl ≤ entry.timestamp) (saved : Bool) (direction : Direction) :
    (sampler.flush timestamp saved).attributed counts direction name =
      windowed counts direction (listAt sampler.store name) +
        if counts timestamp then ((listAt sampler.cache name).map (·.amount direction)).sum
        else 0 := by
  obtain ⟨hstore, hcache⟩ := @listAt_flush sampler timestamp saved name
  have hall : ∀ entry ∈ listAt sampler.store name ++ merged timestamp (listAt sampler.cache name),
      counts entry.timestamp = true → timestamp - sampler.config.ttl ≤ entry.timestamp := by
    refine List.forall_mem_append.mpr ⟨hkept, fun entry hentry _ => ?_⟩
    rw [mem_merged hentry]
    exact Nat.sub_le _ _
  rw [attributed, hstore, hcache, windowed_unexpired hall, windowed_append,
    windowed_merged hrange, windowed_nil, add_zero]

/-- **A flush.** -/
theorem attributed_flush {timestamp : ℕ} (h : FlushKeeps counts name sampler timestamp)
    (saved : Bool) (direction : Direction) :
    (sampler.flush timestamp saved).attributed counts direction name =
      sampler.attributed counts direction name := by
  rw [attributed_flush_eq h.inRange h.preserved, ← windowed_of_sameSide h.sameSide, attributed]

/-- The interface has been read `done` times, and the traffic is the increase of its counters. -/
structure Metered (counts : ℕ → Bool) (name : String) (base : Direction → ℕ)
    (sampler : NetStaticSampler) (done : List (ℕ × InterfaceCounter)) : Prop where
  last : sampler.lastCounters.lookup name =
    done.getLast?.map fun reading => ⟨reading.2.totalUp, reading.2.totalDown⟩
  amount : ∀ direction, sampler.attributed counts direction name =
    base direction + increase counts direction done

variable {base : Direction → ℕ} {done : List (ℕ × InterfaceCounter)}

theorem nicAllowed_iff : sampler.nicAllowed name = true ↔
    sampler.config.nics = [] ∨ name ∈ sampler.config.nics := by
  rw [nicAllowed, Bool.or_eq_true, List.isEmpty_iff, List.any_beq', List.contains_iff_mem]

theorem config_sampleCounter (timestamp : ℕ) (counter : InterfaceCounter) :
    (sampleCounter timestamp sampler counter).config = sampler.config := by
  unfold sampleCounter
  split_ifs <;> rfl

theorem sampleCounter_of_not_allowed {counter : InterfaceCounter}
    (h : sampler.nicAllowed counter.name = false) (timestamp : ℕ) :
    sampleCounter timestamp sampler counter = sampler := by
  rw [sampleCounter, h]
  rfl

/-- A counter of another interface. -/
theorem sampleCounter_other {counter : InterfaceCounter} (h : name ≠ counter.name)
    (timestamp : ℕ) :
    listAt (sampleCounter timestamp sampler counter).cache name = listAt sampler.cache name ∧
      (sampleCounter timestamp sampler counter).lastCounters.lookup name =
        sampler.lastCounters.lookup name := by
  unfold sampleCounter
  split_ifs with hallowed
  · exact ⟨rfl, rfl⟩
  · refine ⟨?_, AList.lookup_insert_ne h⟩
    simp only
    split
    · rfl
    · split_ifs
      · rw [listAt_push, if_neg h, List.append_nil]
      · rfl

/-- The traffic that a counter adds. -/
def added (counts : ℕ → Bool) (direction : Direction) (timestamp : ℕ)
    (previous : Option CounterTotals) (counter : InterfaceCounter) : ℕ :=
  match previous with
  | none => 0
  | some previous =>
    if counts timestamp then (traffic timestamp previous counter).amount direction else 0

theorem added_eq_gain (direction : Direction) (timestamp : ℕ)
    (last : Option (ℕ × InterfaceCounter)) (counter : InterfaceCounter) :
    added counts direction timestamp
        (last.map fun reading => ⟨reading.2.totalUp, reading.2.totalDown⟩) counter =
      Meter.gain (·.2.count direction) (counts ·.1) last (timestamp, counter) := by
  cases last with
  | none => rfl
  | some reading => cases direction <;> rfl

theorem lastCounters_sampleCounter_self {counter : InterfaceCounter}
    (h : sampler.nicAllowed counter.name = true) (timestamp : ℕ) :
    (sampleCounter timestamp sampler counter).lastCounters.lookup counter.name =
      some ⟨counter.totalUp, counter.totalDown⟩ := by
  rw [sampleCounter, h]
  exact AList.lookup_insert _

/-- A counter of the interface itself. -/
theorem windowed_sampleCounter_self {counter : InterfaceCounter}
    (h : sampler.nicAllowed counter.name = true) (timestamp : ℕ) (direction : Direction) :
    windowed counts direction
        (listAt (sampleCounter timestamp sampler counter).cache counter.name) =
      windowed counts direction (listAt sampler.cache counter.name) +
        added counts direction timestamp (sampler.lastCounters.lookup counter.name) counter := by
  rw [sampleCounter, h]
  simp only [added, Bool.not_true, Bool.false_eq_true, if_false]
  cases sampler.lastCounters.lookup counter.name with
  | none => rfl
  | some previous =>
    simp only
    split_ifs with hpos hcounts hcounts
    · rw [listAt_push, if_pos rfl, windowed_append, windowed_cons, windowed_nil]
      exact congrArg _ (if_pos hcounts)
    · rw [listAt_push, if_pos rfl, windowed_append, windowed_cons, windowed_nil]
      exact congrArg _ (if_neg hcounts)
    · -- an entry without traffic is not pushed
      rw [not_or, Nat.not_lt, Nat.not_lt, Nat.le_zero, Nat.le_zero] at hpos
      have hzero : (traffic timestamp previous counter).amount direction = 0 := by
        cases direction with
        | up => exact hpos.1
        | down => exact hpos.2
      rw [hzero, add_zero]
    · rfl

theorem store_sampleCounter (timestamp : ℕ) (counter : InterfaceCounter) :
    (sampleCounter timestamp sampler counter).store = sampler.store := by
  unfold sampleCounter
  split_ifs <;> rfl

/-- **One counter of a sample.** -/
theorem Metered.sampleCounter (h : Metered counts name base sampler done) (timestamp : ℕ)
    (counter : InterfaceCounter) :
    Metered counts name base (sampleCounter timestamp sampler counter)
      (done ++ if sampler.nicAllowed name = true then readingsIn name (timestamp, [counter])
        else []) := by
  by_cases hname : name = counter.name
  · subst hname
    have hreading : readingsIn counter.name (timestamp, [counter]) = [(timestamp, counter)] := by
      simp [readingsIn]
    rw [hreading]
    split_ifs with hallowed
    · refine ⟨?_, fun direction => ?_⟩
      · rw [lastCounters_sampleCounter_self hallowed, List.getLast?_concat, Option.map_some]
      · rw [attributed, store_sampleCounter, windowed_sampleCounter_self hallowed, ← add_assoc,
          ← attributed, h.amount direction, h.last, added_eq_gain, increase, increase,
          Meter.increase_concat, add_assoc]
    · rw [sampleCounter_of_not_allowed (Bool.eq_false_iff.mpr hallowed), List.append_nil]
      exact h
  · have hreading : readingsIn name (timestamp, [counter]) = [] := by
      simp [readingsIn, Ne.symm hname]
    obtain ⟨hcache, hlast⟩ := @sampleCounter_other sampler name counter hname timestamp
    rw [hreading, ite_self, List.append_nil]
    refine ⟨hlast.trans h.last, fun direction => ?_⟩
    rw [attributed, store_sampleCounter, hcache, ← attributed, h.amount direction]

theorem nicAllowed_sampleCounter (timestamp : ℕ) (counter : InterfaceCounter) (name : String) :
    (NetStaticSampler.sampleCounter timestamp sampler counter).nicAllowed name =
      sampler.nicAllowed name := by
  rw [nicAllowed, config_sampleCounter, ← nicAllowed]

/-- All counters of a sample. -/
theorem Metered.sampleCounters (h : Metered counts name base sampler done) (timestamp : ℕ)
    (counters : List InterfaceCounter) :
    Metered counts name base (counters.foldl (NetStaticSampler.sampleCounter timestamp) sampler)
      (done ++ if sampler.nicAllowed name = true then readingsIn name (timestamp, counters)
        else []) := by
  induction counters generalizing sampler done with
  | nil =>
    rw [show readingsIn name (timestamp, []) = [] from rfl, ite_self, List.append_nil]
    exact h
  | cons counter counters ih =>
    have hrest := ih (h.sampleCounter timestamp counter)
    rw [nicAllowed_sampleCounter, List.append_assoc] at hrest
    have hreadings : readingsIn name (timestamp, counter :: counters) =
        readingsIn name (timestamp, [counter]) ++ readingsIn name (timestamp, counters) := by
      rw [readingsIn, readingsIn, readingsIn, ← List.map_append, ← List.filter_append]
      rfl
    rw [hreadings]
    split_ifs at hrest ⊢ <;> exact hrest

theorem config_sampleCounters (timestamp : ℕ) (counters : List InterfaceCounter) :
    (counters.foldl (NetStaticSampler.sampleCounter timestamp) sampler).config = sampler.config :=
  List.foldlRecOn
    (motive := fun sampled : NetStaticSampler => sampled.config = sampler.config)
    counters (NetStaticSampler.sampleCounter timestamp) rfl
    fun _ h counter _ => (config_sampleCounter timestamp counter).trans h

theorem sample_of_throttled {timestamp : ℕ}
    (h : throttles sampler.config sampler.lastSampleAt timestamp = true)
    (counters : List InterfaceCounter) : sampler.sample timestamp counters = sampler :=
  if_pos h

theorem sample_of_not_throttled {timestamp : ℕ}
    (h : throttles sampler.config sampler.lastSampleAt timestamp = false)
    (counters : List InterfaceCounter) : sampler.sample timestamp counters =
      { counters.foldl (NetStaticSampler.sampleCounter timestamp) sampler with
        lastSampleAt := some timestamp } :=
  if_neg (by rw [h]; exact Bool.false_ne_true)

theorem sample_frame {timestamp : ℕ}
    (h : throttles sampler.config sampler.lastSampleAt timestamp = false)
    (counters : List InterfaceCounter) :
    (sampler.sample timestamp counters).config = sampler.config ∧
      (sampler.sample timestamp counters).lastSampleAt = some timestamp := by
  rw [sample_of_not_throttled h]
  exact ⟨config_sampleCounters timestamp counters, rfl⟩

/-- **A sample that is not throttled.** -/
theorem Metered.sample (h : Metered counts name base sampler done) {timestamp : ℕ}
    (hthrottled : throttles sampler.config sampler.lastSampleAt timestamp = false)
    (counters : List InterfaceCounter) :
    Metered counts name base (sampler.sample timestamp counters)
      (done ++ if sampler.config.nics = [] ∨ name ∈ sampler.config.nics then
        readingsIn name (timestamp, counters) else []) := by
  have hcounters := h.sampleCounters timestamp counters
  simp only [nicAllowed_iff] at hcounters
  rw [sample_of_not_throttled hthrottled]
  exact ⟨hcounters.last, hcounters.amount⟩

theorem readings_cons (config : NetStaticSamplerConfig) (sample : ℕ × List InterfaceCounter)
    (samples : List (ℕ × List InterfaceCounter)) (name : String) :
    readings config (sample :: samples) name =
      (if config.nics = [] ∨ name ∈ config.nics then readingsIn name sample else []) ++
        readings config samples name := by
  unfold readings
  split_ifs <;> rfl

/-- **Any run.** The induction is over the calls; a flush leaves the readings alone, and a sample
that is not throttled adds its own. -/
theorem Metered.run (h : Metered counts name base sampler done) {calls : List SamplerCall}
    (hflushes : AtFlushes (FlushKeeps counts name) sampler calls) :
    Metered counts name base (sampler.run calls)
      (done ++ readings sampler.config (processed sampler.config sampler.lastSampleAt calls)
        name) := by
  induction calls generalizing sampler done with
  | nil =>
    rw [processed, readings, List.flatMap_nil, ite_self, List.append_nil]
    exact h
  | cons call calls ih =>
    cases call with
    | sample timestamp counters =>
      rw [AtFlushes] at hflushes
      change Metered counts name base ((sampler.sample timestamp counters).run calls) _
      rw [processed]
      cases hthrottled : throttles sampler.config sampler.lastSampleAt timestamp with
      | true =>
        rw [sample_of_throttled hthrottled] at hflushes ⊢
        exact ih h hflushes
      | false =>
        obtain ⟨hconfig, hsampled⟩ := sample_frame hthrottled counters
        have hrest := ih (h.sample hthrottled counters) hflushes
        rw [hconfig, hsampled, List.append_assoc, ← readings_cons] at hrest
        exact hrest
    | flush timestamp saved =>
      obtain ⟨hflush, hflushes⟩ := hflushes
      obtain ⟨hconfig, hcounters, hsampled⟩ := @flush_frame sampler timestamp saved
      have hrest := ih ⟨hcounters ▸ h.last, fun direction =>
        (attributed_flush hflush saved direction).trans (h.amount direction)⟩ hflushes
      rw [hconfig, hsampled] at hrest
      exact hrest

/-- **What a total attributes to an interface** after a run whose flushes keep its traffic. -/
theorem attributed_run {calls : List SamplerCall}
    (hflushes : AtFlushes (FlushKeeps counts name) sampler calls) (direction : Direction) :
    (sampler.run calls).attributed counts direction name =
      sampler.attributed counts direction name +
        increase counts direction (sampler.lastReading name ++
          readings sampler.config (processed sampler.config sampler.lastSampleAt calls) name) := by
  have hstart : Metered counts name (sampler.attributed counts · name) sampler
      (sampler.lastReading name) := by
    refine ⟨?_, fun direction => ?_⟩
    · rw [lastReading]
      cases sampler.lastCounters.lookup name with
      | none => rfl
      | some counter => rfl
    · rw [lastReading]
      cases sampler.lastCounters.lookup name with
      | none => rfl
      | some counter => rfl
  exact (hstart.run hflushes).amount direction

end Interface

/-! ## Conditions on flushes -/

section Conditions

variable (start finish : ℕ) (filter : NetworkFilter) (sampler : NetStaticSampler) (timestamp : ℕ)

/-- No entry of the store is older than the preserve window. -/
def NoneExpired : Prop :=
  ∀ stored ∈ sampler.store.entries, ∀ entry ∈ stored.2,
    timestamp - sampler.config.ttl ≤ entry.timestamp

/-- No entry of the store that a total counts is older than the preserve window. -/
def RelevantKept : Prop :=
  ∀ stored ∈ sampler.store.entries, filter.shouldInclude stored.1 = true → ∀ entry ∈ stored.2,
    inWindow start finish entry.timestamp = true → timestamp - sampler.config.ttl ≤ entry.timestamp

/-- The sums over the cached traffic of each interface are in range. -/
def InRange : Prop :=
  ∀ cached ∈ sampler.cache.entries, (cached.2.map (·.amount .up)).sum < 2 ^ 63 ∧
    (cached.2.map (·.amount .down)).sum < 2 ^ 63

/-- The time is on the same side of the window as the cached traffic. -/
def SameSide : Prop :=
  ∀ cached ∈ sampler.cache.entries, filter.shouldInclude cached.1 = true → ∀ entry ∈ cached.2,
    inWindow start finish entry.timestamp = inWindow start finish timestamp

instance : Decidable (sampler.NoneExpired timestamp) := by unfold NoneExpired; infer_instance

instance : Decidable (RelevantKept start finish filter sampler timestamp) := by
  unfold RelevantKept; infer_instance

instance : Decidable sampler.InRange := by unfold InRange; infer_instance

instance : Decidable (SameSide start finish filter sampler timestamp) := by
  unfold SameSide; infer_instance

variable {start finish filter sampler timestamp}

theorem InRange.sum_lt (h : sampler.InRange) (name : String) (direction : Direction) :
    ((listAt sampler.cache name).map (·.amount direction)).sum < 2 ^ 64 := by
  have hbits : 2 ^ 63 < 2 ^ 64 := by norm_num
  cases hlist : listAt sampler.cache name with
  | nil => exact Nat.two_pow_pos 64
  | cons entry entries =>
    have hentry : entry ∈ listAt sampler.cache name := by
      rw [hlist]
      exact List.mem_cons_self
    have hmem := mem_entries_of_mem_listAt hentry
    rw [← hlist]
    cases direction with
    | up => exact (h _ hmem).1.trans hbits
    | down => exact (h _ hmem).2.trans hbits

theorem AtFlushes.imp {P Q : NetStaticSampler → ℕ → Prop}
    (himp : ∀ sampler t, P sampler t → Q sampler t) {calls : List SamplerCall}
    (h : AtFlushes P sampler calls) : AtFlushes Q sampler calls := by
  induction calls generalizing sampler with
  | nil => trivial
  | cons call calls ih =>
    cases call with
    | sample timestamp counters => exact ih h
    | flush timestamp saved => exact ⟨himp _ _ h.1, ih h.2⟩

theorem AtFlushes.and {P Q : NetStaticSampler → ℕ → Prop} {calls : List SamplerCall}
    (hP : AtFlushes P sampler calls) (hQ : AtFlushes Q sampler calls) :
    AtFlushes (fun sampler t => P sampler t ∧ Q sampler t) sampler calls := by
  induction calls generalizing sampler with
  | nil => trivial
  | cons call calls ih =>
    cases call with
    | sample timestamp counters => exact ih hP hQ
    | flush timestamp saved => exact ⟨⟨hP.1, hQ.1⟩, ih hP.2 hQ.2⟩

/-- Without bounds on the time every entry counts. -/
theorem flushKeeps_of_noneExpired (hexpired : sampler.NoneExpired timestamp)
    (hrange : sampler.InRange) (name : String) :
    FlushKeeps (inWindow 0 0) name sampler timestamp where
  inRange := hrange.sum_lt name
  preserved entry hentry _ := hexpired _ (mem_entries_of_mem_listAt hentry) entry hentry
  sameSide _ _ := rfl

theorem flushKeeps_of_sameSide (hkept : RelevantKept start finish filter sampler timestamp)
    (hrange : sampler.InRange) (hside : SameSide start finish filter sampler timestamp)
    {name : String} (hname : filter.shouldInclude name = true) :
    FlushKeeps (inWindow start finish) name sampler timestamp where
  inRange := hrange.sum_lt name
  preserved entry hentry :=
    hkept _ (mem_entries_of_mem_listAt hentry) hname entry hentry
  sameSide entry hentry := hside _ (mem_entries_of_mem_listAt hentry) hname entry hentry

end Conditions

/-! ## Conservation -/

section Totals

variable {sampler sampler' : NetStaticSampler} {start finish finish' : ℕ} {filter : NetworkFilter}

/-- A total that attributes at least as much to each interface of the filter. -/
theorem get_totalBetween_le {direction : Direction}
    (h : ∀ name, filter.shouldInclude name = true →
      sampler.attributed (inWindow start finish) direction name ≤
        sampler'.attributed (inWindow start finish') direction name) :
    (sampler.totalBetween start finish filter).get direction ≤
      (sampler'.totalBetween start finish' filter).get direction := by
  let names : Finset String := sampler.store.keys.toFinset ∪ sampler.cache.keys.toFinset ∪
    (sampler'.store.keys.toFinset ∪ sampler'.cache.keys.toFinset)
  have hleft := @totalBetween_get sampler start finish direction filter names
    (by simp +contextual [names]) (by simp +contextual [names])
  have hright := @totalBetween_get sampler' start finish' direction filter names
    (by simp +contextual [names]) (by simp +contextual [names])
  rw [hleft, hright]
  refine min_le_min_right _ (Finset.sum_le_sum fun name hname => ?_)
  exact h name (Finset.mem_filter.mp hname).2

/-- Totals that attribute the same to each interface of the filter. -/
theorem totalBetween_congr
    (h : ∀ name direction, filter.shouldInclude name = true →
      sampler.attributed (inWindow start finish) direction name =
        sampler'.attributed (inWindow start finish) direction name) :
    sampler.totalBetween start finish filter = sampler'.totalBetween start finish filter := by
  have hget (direction : Direction) : (sampler.totalBetween start finish filter).get direction =
      (sampler'.totalBetween start finish filter).get direction :=
    le_antisymm (get_totalBetween_le fun name hname => (h name direction hname).le)
      (get_totalBetween_le fun name hname => (h name direction hname).ge)
  have hup := hget .up
  have hdown := hget .down
  cases hleft : sampler.totalBetween start finish filter
  cases hright : sampler'.totalBetween start finish filter
  rw [hleft, hright] at hup hdown
  exact congrArg₂ NetworkTotals.mk hup hdown

end Totals

/-- The interfaces of the samples. -/
def namesRead (samples : List (ℕ × List InterfaceCounter)) : Finset String :=
  (samples.flatMap fun sample => sample.2.map (·.name)).toFinset

theorem readings_of_not_read {config : NetStaticSamplerConfig}
    {samples : List (ℕ × List InterfaceCounter)} {name : String} (h : name ∉ namesRead samples) :
    readings config samples name = [] := by
  have hnone : samples.flatMap (readingsIn name) = [] := by
    refine List.flatMap_eq_nil_iff.mpr fun sample hsample => ?_
    rw [readingsIn, List.map_eq_nil_iff, List.filter_eq_nil_iff]
    intro counter hcounter hname
    refine h (List.mem_toFinset.mpr (List.mem_flatMap.mpr ⟨sample, hsample, ?_⟩))
    exact List.mem_map.mpr ⟨counter, hcounter, beq_iff_eq.mp hname⟩
  rw [readings, hnone, ite_self]

section Conservation

variable {config : NetStaticSamplerConfig} {calls : List SamplerCall}

theorem attributed_new (counts : ℕ → Bool) (direction : Direction) (name : String) :
    (new config).attributed counts direction name = 0 := rfl

theorem attributed_run_new {counts : ℕ → Bool} {name : String}
    (hflushes : AtFlushes (FlushKeeps counts name) (new config) calls) (direction : Direction) :
    ((new config).run calls).attributed counts direction name =
      increase counts direction (readings config (processed config none calls) name) := by
  rw [attributed_run hflushes, attributed_new, zero_add]
  rfl

/-- The total of a run is the sum over the interfaces that were read. -/
theorem get_totalBetween_run_new {start finish : ℕ} {filter : NetworkFilter}
    (hflushes : ∀ name, filter.shouldInclude name = true →
      AtFlushes (FlushKeeps (inWindow start finish) name) (new config) calls)
    (direction : Direction) :
    (((new config).run calls).totalBetween start finish filter).get direction =
      min (∑ name ∈ namesRead (processed config none calls) with filter.shouldInclude name = true,
        increase (inWindow start finish) direction
          (readings config (processed config none calls) name)) i64Max := by
  let sampler := (new config).run calls
  let names : Finset String := sampler.store.keys.toFinset ∪ sampler.cache.keys.toFinset ∪
    namesRead (processed config none calls)
  have hget := @totalBetween_get sampler start finish direction filter names
    (by simp +contextual [names]) (by simp +contextual [names])
  rw [hget]
  congr 1
  -- interfaces that were not read have no traffic
  have hsub : (namesRead (processed config none calls)).filter
      (fun name => filter.shouldInclude name = true) ⊆
        names.filter fun name => filter.shouldInclude name = true :=
    Finset.filter_subset_filter _ Finset.subset_union_right
  rw [← Finset.sum_subset hsub]
  · refine Finset.sum_congr rfl fun name hname => ?_
    exact attributed_run_new (hflushes name (Finset.mem_filter.mp hname).2) direction
  · intro name hname hunread
    obtain ⟨-, hinclude⟩ := Finset.mem_filter.mp hname
    rw [attributed_run_new (hflushes name hinclude), readings_of_not_read]
    · rfl
    · exact fun hread => hunread (Finset.mem_filter.mpr ⟨hread, hinclude⟩)

theorem increase_of_monotone {counts : ℕ → Bool} {direction : Direction}
    {first : ℕ × InterfaceCounter} {rest : List (ℕ × InterfaceCounter)}
    (hcounts : ∀ reading ∈ rest, counts reading.1 = true)
    (hmono : (first :: rest).IsChain fun a b => a.2.count direction ≤ b.2.count direction) :
    increase counts direction (first :: rest) =
      ((first :: rest).getLast (List.cons_ne_nil _ _)).2.count direction -
        first.2.count direction := by
  have htelescope := @Meter.increase_of_monotone _
    (fun reading : ℕ × InterfaceCounter => reading.2.count direction)
    (fun reading => counts reading.1) first rest hcounts hmono
  rw [increase, ← htelescope, Nat.add_sub_cancel_left]

/-- **Conservation of traffic.** In a run of samples and flushes on an empty file, in which no entry
expires and all sums are in range, a total without bounds on the time attributes to every interface
the sum of the positive differences of its consecutive processed readings, and it is the sum of
these over the interfaces of the filter; with counters that never go down this is the last reading
minus the first one. -/
theorem traffic_conserved (filter : NetworkFilter)
    (hexpired : AtFlushes NoneExpired (new config) calls)
    (hrange : AtFlushes (fun sampler _ => sampler.InRange) (new config) calls) :
    (∀ name direction, ((new config).run calls).attributed (inWindow 0 0) direction name =
      increase (fun _ => true) direction (readings config (processed config none calls) name)) ∧
    (∀ direction, (∑ name ∈ namesRead (processed config none calls) with
          filter.shouldInclude name = true, increase (fun _ => true) direction
            (readings config (processed config none calls) name)) < 2 ^ 63 →
      (((new config).run calls).totalBetween 0 0 filter).get direction =
        ∑ name ∈ namesRead (processed config none calls) with filter.shouldInclude name = true,
          increase (fun _ => true) direction
            (readings config (processed config none calls) name)) ∧
    ∀ name direction first rest, readings config (processed config none calls) name =
        first :: rest →
      ((first :: rest).IsChain fun a b => a.2.count direction ≤ b.2.count direction) →
      ((new config).run calls).attributed (inWindow 0 0) direction name =
        ((first :: rest).getLast (List.cons_ne_nil _ _)).2.count direction -
          first.2.count direction := by
  have hflushes (name : String) : AtFlushes (FlushKeeps (inWindow 0 0) name) (new config) calls :=
    (hexpired.and hrange).imp fun _ _ h => flushKeeps_of_noneExpired h.1 h.2 name
  have hall : inWindow 0 0 = fun _ => true := by
    funext timestamp
    rfl
  refine ⟨fun name direction => ?_, fun direction hlt => ?_, ?_⟩
  · rw [attributed_run_new (hflushes name), hall]
  · rw [get_totalBetween_run_new fun name _ => hflushes name, hall]
    exact min_eq_left (Nat.le_sub_one_of_lt hlt)
  · intro name direction first rest hread hmono
    rw [attributed_run_new (hflushes name), hread, hall]
    exact increase_of_monotone (fun _ _ => rfl) hmono

/-- The intervals of the default configuration. -/
def defaultConfig : NetStaticSamplerConfig where
  belowDetectInterval elapsed := elapsed < 2
  reachesSaveInterval elapsed := 600 ≤ elapsed
  ttl := 31 * 24 * 60 * 60
  nics := []

/-- Three samples, of which the second one is throttled, a flush and one more sample. -/
def threeReadings : List SamplerCall :=
  [.sample 100 [⟨"eth0", 1000, 2000⟩], .sample 101 [⟨"eth0", 1100, 2200⟩],
    .sample 102 [⟨"eth0", 1300, 2500⟩], .flush 160 true, .sample 170 [⟨"eth0", 1400, 2500⟩]]

theorem traffic_conserved_threeReadings :
    ((new defaultConfig).run threeReadings).attributed (inWindow 0 0) .up "eth0" = 1400 - 1000 := by
  have hconserved := @traffic_conserved defaultConfig threeReadings ⟨[], []⟩ (by decide +kernel)
    (by decide +kernel)
  exact hconserved.2.2 "eth0" .up (100, ⟨"eth0", 1000, 2000⟩)
    [(102, ⟨"eth0", 1300, 2500⟩), (170, ⟨"eth0", 1400, 2500⟩)] (by decide +kernel)
    (by decide +kernel)

end Conservation

/-! ## Schedules of flushes -/

section Schedules

variable {sampler : NetStaticSampler} {calls calls' : List SamplerCall}

def SamplerCall.isSample : SamplerCall → Bool
  | .sample _ _ => true
  | .flush _ _ => false

/-- Which samples are processed does not depend on the flushes. -/
theorem processed_filter (config : NetStaticSamplerConfig) (last : Option ℕ)
    (calls : List SamplerCall) :
    processed config last (calls.filter (·.isSample)) = processed config last calls := by
  induction calls generalizing last with
  | nil => rfl
  | cons call calls ih =>
    cases call with
    | sample timestamp counters =>
      rw [List.filter_cons_of_pos rfl, processed, processed, ih, ih]
    | flush timestamp saved =>
      rw [List.filter_cons_of_neg Bool.false_ne_true, processed, ih]

/-- **Totals do not depend on the flushes**, if in both schedules each flush is on the same side of
the window as the traffic that it flushes: the totals are the same, and traffic counts exactly if
it was sampled in the window. -/
theorem windowed_totals_agree {start finish : ℕ} {filter : NetworkFilter}
    (hsamples : calls.filter (·.isSample) = calls'.filter (·.isSample))
    (hkept : AtFlushes (fun s t => RelevantKept start finish filter s t ∧ s.InRange) sampler calls)
    (hkept' : AtFlushes (fun s t => RelevantKept start finish filter s t ∧ s.InRange) sampler
      calls')
    (hside : AtFlushes (SameSide start finish filter) sampler calls)
    (hside' : AtFlushes (SameSide start finish filter) sampler calls') :
    (sampler.run calls).totalBetween start finish filter =
      (sampler.run calls').totalBetween start finish filter ∧
    ∀ name direction, filter.shouldInclude name = true →
      (sampler.run calls).attributed (inWindow start finish) direction name =
        sampler.attributed (inWindow start finish) direction name +
          increase (inWindow start finish) direction (sampler.lastReading name ++
            readings sampler.config (processed sampler.config sampler.lastSampleAt calls) name) := by
  have hattributed {calls : List SamplerCall}
      (hkept : AtFlushes (fun s t => RelevantKept start finish filter s t ∧ s.InRange) sampler
        calls)
      (hside : AtFlushes (SameSide start finish filter) sampler calls) (name : String)
      (direction : Direction) (hname : filter.shouldInclude name = true) :=
    attributed_run ((hkept.and hside).imp fun _ _ h =>
      flushKeeps_of_sameSide h.1.1 h.1.2 h.2 hname) direction
  refine ⟨totalBetween_congr fun name direction hname => ?_, hattributed hkept hside⟩
  rw [hattributed hkept hside name direction hname, hattributed hkept' hside' name direction hname,
    ← processed_filter _ _ calls, hsamples, processed_filter]

/-- Two readings before a reset at 300. -/
def beforeReset : List SamplerCall :=
  [.sample 100 [⟨"eth0", 0, 0⟩], .sample 200 [⟨"eth0", 50, 70⟩]]

/-- A flush before the reset changes nothing. -/
theorem windowed_totals_agree_beforeReset :
    ((new defaultConfig).run beforeReset).totalBetween 300 400 ⟨[], []⟩ =
      ((new defaultConfig).run (beforeReset ++ [.flush 250 true])).totalBetween 300 400
        ⟨[], []⟩ := by
  refine (windowed_totals_agree ?_ ?_ ?_ ?_ ?_).1
  · rfl
  all_goals decide +kernel

/-- A flush after the reset counts traffic that was sampled before it into the new period. -/
theorem late_flush_moves_traffic :
    ((new defaultConfig).run beforeReset).totalBetween 300 400 ⟨[], []⟩ = ⟨0, 0⟩ ∧
    ((new defaultConfig).run (beforeReset ++ [.flush 300 true])).totalBetween 300 400 ⟨[], []⟩ =
      ⟨50, 70⟩ := by
  decide +kernel

end Schedules

/-! ## Cycles of the collector -/

/-- One call of `collect`: the interfaces that are visible, if they could be read, and whether the
file can be written. -/
structure CollectorCycle where
  now : ℕ
  interfaces : Option (List InterfaceCounter)
  saved : Bool

/-- The sampler of a cycle before its flush. -/
def sampled (sampler : NetStaticSampler) (cycle : CollectorCycle) : NetStaticSampler :=
  match cycle.interfaces with
  | none => sampler
  | some counters => (sampler.setNics (counters.map (·.name))).sample cycle.now counters

def collect (sampler : NetStaticSampler) (cycle : CollectorCycle) : NetStaticSampler :=
  (sampler.sampled cycle).flushIfDue cycle.now cycle.saved

/-- The totals since the start of the period that the cycles report. -/
def monthlyTotals (start : ℕ) (filter : NetworkFilter) :
    NetStaticSampler → List CollectorCycle → List NetworkTotals
  | _, [] => []
  | sampler, cycle :: cycles =>
    (sampler.collect cycle).totalBetween start cycle.now filter ::
      monthlyTotals start filter (sampler.collect cycle) cycles

/-- The sampler before every cycle meets the condition. -/
def AtCycles (P : NetStaticSampler → CollectorCycle → Prop) :
    NetStaticSampler → List CollectorCycle → Prop
  | _, [] => True
  | sampler, cycle :: cycles => P sampler cycle ∧ AtCycles P (sampler.collect cycle) cycles

instance decidableAtCycles {P : NetStaticSampler → CollectorCycle → Prop}
    [∀ sampler cycle, Decidable (P sampler cycle)] : (sampler : NetStaticSampler) →
      (cycles : List CollectorCycle) → Decidable (AtCycles P sampler cycles)
  | _, [] => inferInstanceAs (Decidable True)
  | sampler, cycle :: cycles =>
    have := decidableAtCycles (P := P) (sampler.collect cycle) cycles
    inferInstanceAs (Decidable (_ ∧ _))

section Cycles

variable (start : ℕ) (filter : NetworkFilter) (sampler : NetStaticSampler) (cycle : CollectorCycle)

/-- The flush of the cycle drops no entry of the period, and its sums are in range. -/
def CycleFits : Prop :=
  (sampler.sampled cycle).saveDue cycle.now = true →
    RelevantKept start cycle.now filter (sampler.sampled cycle) cycle.now ∧
      (sampler.sampled cycle).InRange

/-- A cycle that lists interfaces lists each interface that has cached traffic of the period. -/
def CycleLists : Prop :=
  ∀ counters ∈ cycle.interfaces, trimmedNics (counters.map (·.name)) ≠ [] →
    ∀ cached ∈ sampler.cache.entries, filter.shouldInclude cached.1 = true →
      cached.1 ∈ trimmedNics (counters.map (·.name)) ∨
        ∀ entry ∈ cached.2, inWindow start cycle.now entry.timestamp = false

instance : Decidable (CycleFits start filter sampler cycle) := by
  unfold CycleFits; infer_instance

instance : Decidable (CycleLists start filter sampler cycle) := by
  unfold CycleLists; infer_instance

variable {start filter sampler cycle} {counts : ℕ → Bool} {name : String} {direction : Direction}

theorem windowed_le_sum (entries : List TrafficData) :
    windowed counts direction entries ≤ (entries.map (·.amount direction)).sum := by
  refine List.sum_le_sum fun entry _ => ?_
  split_ifs
  · exact le_rfl
  · exact Nat.zero_le _

theorem windowed_eq_zero {entries : List TrafficData}
    (h : ∀ entry ∈ entries, counts entry.timestamp = false) :
    windowed counts direction entries = 0 := by
  refine List.sum_eq_zero fun amount hamount => ?_
  obtain ⟨entry, hentry, rfl⟩ := List.mem_map.mp hamount
  rw [h entry hentry]
  rfl

theorem attributed_le_sampleCounter (timestamp : ℕ) (counter : InterfaceCounter) :
    sampler.attributed counts direction name ≤
      (sampleCounter timestamp sampler counter).attributed counts direction name := by
  rw [attributed, attributed, store_sampleCounter]
  refine Nat.add_le_add_left ?_ _
  by_cases hname : name = counter.name
  · subst hname
    by_cases hallowed : sampler.nicAllowed counter.name = true
    · rw [windowed_sampleCounter_self hallowed]
      exact Nat.le_add_right _ _
    · rw [sampleCounter_of_not_allowed (Bool.eq_false_iff.mpr hallowed)]
  · rw [(sampleCounter_other hname timestamp).1]

/-- A sample loses no traffic. -/
theorem attributed_le_sample (timestamp : ℕ) (counters : List InterfaceCounter) :
    sampler.attributed counts direction name ≤
      (sampler.sample timestamp counters).attributed counts direction name := by
  cases hthrottled : throttles sampler.config sampler.lastSampleAt timestamp with
  | true => rw [sample_of_throttled hthrottled]
  | false =>
    rw [sample_of_not_throttled hthrottled]
    exact List.foldlRecOn
      (motive := fun sampled : NetStaticSampler => sampler.attributed counts direction name ≤
        sampled.attributed counts direction name)
      counters (sampleCounter timestamp) le_rfl
      fun _ h counter _ => h.trans (attributed_le_sampleCounter timestamp counter)

/-- A flush inside the window loses no traffic of the window. -/
theorem attributed_le_flush {timestamp : ℕ} (hcounts : counts timestamp = true)
    (hrange : sampler.InRange)
    (hkept : ∀ entry ∈ listAt sampler.store name, counts entry.timestamp = true →
      timestamp - sampler.config.ttl ≤ entry.timestamp) (saved : Bool) :
    sampler.attributed counts direction name ≤
      (sampler.flush timestamp saved).attributed counts direction name := by
  rw [attributed_flush_eq (hrange.sum_lt name) hkept, if_pos hcounts, attributed]
  exact Nat.add_le_add_left (windowed_le_sum _) _

/-- `set_nics` loses no traffic of the window, if every interface with such traffic is listed. -/
theorem attributed_setNics {nics : List String}
    (h : trimmedNics nics ≠ [] → name ∉ trimmedNics nics →
      ∀ entry ∈ listAt sampler.cache name, counts entry.timestamp = false) :
    (sampler.setNics nics).attributed counts direction name =
      sampler.attributed counts direction name := by
  obtain ⟨hstore, hcache⟩ := @listAt_setNics sampler nics name
  rw [attributed, hstore, hcache, attributed]
  split_ifs with hlisted
  · rfl
  · obtain ⟨hnil, hname⟩ := not_or.mp hlisted
    rw [windowed_eq_zero (h hnil hname), windowed_nil]

theorem inWindow_now {now : ℕ} (h : start ≤ now) : inWindow start now now = true := by
  simp [inWindow, h]

/-- **A cycle loses no traffic of the period.** -/
theorem attributed_le_collect (hstart : start ≤ cycle.now)
    (hfits : CycleFits start filter sampler cycle) (hlists : CycleLists start filter sampler cycle)
    (hname : filter.shouldInclude name = true) :
    sampler.attributed (inWindow start cycle.now) direction name ≤
      (sampler.collect cycle).attributed (inWindow start cycle.now) direction name := by
  have hsampled : sampler.attributed (inWindow start cycle.now) direction name ≤
      (sampler.sampled cycle).attributed (inWindow start cycle.now) direction name := by
    unfold sampled
    split
    · exact le_rfl
    · rename_i counters hcounters
      refine le_trans (le_of_eq (Eq.symm ?_)) (attributed_le_sample _ _)
      refine attributed_setNics fun hnil hunlisted entry hentry => ?_
      rcases hlists counters hcounters hnil _ (mem_entries_of_mem_listAt hentry) hname with
        hlisted | hout
      · exact absurd hlisted hunlisted
      · exact hout entry hentry
  refine hsampled.trans ?_
  unfold collect flushIfDue
  split_ifs with hdue
  · obtain ⟨hkept, hrange⟩ := hfits hdue
    refine attributed_le_flush (inWindow_now hstart) hrange (fun entry hentry => ?_) _
    exact hkept _ (mem_entries_of_mem_listAt hentry) hname entry hentry
  · exact le_rfl

/-- A later end of the window counts no less. -/
theorem attributed_mono {now now' : ℕ} (hpos : 0 < now) (hle : now ≤ now') :
    sampler.attributed (inWindow start now) direction name ≤
      sampler.attributed (inWindow start now') direction name := by
  have hwindow : ∀ timestamp, inWindow start now timestamp = true →
      inWindow start now' timestamp = true := by
    intro timestamp h
    simp only [inWindow, Bool.not_eq_true', Bool.or_eq_false_iff, Bool.and_eq_false_iff,
      bne_eq_false_iff_eq, decide_eq_false_iff_not] at h ⊢
    omega
  have hwindowed (entries : List TrafficData) :
      windowed (inWindow start now) direction entries ≤
        windowed (inWindow start now') direction entries := by
    refine List.sum_le_sum fun entry _ => ?_
    split_ifs with hbefore hafter hafter
    · exact le_rfl
    · exact absurd (hwindow _ hbefore) hafter
    · exact Nat.zero_le _
    · exact le_rfl
  exact Nat.add_le_add (hwindowed _) (hwindowed _)

/-- One total is at most the other, up and down. -/
def TotalsLe (totals totals' : NetworkTotals) : Prop :=
  totals.totalUp ≤ totals'.totalUp ∧ totals.totalDown ≤ totals'.totalDown

theorem totalsLe_of_get {totals totals' : NetworkTotals}
    (h : ∀ direction, totals.get direction ≤ totals'.get direction) : TotalsLe totals totals' :=
  ⟨h .up, h .down⟩

/-- Every cycle reports at least what was counted before it. -/
theorem totalsLe_monthlyTotals {now : ℕ} {cycles : List CollectorCycle} (hpos : 0 < now)
    (htimes : (now :: cycles.map (·.now)).Pairwise (· ≤ ·))
    (hstart : ∀ cycle ∈ cycles, start ≤ cycle.now)
    (hfits : AtCycles (CycleFits start filter) sampler cycles)
    (hlists : AtCycles (CycleLists start filter) sampler cycles) :
    ∀ totals ∈ monthlyTotals start filter sampler cycles,
      TotalsLe (sampler.totalBetween start now filter) totals := by
  induction cycles generalizing sampler now with
  | nil => exact fun _ h => absurd h List.not_mem_nil
  | cons cycle cycles ih =>
    obtain ⟨hnow, htimes⟩ := List.pairwise_cons.mp htimes
    obtain ⟨hcycle, hstart⟩ := List.forall_mem_cons.mp hstart
    have hle : now ≤ cycle.now := hnow cycle.now List.mem_cons_self
    have hfirst : TotalsLe (sampler.totalBetween start now filter)
        ((sampler.collect cycle).totalBetween start cycle.now filter) :=
      totalsLe_of_get fun direction => get_totalBetween_le fun name hname =>
        (attributed_mono hpos hle).trans
          (attributed_le_collect hcycle hfits.1 hlists.1 hname)
    refine List.forall_mem_cons.mpr ⟨hfirst, fun totals htotals => ?_⟩
    have hrest := ih (hpos.trans_le hle) htimes hstart hfits.2 hlists.2 totals htotals
    exact ⟨hfirst.1.trans hrest.1, hfirst.2.trans hrest.2⟩

/-- **The totals of a period never go down**, if no cycle leaves out an interface that has cached
traffic of the period. -/
theorem monthly_totals_grow {cycles : List CollectorCycle}
    (htimes : (cycles.map (·.now)).Pairwise (· ≤ ·))
    (hperiod : ∀ cycle ∈ cycles, 0 < cycle.now ∧ start ≤ cycle.now)
    (hfits : AtCycles (CycleFits start filter) sampler cycles)
    (hlists : AtCycles (CycleLists start filter) sampler cycles) :
    (monthlyTotals start filter sampler cycles).Pairwise TotalsLe := by
  induction cycles generalizing sampler with
  | nil => exact List.Pairwise.nil
  | cons cycle cycles ih =>
    obtain ⟨hcycle, hrest⟩ := List.forall_mem_cons.mp hperiod
    refine List.pairwise_cons.mpr ⟨?_, ih (List.pairwise_cons.mp htimes).2 hrest hfits.2 hlists.2⟩
    exact totalsLe_monthlyTotals hcycle.1 htimes (fun cycle hmem => (hrest cycle hmem).2) hfits.2
      hlists.2

/-- Two interfaces, the second of which is missing in the last cycle. -/
def vanishing : List CollectorCycle :=
  [⟨100, some [⟨"eth0", 0, 0⟩, ⟨"eth1", 0, 0⟩], true⟩,
    ⟨110, some [⟨"eth0", 10, 10⟩, ⟨"eth1", 500, 700⟩], true⟩,
    ⟨120, some [⟨"eth0", 20, 20⟩], true⟩]

/-- The first two cycles. -/
theorem monthly_totals_grow_steady :
    monthlyTotals 50 ⟨[], []⟩ (new defaultConfig) (vanishing.take 2) = [⟨0, 0⟩, ⟨510, 710⟩] ∧
    (monthlyTotals 50 ⟨[], []⟩ (new defaultConfig) (vanishing.take 2)).Pairwise TotalsLe := by
  refine ⟨by decide +kernel, monthly_totals_grow ?_ ?_ ?_ ?_⟩
  all_goals decide +kernel

/-- The cached traffic of an interface that disappears is lost. -/
theorem vanished_interface_lowers_total :
    monthlyTotals 50 ⟨[], []⟩ (new defaultConfig) vanishing =
      [⟨0, 0⟩, ⟨510, 710⟩, ⟨20, 20⟩] := by
  decide +kernel

end Cycles

end NetStaticSampler

end KeliAgent
