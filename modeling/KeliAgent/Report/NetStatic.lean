import KeliAgent.Lib.Text
import KeliAgent.Lib.Table

/-!
# The sampler of network traffic

`NetStaticSampler` (`net_static.rs`) keeps the last counters of every interface, the traffic since
the last flush in a cache, and flushed traffic in a store. The intervals and the preserve window are
`f64` values of the configuration; the model takes what the code computes from them: which elapsed
times are below the detect interval, which reach the save interval, and the window in seconds. The
iteration order of the maps is that of an association list.

* `listAt_flush`, `listAt_setNics`: what happens to the entries of one interface.
* **`totalBetween_get`**: a total is the sum of what it attributes to each interface, up to the
  largest `i64`.
-/

namespace KeliAgent

open Table

/-! ## The filter -/

structure NetworkFilter where
  included : List String
  excluded : List String

/-- The interfaces that are never counted, by how their names start. -/
def excludedPrefixes : List String :=
  ["br", "cni", "docker", "podman", "flannel", "lo", "veth", "virbr", "vmbr"]

def shouldIncludeInterface (name : String) : Bool :=
  !excludedPrefixes.any fun start => Text.startsWith name start

def NetworkFilter.shouldInclude (filter : NetworkFilter) (name : String) : Bool :=
  if !shouldIncludeInterface name then false
  else if !filter.included.isEmpty then filter.included.any (· == name)
  else !filter.excluded.any (· == name)

/-! ## The sampler -/

/-- Up is `tx`, down is `rx`. -/
inductive Direction where
  | up | down
  deriving DecidableEq, Repr

structure TrafficData where
  timestamp : ℕ
  tx : ℕ
  rx : ℕ
  deriving DecidableEq, Repr

def TrafficData.amount (entry : TrafficData) : Direction → ℕ
  | .up => entry.tx
  | .down => entry.rx

structure CounterTotals where
  tx : ℕ
  rx : ℕ
  deriving DecidableEq, Repr

structure InterfaceCounter where
  name : String
  totalUp : ℕ
  totalDown : ℕ
  deriving DecidableEq, Repr

def InterfaceCounter.count (counter : InterfaceCounter) : Direction → ℕ
  | .up => counter.totalUp
  | .down => counter.totalDown

/-- The `i64` totals of a report, which are never negative. -/
structure NetworkTotals where
  totalUp : ℕ
  totalDown : ℕ
  deriving DecidableEq, Repr

def NetworkTotals.get (totals : NetworkTotals) : Direction → ℕ
  | .up => totals.totalUp
  | .down => totals.totalDown

structure NetStaticSamplerConfig where
  belowDetectInterval : ℕ → Bool
  reachesSaveInterval : ℕ → Bool
  ttl : ℕ
  nics : List String

abbrev TrafficTable := AList fun _ : String => List TrafficData

structure NetStaticSampler where
  config : NetStaticSamplerConfig
  store : TrafficTable
  cache : TrafficTable
  lastCounters : AList fun _ : String => CounterTotals
  lastSampleAt : Option ℕ
  lastSaveAt : Option ℕ

def i64Max : ℕ := 2 ^ 63 - 1

/-- `saturating_add` of `u64_to_i64(amount)`. -/
def saturatingAdd (total amount : ℕ) : ℕ := min (total + min amount i64Max) i64Max

/-- The window; a bound that is zero is none. -/
def inWindow (start finish timestamp : ℕ) : Bool :=
  !((start != 0 && timestamp < start) || (finish != 0 && timestamp > finish))

namespace NetStaticSampler

/-- A sampler on an empty file. -/
def new (config : NetStaticSamplerConfig) : NetStaticSampler :=
  ⟨config, ∅, ∅, ∅, none, none⟩

variable (sampler : NetStaticSampler)

def nicAllowed (name : String) : Bool :=
  sampler.config.nics.isEmpty || sampler.config.nics.any (· == name)

/-- The interfaces that `set_nics` keeps. -/
def trimmedNics (nics : List String) : List String := (nics.map Text.trim).filter (· != "")

/-- What is kept of a map. -/
def keepAllowed {β : Type} (nics : List String) (name : String) (value : β) : Option β :=
  if nics.any (· == name) then some value else none

def setNics (nics : List String) : NetStaticSampler :=
  let sampler := { sampler with config := { sampler.config with nics := trimmedNics nics } }
  if trimmedNics nics = [] then sampler
  else
    { sampler with
      lastCounters := retain (keepAllowed (trimmedNics nics)) sampler.lastCounters
      cache := retain (keepAllowed (trimmedNics nics)) sampler.cache }

/-- The sample comes too soon after the last one that was processed. -/
def throttles (config : NetStaticSamplerConfig) (lastSampleAt : Option ℕ) (timestamp : ℕ) : Bool :=
  match lastSampleAt with
  | none => false
  | some last => config.belowDetectInterval (timestamp - last)

/-- The traffic between two readings of an interface. -/
def traffic (timestamp : ℕ) (previous : CounterTotals) (counter : InterfaceCounter) : TrafficData :=
  ⟨timestamp, counter.totalUp - previous.tx, counter.totalDown - previous.rx⟩

/-- One counter of a sample. -/
def sampleCounter (timestamp : ℕ) (sampler : NetStaticSampler) (counter : InterfaceCounter) :
    NetStaticSampler :=
  if !sampler.nicAllowed counter.name then sampler
  else
    { sampler with
      cache :=
        match sampler.lastCounters.lookup counter.name with
        | none => sampler.cache
        | some previous =>
          let entry := traffic timestamp previous counter
          if entry.tx > 0 ∨ entry.rx > 0 then push sampler.cache counter.name entry
          else sampler.cache
      lastCounters :=
        sampler.lastCounters.insert counter.name ⟨counter.totalUp, counter.totalDown⟩ }

def sample (timestamp : ℕ) (counters : List InterfaceCounter) : NetStaticSampler :=
  if throttles sampler.config sampler.lastSampleAt timestamp then sampler
  else
    { counters.foldl (sampleCounter timestamp) sampler with lastSampleAt := some timestamp }

/-- `iter().sum::<u64>()`. -/
def sumAmounts (entries : List TrafficData) (direction : Direction) : ℕ :=
  (entries.map (·.amount direction)).sum % 2 ^ 64

/-- One interface of the cache goes to the store. -/
def flushEntry (timestamp : ℕ) (store : TrafficTable)
    (cached : Sigma fun _ : String => List TrafficData) : TrafficTable :=
  let entry : TrafficData := ⟨timestamp, sumAmounts cached.2 .up, sumAmounts cached.2 .down⟩
  if entry.tx > 0 ∨ entry.rx > 0 then push store cached.1 entry else store

def flushCache (timestamp : ℕ) : NetStaticSampler :=
  { sampler with
    store := sampler.cache.entries.foldl (flushEntry timestamp) sampler.store
    cache := ∅ }

/-- Entries older than the preserve window are dropped, and interfaces without entries. -/
def purgeExpired (now : ℕ) : NetStaticSampler :=
  { sampler with
    store := retain (fun _ entries =>
      let kept := entries.filter fun entry => entry.timestamp ≥ now - sampler.config.ttl
      if kept.isEmpty then none else some kept) sampler.store }

/-- `saved` is whether the file could be written. -/
def flush (timestamp : ℕ) (saved : Bool) : NetStaticSampler :=
  let sampler := (sampler.flushCache timestamp).purgeExpired timestamp
  if saved then { sampler with lastSaveAt := some timestamp } else sampler

def saveDue (timestamp : ℕ) : Bool :=
  match sampler.lastSaveAt with
  | none => true
  | some last => sampler.config.reachesSaveInterval (timestamp - last)

def flushIfDue (timestamp : ℕ) (saved : Bool) : NetStaticSampler :=
  if sampler.saveDue timestamp then sampler.flush timestamp saved else sampler

def addEntry (start finish : ℕ) (totals : NetworkTotals) (entry : TrafficData) : NetworkTotals :=
  if inWindow start finish entry.timestamp then
    ⟨saturatingAdd totals.totalUp entry.tx, saturatingAdd totals.totalDown entry.rx⟩
  else totals

def addTotalsBetween (values : TrafficTable) (start finish : ℕ) (filter : NetworkFilter)
    (totals : NetworkTotals) : NetworkTotals :=
  values.entries.foldl
    (fun totals entry => if !filter.shouldInclude entry.1 then totals
      else entry.2.foldl (addEntry start finish) totals) totals

def totalBetween (start finish : ℕ) (filter : NetworkFilter) : NetworkTotals :=
  addTotalsBetween sampler.cache start finish filter
    (addTotalsBetween sampler.store start finish filter ⟨0, 0⟩)

/-! ## The entries of one interface -/

section Interface

variable {sampler}

/-- What a flush puts into the store for an interface. -/
def merged (timestamp : ℕ) (entries : List TrafficData) : List TrafficData :=
  if sumAmounts entries .up > 0 ∨ sumAmounts entries .down > 0 then
    [⟨timestamp, sumAmounts entries .up, sumAmounts entries .down⟩]
  else []

theorem listAt_flushEntry (timestamp : ℕ) (store : TrafficTable)
    (cached : Sigma fun _ : String => List TrafficData) (name : String) :
    listAt (flushEntry timestamp store cached) name =
      listAt store name ++ if name = cached.1 then merged timestamp cached.2 else [] := by
  unfold flushEntry merged
  simp only
  split_ifs
  · rw [listAt_push, if_pos ‹_›]
  · rw [listAt_push, if_neg ‹_›]
  · rw [List.append_nil]
  · rw [List.append_nil]

theorem listAt_flushCache (timestamp : ℕ) (name : String) :
    listAt (sampler.flushCache timestamp).store name =
      listAt sampler.store name ++ merged timestamp (listAt sampler.cache name) := by
  rw [flushCache, listAt_foldl (fun _ => merged timestamp) (listAt_flushEntry timestamp)
    sampler.cache.nodupKeys]
  congr 1
  rw [listAt, AList.lookup]
  cases sampler.cache.entries.dlookup name with
  | none => rfl
  | some entries => rfl

/-- The entries that are not older than the preserve window. -/
def unexpired (ttl now : ℕ) (entries : List TrafficData) : List TrafficData :=
  entries.filter fun entry => entry.timestamp ≥ now - ttl

theorem listAt_purgeExpired (now : ℕ) (name : String) :
    listAt (sampler.purgeExpired now).store name =
      unexpired sampler.config.ttl now (listAt sampler.store name) := by
  rw [purgeExpired, listAt, lookup_retain, listAt]
  cases sampler.store.lookup name with
  | none => rfl
  | some entries =>
    simp only [Option.bind_some, Option.getD_some]
    split_ifs with hempty
    · rw [List.isEmpty_iff] at hempty
      exact hempty.symm
    · rfl

/-- A flush moves the cached traffic of an interface to its entries in the store. -/
theorem listAt_flush (timestamp : ℕ) (saved : Bool) (name : String) :
    listAt (sampler.flush timestamp saved).store name =
        unexpired sampler.config.ttl timestamp
          (listAt sampler.store name ++ merged timestamp (listAt sampler.cache name)) ∧
      listAt (sampler.flush timestamp saved).cache name = [] := by
  have hstore : listAt ((sampler.flushCache timestamp).purgeExpired timestamp).store name =
      unexpired sampler.config.ttl timestamp
        (listAt sampler.store name ++ merged timestamp (listAt sampler.cache name)) := by
    rw [listAt_purgeExpired, listAt_flushCache]
    rfl
  unfold flush
  simp only
  split_ifs
  · exact ⟨hstore, rfl⟩
  · exact ⟨hstore, rfl⟩

theorem flush_frame (timestamp : ℕ) (saved : Bool) :
    (sampler.flush timestamp saved).config = sampler.config ∧
      (sampler.flush timestamp saved).lastCounters = sampler.lastCounters ∧
      (sampler.flush timestamp saved).lastSampleAt = sampler.lastSampleAt := by
  unfold flush
  simp only
  split_ifs
  · exact ⟨rfl, rfl, rfl⟩
  · exact ⟨rfl, rfl, rfl⟩

theorem listAt_keepAllowed (nics : List String) (table : TrafficTable) (name : String) :
    listAt (retain (keepAllowed nics) table) name =
      if name ∈ nics then listAt table name else [] := by
  have hany : nics.any (· == name) = true ↔ name ∈ nics := by
    rw [List.any_beq', List.contains_iff_mem]
  rw [listAt, lookup_retain, listAt]
  cases table.lookup name with
  | none => split_ifs <;> rfl
  | some entries =>
    rw [Option.bind_some, keepAllowed]
    simp only [hany]
    split_ifs <;> rfl

/-- `set_nics` drops the cached traffic of every interface that is not on the list, unless the list
has no names. -/
theorem listAt_setNics (nics : List String) (name : String) :
    listAt (sampler.setNics nics).store name = listAt sampler.store name ∧
      listAt (sampler.setNics nics).cache name =
        if trimmedNics nics = [] ∨ name ∈ trimmedNics nics then listAt sampler.cache name
        else [] := by
  unfold setNics
  simp only
  split_ifs with hnil hmem hmem
  · exact ⟨rfl, rfl⟩
  · exact absurd (Or.inl hnil) hmem
  · exact ⟨rfl, (listAt_keepAllowed _ _ _).trans (if_pos (hmem.resolve_left hnil))⟩
  · exact ⟨rfl, (listAt_keepAllowed _ _ _).trans (if_neg fun h => hmem (Or.inr h))⟩

end Interface

/-! ## Totals -/

/-- The amount of the entries whose timestamps count. -/
def windowed (counts : ℕ → Bool) (direction : Direction) (entries : List TrafficData) : ℕ :=
  (entries.map fun entry => if counts entry.timestamp then entry.amount direction else 0).sum

@[simp] theorem windowed_nil (counts : ℕ → Bool) (direction : Direction) :
    windowed counts direction [] = 0 := rfl

@[simp] theorem windowed_cons (counts : ℕ → Bool) (direction : Direction) (entry : TrafficData)
    (entries : List TrafficData) : windowed counts direction (entry :: entries) =
      (if counts entry.timestamp then entry.amount direction else 0) +
        windowed counts direction entries := rfl

@[simp] theorem windowed_append (counts : ℕ → Bool) (direction : Direction)
    (entries entries' : List TrafficData) : windowed counts direction (entries ++ entries') =
      windowed counts direction entries + windowed counts direction entries' := by
  rw [windowed, List.map_append, List.sum_append]
  rfl

/-- What a total attributes to an interface. -/
def attributed (counts : ℕ → Bool) (direction : Direction) (name : String) : ℕ :=
  windowed counts direction (listAt sampler.store name) +
    windowed counts direction (listAt sampler.cache name)

section Totals

variable {start finish : ℕ} {direction : Direction} {totals : NetworkTotals} {amount : ℕ}

theorem saturatingAdd_min (total amount : ℕ) :
    saturatingAdd (min total i64Max) amount = min (total + amount) i64Max := by
  unfold saturatingAdd
  omega

theorem get_addEntry (h : totals.get direction = min amount i64Max) (entry : TrafficData) :
    (addEntry start finish totals entry).get direction =
      min (amount + if inWindow start finish entry.timestamp then entry.amount direction else 0)
        i64Max := by
  unfold addEntry
  split_ifs
  · cases direction with
    | up => exact (congrArg (saturatingAdd · entry.tx) h).trans (saturatingAdd_min amount entry.tx)
    | down =>
      exact (congrArg (saturatingAdd · entry.rx) h).trans (saturatingAdd_min amount entry.rx)
  · exact h

theorem get_foldl_addEntry (entries : List TrafficData)
    (h : totals.get direction = min amount i64Max) :
    (entries.foldl (addEntry start finish) totals).get direction =
      min (amount + windowed (inWindow start finish) direction entries) i64Max := by
  induction entries generalizing totals amount with
  | nil => exact h
  | cons entry entries ih =>
    rw [List.foldl_cons, ih (get_addEntry h entry), windowed_cons, ← add_assoc]

/-- The amount of an interface, if the filter has it. -/
def filtered (filter : NetworkFilter) (counts : ℕ → Bool) (direction : Direction) (name : String)
    (entries : List TrafficData) : ℕ :=
  if filter.shouldInclude name then windowed counts direction entries else 0

variable (start finish) in
theorem get_addTotalsBetween (values : TrafficTable) (filter : NetworkFilter)
    (h : totals.get direction = min amount i64Max) :
    (addTotalsBetween values start finish filter totals).get direction =
      min (amount + (values.entries.map fun entry =>
        filtered filter (inWindow start finish) direction entry.1 entry.2).sum) i64Max := by
  unfold addTotalsBetween
  induction values.entries generalizing totals amount with
  | nil => exact h
  | cons entry entries ih =>
    rw [List.foldl_cons, List.map_cons, List.sum_cons, ← add_assoc]
    refine ih ?_
    unfold filtered
    by_cases hinclude : filter.shouldInclude entry.1 = true
    · simp only [hinclude, Bool.not_true, Bool.false_eq_true, if_false, if_true]
      exact get_foldl_addEntry entry.2 h
    · rw [Bool.not_eq_true] at hinclude
      simp only [hinclude, Bool.not_false, if_true, Bool.false_eq_true, if_false]
      exact h

variable {sampler}

/-- **A total is the sum of what it attributes to the interfaces of the filter**, up to the largest
`i64`. -/
theorem totalBetween_get (filter : NetworkFilter) (names : Finset String)
    (hstore : ∀ name ∈ sampler.store.keys, name ∈ names)
    (hcache : ∀ name ∈ sampler.cache.keys, name ∈ names) :
    (sampler.totalBetween start finish filter).get direction =
      min (∑ name ∈ names with filter.shouldInclude name = true,
        sampler.attributed (inWindow start finish) direction name) i64Max := by
  have hnil : ∀ name, filtered filter (inWindow start finish) direction name [] = 0 := by
    intro name
    unfold filtered
    split_ifs <;> rfl
  have hzero : (⟨0, 0⟩ : NetworkTotals).get direction = min 0 i64Max := by
    cases direction <;> rfl
  have hget := get_addTotalsBetween start finish sampler.cache filter
    (get_addTotalsBetween start finish sampler.store filter hzero)
  rw [totalBetween, hget, zero_add, sum_entries hnil sampler.store hstore,
    sum_entries hnil sampler.cache hcache, ← Finset.sum_add_distrib, Finset.sum_filter]
  congr 1
  refine Finset.sum_congr rfl fun name _ => ?_
  unfold filtered attributed
  split_ifs <;> rfl

end Totals

end NetStaticSampler

end KeliAgent
