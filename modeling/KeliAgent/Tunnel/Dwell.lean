import KeliAgent.Lib.Ranks
import KeliAgent.Tunnel.BatchPolicy
import KeliAgent.Tunnel.QueueHistory

/-!
# Percentiles of the dwell times

`TunnelRuntimeStats::snapshot` of `tunnel_async_runtime.rs`: how long frames have waited in the
outbound queue, over the life of the runtime and over the last frames, from counts in buckets. The
size of a relay batch depends on the second of these. `none` is an overflow.

* `TunnelQueueDwellStats.Records`: the counters after a sequence of dwell times.
* `IsNearestRank`: the nearest-rank percentile up to the bounds of the buckets.
* **`dwell_percentiles_nearest_rank`**; `effectiveOutboundBatchFrames_of_severe`: a backlog in the
  last frames caps the batches.
-/

namespace KeliAgent

open Ranks

/-! ## The code -/

/-- `u64::saturating_add` -/
def saturatingAddU64 (a b : UInt64) : UInt64 := UInt64.ofNat (min (a.toNat + b.toNat) (2 ^ 64 - 1))

/-- The product of two `u64`. -/
def checkedMulU64 (a b : UInt64) : Option UInt64 :=
  if a.toNat * b.toNat < 2 ^ 64 then some (a * b) else none

/-- All of the snapshot; the policy reads one field of it. -/
structure TunnelQueueDwellSnapshot extends TunnelQueueDwellStatsSnapshot where
  frames : ℕ
  microsTotal : ℕ
  microsMax : ℕ
  p50Micros : ℕ
  p99Micros : ℕ
  deriving DecidableEq, Repr

/-- The loop of `outbound_queue_dwell_percentile`. -/
def percentileLoop (rank overflowBucketValue : UInt64) : List UInt64 → ℕ → UInt64 → UInt64
  | [], _, _ => overflowBucketValue
  | count :: counts, index, cumulative =>
    let cumulative := saturatingAddU64 cumulative count
    if rank ≤ cumulative then
      if index = outboundQueueDwellMicrosBuckets.length - 1 then overflowBucketValue
      else outboundQueueDwellMicrosBuckets.getD index 0
    else percentileLoop rank overflowBucketValue counts (index + 1) cumulative

def outboundQueueDwellPercentile (buckets : List UInt64)
    (total percentile overflowBucketValue : UInt64) : Option UInt64 :=
  if total = 0 then some 0
  else do
    let product ← checkedMulU64 total percentile
    let rank := max (saturatingAddU64 product 99 / 100) 1
    return percentileLoop rank overflowBucketValue buckets 0 0

def outboundQueueDwellSnapshot (frames microsTotal microsMax : UInt64) (buckets : List UInt64) :
    Option TunnelQueueDwellSnapshot := do
  let p50 ← outboundQueueDwellPercentile buckets frames 50 microsMax
  let p95 ← outboundQueueDwellPercentile buckets frames 95 microsMax
  let p99 ← outboundQueueDwellPercentile buckets frames 99 microsMax
  return {
    frames := frames.toNat
    microsTotal := microsTotal.toNat
    microsMax := microsMax.toNat
    p50Micros := p50.toNat
    p95Micros := p95.toNat
    p99Micros := p99.toNat }

/-- The loop body of the snapshot of the last samples. -/
def TunnelQueueDwellStats.addSample (dwell : TunnelQueueDwellStats) (elapsedMicros : UInt64) :
    TunnelQueueDwellStats :=
  { dwell with
    microsTotal := saturatingAddU64 dwell.microsTotal elapsedMicros
    microsMax := max dwell.microsMax elapsedMicros
    microsBuckets :=
      dwell.microsBuckets.modify (outboundQueueDwellBucketIndex elapsedMicros) (· + 1) }

/-- `TunnelQueueDwellRecentStatsInner::snapshot` -/
def recentDwellSnapshot (samples : List UInt64) : Option TunnelQueueDwellSnapshot :=
  let dwell := samples.foldl TunnelQueueDwellStats.addSample
    { frames := UInt64.ofNat samples.length, microsTotal := 0, microsMax := 0
      microsBuckets := List.replicate outboundQueueDwellMicrosBuckets.length 0 }
  outboundQueueDwellSnapshot dwell.frames dwell.microsTotal dwell.microsMax dwell.microsBuckets

structure TunnelRuntimeStatsSnapshot where
  activeSessions : ℕ
  totalSessions : UInt64
  bytesIn : UInt64
  bytesOut : UInt64
  ruleSessionCounts : UInt64 → ℕ
  outboundQueueDwell : TunnelQueueDwellSnapshot
  recentOutboundQueueDwell : TunnelQueueDwellSnapshot

def TunnelRuntimeStats.snapshot (stats : TunnelRuntimeStats) :
    Option TunnelRuntimeStatsSnapshot := do
  let dwell := stats.outboundQueueDwell
  let outboundQueueDwell ←
    outboundQueueDwellSnapshot dwell.frames dwell.microsTotal dwell.microsMax dwell.microsBuckets
  let recentOutboundQueueDwell ← recentDwellSnapshot stats.recentOutboundQueueDwell
  return {
    activeSessions := stats.activeSessions
    totalSessions := stats.totalSessions
    bytesIn := stats.bytesIn
    bytesOut := stats.bytesOut
    ruleSessionCounts := stats.ruleSessionCounts
    outboundQueueDwell
    recentOutboundQueueDwell }

/-- `effective_outbound_batch_frames` of the core, whose limits hold the policy and the tuning. -/
def effectiveOutboundBatchFrames (policy : TunnelRelayBatchPolicy) (tuning : TunnelRelayBatchTuning)
    (stats : TunnelRuntimeStats) (configuredBatchFrames : ℕ) : Option ℕ := do
  let stats ← stats.snapshot
  return policy.effectiveBatchFramesWithTuning configuredBatchFrames stats.activeSessions
    stats.recentOutboundQueueDwell.toTunnelQueueDwellStatsSnapshot tuning

/-! ## Buckets -/

/-- The bounds of the buckets. -/
def dwellBounds : List ℕ := outboundQueueDwellMicrosBuckets.map UInt64.toNat

theorem dwellBounds_ne_nil : dwellBounds ≠ [] := by decide

theorem pairwise_dwellBounds : dwellBounds.Pairwise (· ≤ ·) := by decide

theorem monotone_bucketOf_dwellBounds : Monotone (bucketOf dwellBounds) :=
  fun _ _ => bucketOf_mono dwellBounds_ne_nil

theorem outboundQueueDwellBucketIndex_eq (elapsedMicros : UInt64) :
    outboundQueueDwellBucketIndex elapsedMicros = bucketOf dwellBounds elapsedMicros.toNat := by
  rw [outboundQueueDwellBucketIndex, bucketOf, dwellBounds, List.findIdx?_map, List.length_map]
  simp only [Function.comp_def, UInt64.le_iff_toNat_le]

/-- The last bucket has the times beyond the last finite bound. -/
theorem bucketOf_eq_last_iff (t : ℕ) :
    bucketOf dwellBounds t = outboundQueueDwellMicrosBuckets.length - 1 ↔ 1000000 < t := by
  constructor
  · intro hlast
    by_contra hle
    have hmono := monotone_bucketOf_dwellBounds (not_lt.mp hle)
    have hfinite : bucketOf dwellBounds 1000000 = 15 := by decide
    have hlength : outboundQueueDwellMicrosBuckets.length = 17 := rfl
    omega
  · intro hlt
    have hmono := monotone_bucketOf_dwellBounds (show 1000001 ≤ t from hlt)
    have hfirst : bucketOf dwellBounds 1000001 = 16 := by decide
    have hbound := bucketOf_lt dwellBounds_ne_nil t
    have hlength : outboundQueueDwellMicrosBuckets.length = 17 := rfl
    have hlength' : dwellBounds.length = 17 := rfl
    omega

/-- What the loop returns for a bucket. -/
def bucketValue (overflowBucketValue : UInt64) (index : ℕ) : UInt64 :=
  if index = outboundQueueDwellMicrosBuckets.length - 1 then overflowBucketValue
  else outboundQueueDwellMicrosBuckets.getD index 0

theorem bucketValue_of_lt (overflowBucketValue : UInt64) {t : ℕ} (ht : 1000000 < t) :
    bucketValue overflowBucketValue (bucketOf dwellBounds t) = overflowBucketValue :=
  if_pos ((bucketOf_eq_last_iff t).mpr ht)

theorem isLeast_bucketValue (overflowBucketValue : UInt64) {t : ℕ} (ht : t ≤ 1000000) :
    IsLeast {b | b ∈ dwellBounds ∧ t ≤ b}
      (bucketValue overflowBucketValue (bucketOf dwellBounds t)).toNat := by
  have hlast : ¬ bucketOf dwellBounds t = outboundQueueDwellMicrosBuckets.length - 1 := by
    rw [bucketOf_eq_last_iff]
    omega
  have hlt : bucketOf dwellBounds t < outboundQueueDwellMicrosBuckets.length :=
    bucketOf_lt dwellBounds_ne_nil t
  apply isLeast_bucketOf pairwise_dwellBounds ⟨1000000, by decide, ht⟩
  have hmap : ∀ i, dwellBounds[i]? = outboundQueueDwellMicrosBuckets[i]?.map UInt64.toNat :=
    fun i => List.getElem?_map
  rw [bucketValue, if_neg hlast, hmap, List.getElem?_eq_getElem hlt,
    List.getD_eq_getElem _ _ hlt]
  rfl

/-! ## The loop -/

theorem toNat_max_u64 (a b : UInt64) : (max a b).toNat = max a.toNat b.toNat := by
  change (if a ≤ b then b else a).toNat = _
  split_ifs with h
  · exact (max_eq_right (UInt64.le_iff_toNat_le.mp h)).symm
  · rw [UInt64.le_iff_toNat_le, not_le] at h
    exact (max_eq_left h.le).symm

theorem toNat_saturatingAddU64 {a b : UInt64} (h : a.toNat + b.toNat < 2 ^ 64) :
    (saturatingAddU64 a b).toNat = a.toNat + b.toNat := by
  rw [saturatingAddU64, min_eq_left (by omega), UInt64.toNat_ofNat_of_lt' h]

/-- The loop stops at the bucket in which the counts reach the rank. -/
theorem percentileLoop_eq (overflowBucketValue : UInt64) {rank cumulative : UInt64}
    {counts : List ℕ} (index : ℕ) (hsum : cumulative.toNat + counts.sum < 2 ^ 64)
    (hrank : cumulative.toNat < rank.toNat) :
    percentileLoop rank overflowBucketValue (counts.map UInt64.ofNat) index cumulative =
      ((reach (rank.toNat - cumulative.toNat) counts).map fun i =>
        bucketValue overflowBucketValue (index + i)).getD overflowBucketValue := by
  induction counts generalizing index cumulative with
  | nil => rfl
  | cons count counts ih =>
    rw [List.sum_cons] at hsum
    have hcount : (UInt64.ofNat count).toNat = count :=
      UInt64.toNat_ofNat_of_lt' (show count < 2 ^ 64 by omega)
    have hadd : (saturatingAddU64 cumulative (UInt64.ofNat count)).toNat =
        cumulative.toNat + count := by
      rw [toNat_saturatingAddU64 (by omega), hcount]
    rw [List.map_cons, percentileLoop, reach]
    simp only [UInt64.le_iff_toNat_le, hadd]
    by_cases hreached : rank.toNat ≤ cumulative.toNat + count
    · rw [if_pos hreached, if_pos (show rank.toNat - cumulative.toNat ≤ count by omega)]
      rfl
    · rw [if_neg hreached, if_neg (show ¬ rank.toNat - cumulative.toNat ≤ count by omega),
        ih (index + 1) (by omega) (by omega), hadd, Option.map_map, Nat.sub_sub]
      simp only [Function.comp_def, Nat.add_assoc, Nat.add_comm 1]

/-- The rank of a percentile does not overflow. -/
theorem rank_eq {n p : ℕ} (hn : 1 ≤ n) (hle : n ≤ (2 ^ 64 - 1) / 100) (hp : 1 ≤ p) (hp' : p ≤ 99) :
    ∃ product, checkedMulU64 (UInt64.ofNat n) (UInt64.ofNat p) = some product ∧
      (max (saturatingAddU64 product 99 / 100) 1).toNat = n * p ⌈/⌉ 100 := by
  have hproduct : n * p ≤ (2 ^ 64 - 1) / 100 * 99 := Nat.mul_le_mul hle hp'
  have hpos : 1 ≤ n * p := Nat.mul_pos hn hp
  have hn' : (UInt64.ofNat n).toNat = n := UInt64.toNat_ofNat_of_lt' (show n < 2 ^ 64 by omega)
  have hp'' : (UInt64.ofNat p).toNat = p := UInt64.toNat_ofNat_of_lt' (show p < 2 ^ 64 by omega)
  have hmul : (UInt64.ofNat n * UInt64.ofNat p).toNat = n * p := by
    rw [UInt64.toNat_mul, hn', hp'', Nat.mod_eq_of_lt (by omega)]
  have hadd : (saturatingAddU64 (UInt64.ofNat n * UInt64.ofNat p) 99).toNat = n * p + 99 := by
    rw [toNat_saturatingAddU64 (by rw [hmul]; change n * p + 99 < 2 ^ 64; omega), hmul]
    rfl
  refine ⟨_, if_pos (by rw [hn', hp'']; omega), ?_⟩
  rw [toNat_max_u64, UInt64.toNat_div, hadd, Nat.ceilDiv_eq_add_pred_div]
  change max ((n * p + 99) / 100) 1 = (n * p + 99) / 100
  omega

/-! ## The counters -/

/-- The counters after these dwell times, as far as the percentiles depend on them. -/
structure TunnelQueueDwellStats.Records (dwell : TunnelQueueDwellStats) (times : List ℕ) :
    Prop where
  max : IsGreatest {t | t ∈ 0 :: times} dwell.microsMax.toNat
  buckets : dwell.microsBuckets =
    (counts (bucketOf dwellBounds) dwellBounds.length times).map UInt64.ofNat

namespace TunnelQueueDwellStats.Records

variable {dwell dwell' : TunnelQueueDwellStats} {times : List ℕ}

theorem empty (hmax : dwell.microsMax = 0)
    (hbuckets : dwell.microsBuckets = List.replicate outboundQueueDwellMicrosBuckets.length 0) :
    dwell.Records [] := by
  refine ⟨?_, ?_⟩
  · rw [hmax]
    simp [IsGreatest, upperBounds]
  · rw [hbuckets, counts_nil, List.map_replicate]
    rfl

/-- One more dwell time. -/
theorem add (h : dwell.Records times) (elapsedMicros : UInt64)
    (hmax : dwell'.microsMax = Max.max dwell.microsMax elapsedMicros)
    (hbuckets : dwell'.microsBuckets =
      dwell.microsBuckets.modify (outboundQueueDwellBucketIndex elapsedMicros) (· + 1)) :
    dwell'.Records (times ++ [elapsedMicros.toNat]) := by
  obtain ⟨hmem, hupper⟩ := h.max
  refine ⟨⟨?_, ?_⟩, ?_⟩
  · rw [hmax, toNat_max_u64]
    rcases max_choice dwell.microsMax.toNat elapsedMicros.toNat with heq | heq
    · rw [heq]
      exact List.mem_append_left [elapsedMicros.toNat] hmem
    · rw [heq]
      exact List.mem_append_right (0 :: times) List.mem_cons_self
  · intro t ht
    rw [hmax, toNat_max_u64]
    rcases List.mem_append.mp (show t ∈ (0 :: times) ++ [elapsedMicros.toNat] from ht) with ht | ht
    · exact (hupper ht).trans (le_max_left _ _)
    · rw [List.mem_singleton.mp ht]
      exact le_max_right _ _
  · rw [hbuckets, h.buckets, counts_concat, map_modify_succ, outboundQueueDwellBucketIndex_eq]

end TunnelQueueDwellStats.Records

/-! ## Percentiles -/

/-- The value is the nearest-rank percentile of the dwell times, rounded up to a bound of a bucket.
Beyond the last finite bound it is the longest dwell time. -/
def IsNearestRank (times : List ℕ) (p value : ℕ) : Prop :=
  ∃ t, kthSmallest times (times.length * p ⌈/⌉ 100) = some t ∧
    (t ≤ 1000000 → IsLeast {b | b ∈ dwellBounds ∧ t ≤ b} value) ∧
    (1000000 < t → IsGreatest {t | t ∈ times} value)

theorem one_le_rank {n p : ℕ} (hn : 1 ≤ n) (hp : 1 ≤ p) : 1 ≤ n * p ⌈/⌉ 100 := by
  have hpos : 1 ≤ n * p := Nat.mul_pos hn hp
  rw [Nat.ceilDiv_eq_add_pred_div]
  omega

theorem rank_le {n p : ℕ} (hp : p ≤ 100) : n * p ⌈/⌉ 100 ≤ n := by
  have hle : n * p ≤ n * 100 := Nat.mul_le_mul_left n hp
  rw [Nat.ceilDiv_eq_add_pred_div]
  omega

/-- The percentile is not below the dwell time of its rank. -/
theorem IsNearestRank.le {times : List ℕ} {p value : ℕ} (h : IsNearestRank times p value) :
    ∃ t, kthSmallest times (times.length * p ⌈/⌉ 100) = some t ∧ t ≤ value := by
  obtain ⟨t, hkth, hfinite, hoverflow⟩ := h
  refine ⟨t, hkth, ?_⟩
  rcases le_or_gt t 1000000 with ht | ht
  · exact (hfinite ht).1.2
  · exact (hoverflow ht).2 (mem_of_kthSmallest hkth)

/-- Higher percentiles are not smaller. -/
theorem IsNearestRank.mono {times : List ℕ} {p q value value' : ℕ} (hpq : p ≤ q)
    (h : IsNearestRank times p value) (h' : IsNearestRank times q value') : value ≤ value' := by
  obtain ⟨t, hkth, hfinite, hoverflow⟩ := h
  obtain ⟨t', hkth', hfinite', hoverflow'⟩ := h'
  have hrank : times.length * p ⌈/⌉ 100 ≤ times.length * q ⌈/⌉ 100 := by
    have hle : times.length * p ≤ times.length * q := Nat.mul_le_mul_left _ hpq
    rw [Nat.ceilDiv_eq_add_pred_div, Nat.ceilDiv_eq_add_pred_div]
    omega
  have htt' : t ≤ t' := kthSmallest_mono hrank hkth hkth'
  rcases le_or_gt t' 1000000 with ht' | ht'
  · obtain ⟨hmem', hle'⟩ := (hfinite' ht').1
    exact (hfinite (htt'.trans ht')).2 ⟨hmem', htt'.trans hle'⟩
  · rcases le_or_gt t 1000000 with ht | ht
    · -- a finite bound is below the longest dwell time
      have hvalue : value ≤ 1000000 := (hfinite ht).2 ⟨by decide, ht⟩
      exact hvalue.trans (ht'.le.trans ((hoverflow' ht').2 (mem_of_kthSmallest hkth')))
    · exact (hoverflow' ht').2 (hoverflow ht).1

section Percentiles

variable {dwell : TunnelQueueDwellStats} {times : List ℕ}

theorem sum_counts_le (times : List ℕ) :
    (counts (bucketOf dwellBounds) dwellBounds.length times).sum ≤ times.length := by
  have hsum := sum_take_counts (bucketOf dwellBounds) (le_refl dwellBounds.length) times
  rw [List.take_of_length_le (length_counts _ _ _).le] at hsum
  rw [hsum]
  exact List.countP_le_length

/-- **One percentile.** -/
theorem percentile_of_records (h : dwell.Records times) (hn : 1 ≤ times.length)
    (hle : times.length ≤ (2 ^ 64 - 1) / 100) {p : ℕ} (hp : 1 ≤ p) (hp' : p ≤ 99) :
    ∃ value, outboundQueueDwellPercentile dwell.microsBuckets (UInt64.ofNat times.length)
        (UInt64.ofNat p) dwell.microsMax = some value ∧ IsNearestRank times p value.toNat := by
  obtain ⟨product, hproduct, hrank⟩ := rank_eq hn hle hp hp'
  have hk := one_le_rank hn hp
  obtain ⟨t, hkth⟩ : ∃ t, kthSmallest times (times.length * p ⌈/⌉ 100) = some t :=
    exists_kthSmallest hk (rank_le (by omega))
  have htotal : UInt64.ofNat times.length ≠ 0 := by
    intro hzero
    have hlength := congrArg UInt64.toNat hzero
    rw [UInt64.toNat_ofNat_of_lt' (show times.length < 2 ^ 64 by omega)] at hlength
    change times.length = 0 at hlength
    omega
  have hsum := sum_counts_le times
  have hzero : (0 : UInt64).toNat = 0 := rfl
  have hreach := reach_counts monotone_bucketOf_dwellBounds hk hkth
    (bucketOf_lt dwellBounds_ne_nil t)
  refine ⟨bucketValue dwell.microsMax (bucketOf dwellBounds t), ?_, t, hkth,
    isLeast_bucketValue dwell.microsMax, fun ht => ?_⟩
  · rw [outboundQueueDwellPercentile, if_neg htotal, hproduct, h.buckets]
    change some (percentileLoop _ _ _ _ _) = _
    rw [percentileLoop_eq dwell.microsMax 0 (by omega) (by omega), hrank, hzero, Nat.sub_zero,
      hreach, Option.map_some, Option.getD_some, Nat.zero_add]
  · -- the longest dwell time is not the initial zero
    rw [bucketValue_of_lt _ ht]
    obtain ⟨hmem, hupper⟩ := h.max
    have htmax : t ≤ dwell.microsMax.toNat :=
      hupper (List.mem_cons_of_mem 0 (mem_of_kthSmallest hkth))
    refine ⟨(List.mem_cons.mp hmem).resolve_left (by omega), fun t' ht' => ?_⟩
    exact hupper (List.mem_cons_of_mem 0 ht')

/-- The three percentiles of a snapshot. -/
structure TunnelQueueDwellSnapshot.Describes (snapshot : TunnelQueueDwellSnapshot)
    (times : List ℕ) : Prop where
  p50 : IsNearestRank times 50 snapshot.p50Micros
  p95 : IsNearestRank times 95 snapshot.p95Micros
  p99 : IsNearestRank times 99 snapshot.p99Micros
  p50_le_p95 : snapshot.p50Micros ≤ snapshot.p95Micros
  p95_le_p99 : snapshot.p95Micros ≤ snapshot.p99Micros

theorem describes_of_records (h : dwell.Records times) (hn : 1 ≤ times.length)
    (hle : times.length ≤ (2 ^ 64 - 1) / 100) (microsTotal : UInt64) :
    ∃ snapshot, outboundQueueDwellSnapshot (UInt64.ofNat times.length) microsTotal dwell.microsMax
      dwell.microsBuckets = some snapshot ∧ snapshot.Describes times := by
  obtain ⟨p50, h50, hrank50⟩ := percentile_of_records h hn hle (p := 50) (by decide) (by decide)
  obtain ⟨p95, h95, hrank95⟩ := percentile_of_records h hn hle (p := 95) (by decide) (by decide)
  obtain ⟨p99, h99, hrank99⟩ := percentile_of_records h hn hle (p := 99) (by decide) (by decide)
  refine ⟨{
    frames := (UInt64.ofNat times.length).toNat
    microsTotal := microsTotal.toNat
    microsMax := dwell.microsMax.toNat
    p50Micros := p50.toNat
    p95Micros := p95.toNat
    p99Micros := p99.toNat }, ?_, hrank50, hrank95, hrank99, ?_, ?_⟩
  · change (outboundQueueDwellPercentile _ _ (UInt64.ofNat 50) _ >>= fun _ =>
      outboundQueueDwellPercentile _ _ (UInt64.ofNat 95) _ >>= fun _ =>
      outboundQueueDwellPercentile _ _ (UInt64.ofNat 99) _ >>= fun _ => _) = _
    rw [h50, h95, h99]
    rfl
  · exact hrank50.mono (by decide) hrank95
  · exact hrank95.mono (by decide) hrank99

end Percentiles

/-! ## Every sequence of dwell times -/

/-- What is recorded for a dwell time. -/
def recordedMicros (elapsed : ℕ) : ℕ := min elapsed (2 ^ 64 - 1)

/-- The last dwell times; the runtime keeps this many samples. -/
def lastTimes (times : List ℕ) : List ℕ :=
  times.drop (times.length - outboundQueueDwellRecentSamples)

theorem length_lastTimes (times : List ℕ) :
    (lastTimes times).length = min times.length outboundQueueDwellRecentSamples := by
  rw [lastTimes, List.length_drop]
  omega

theorem lastTimes_concat (times : List ℕ) (t : ℕ) :
    lastTimes (times ++ [t]) =
      (if outboundQueueDwellRecentSamples ≤ (lastTimes times).length then (lastTimes times).drop 1
        else lastTimes times) ++ [t] := by
  have hpos : 1 ≤ outboundQueueDwellRecentSamples := by decide
  rw [length_lastTimes, lastTimes, lastTimes, List.length_append, List.length_singleton,
    List.drop_append_of_le_length (by omega)]
  split_ifs with hfull
  · rw [List.drop_drop]
    congr 2
    omega
  · congr 2
    omega

/-- The dwell times that the counters have seen. -/
structure TunnelRuntimeStats.Dwelt (stats : TunnelRuntimeStats) (times : List ℕ) : Prop where
  frames : stats.outboundQueueDwell.frames = UInt64.ofNat times.length
  records : stats.outboundQueueDwell.Records times
  recent : stats.recentOutboundQueueDwell = (lastTimes times).map UInt64.ofNat
  fits : ∀ t ∈ times, t < 2 ^ 64

namespace TunnelRuntimeStats.Dwelt

variable {stats : TunnelRuntimeStats} {times : List ℕ}

theorem default : TunnelRuntimeStats.default.Dwelt [] where
  frames := rfl
  records := .empty rfl rfl
  recent := rfl
  fits := fun _ ht => absurd ht List.not_mem_nil

/-- One more dwell time is recorded. -/
theorem record (h : stats.Dwelt times) (elapsed : ℕ) :
    (stats.recordOutboundQueueDwell elapsed).Dwelt (times ++ [recordedMicros elapsed]) := by
  have hlt : recordedMicros elapsed < 2 ^ 64 := by
    rw [recordedMicros]
    omega
  have htoNat : (UInt64.ofNat (recordedMicros elapsed)).toNat = recordedMicros elapsed :=
    UInt64.toNat_ofNat_of_lt' hlt
  refine ⟨?_, ?_, ?_, fun t ht => ?_⟩
  · rw [List.length_append, List.length_singleton, UInt64.ofNat_add, ← h.frames]
    rfl
  · have hadd : (stats.recordOutboundQueueDwell elapsed).outboundQueueDwell.Records _ :=
      h.records.add (UInt64.ofNat (recordedMicros elapsed)) rfl rfl
    rwa [htoNat] at hadd
  · change (if outboundQueueDwellRecentSamples ≤ stats.recentOutboundQueueDwell.length then
      stats.recentOutboundQueueDwell.drop 1 else stats.recentOutboundQueueDwell) ++ [_] = _
    rw [h.recent, lastTimes_concat, List.length_map, List.map_append]
    split_ifs
    · rw [List.map_drop]
      rfl
    · rfl
  · rcases List.mem_append.mp ht with ht | ht
    · exact h.fits t ht
    · rw [List.mem_singleton.mp ht]
      exact hlt

/-- Any sequence of dwell times is recorded. -/
theorem record_foldl (h : stats.Dwelt times) (elapsed : List ℕ) :
    (elapsed.foldl recordOutboundQueueDwell stats).Dwelt
      (times ++ elapsed.map recordedMicros) := by
  induction elapsed generalizing stats times with
  | nil => rwa [List.map_nil, List.append_nil]
  | cons first elapsed ih =>
    have hrest := ih (h.record first)
    rwa [List.append_assoc] at hrest

end TunnelRuntimeStats.Dwelt

/-- The samples of the recent snapshot are counted one by one. -/
theorem records_foldl_addSample {dwell : TunnelQueueDwellStats} {times : List ℕ}
    (h : dwell.Records times) (samples : List UInt64) :
    (samples.foldl TunnelQueueDwellStats.addSample dwell).Records
        (times ++ samples.map UInt64.toNat) ∧
      (samples.foldl TunnelQueueDwellStats.addSample dwell).frames = dwell.frames := by
  induction samples generalizing dwell times with
  | nil =>
    rw [List.map_nil, List.append_nil]
    exact ⟨h, rfl⟩
  | cons first samples ih =>
    have hadd : (dwell.addSample first).Records _ := h.add first rfl rfl
    obtain ⟨hrecords, hframes⟩ := ih hadd
    rw [List.append_assoc] at hrecords
    exact ⟨hrecords, hframes⟩

theorem describes_recentDwellSnapshot {samples : List UInt64} (hn : 1 ≤ samples.length)
    (hle : samples.length ≤ (2 ^ 64 - 1) / 100) :
    ∃ snapshot, recentDwellSnapshot samples = some snapshot ∧
      snapshot.Describes (samples.map UInt64.toNat) := by
  have hempty : TunnelQueueDwellStats.Records
      ⟨UInt64.ofNat samples.length, 0, 0,
        List.replicate outboundQueueDwellMicrosBuckets.length 0⟩ [] := .empty rfl rfl
  obtain ⟨hrecords, hframes⟩ := records_foldl_addSample hempty samples
  have hlength : (samples.map UInt64.toNat).length = samples.length := List.length_map _
  rw [List.nil_append] at hrecords
  rw [← hlength] at hn hle
  have hdescribes := describes_of_records hrecords hn hle
  simp only [hlength] at hdescribes
  simp only [recentDwellSnapshot, hframes]
  exact hdescribes _

/-- **The snapshot after these dwell times.** -/
theorem snapshot_of_dwelt {stats : TunnelRuntimeStats} {times : List ℕ} (h : stats.Dwelt times)
    (hn : 1 ≤ times.length) (hle : times.length ≤ (2 ^ 64 - 1) / 100) :
    ∃ snapshot, stats.snapshot = some snapshot ∧
      snapshot.outboundQueueDwell.Describes times ∧
      snapshot.recentOutboundQueueDwell.Describes (lastTimes times) := by
  have hlength := length_lastTimes times
  have hsamples : outboundQueueDwellRecentSamples = 16 := rfl
  obtain ⟨lifetime, hlifetime, hdescribes⟩ :=
    describes_of_records h.records hn hle stats.outboundQueueDwell.microsTotal
  obtain ⟨recent, hrecent, hdescribes'⟩ : ∃ snapshot,
      recentDwellSnapshot ((lastTimes times).map UInt64.ofNat) = some snapshot ∧
        snapshot.Describes (((lastTimes times).map UInt64.ofNat).map UInt64.toNat) := by
    apply describes_recentDwellSnapshot
    · rw [List.length_map]
      omega
    · rw [List.length_map]
      omega
  have htoNat : ((lastTimes times).map UInt64.ofNat).map UInt64.toNat = lastTimes times := by
    rw [List.map_map]
    refine (List.map_congr_left fun t ht => ?_).trans (List.map_id _)
    exact UInt64.toNat_ofNat_of_lt' (h.fits t (List.mem_of_mem_drop ht))
  rw [htoNat] at hdescribes'
  rw [TunnelRuntimeStats.snapshot]
  simp only [h.frames, h.recent, hlifetime, hrecent]
  exact ⟨_, rfl, hdescribes, hdescribes'⟩

/-- **The percentiles of the dwell times.** After any number of dwell times up to a hundredth of the
range of `u64`, no rank overflows; the snapshot has the nearest-rank percentiles of all of them, and
those of the last sixteen, up to the bounds of the buckets. -/
theorem dwell_percentiles_nearest_rank (elapsed : List ℕ) (hn : 1 ≤ elapsed.length)
    (hle : elapsed.length ≤ (2 ^ 64 - 1) / 100) :
    ∃ snapshot,
      (elapsed.foldl TunnelRuntimeStats.recordOutboundQueueDwell .default).snapshot =
        some snapshot ∧
      snapshot.outboundQueueDwell.Describes (elapsed.map recordedMicros) ∧
      snapshot.recentOutboundQueueDwell.Describes (lastTimes (elapsed.map recordedMicros)) := by
  have hdwelt := TunnelRuntimeStats.Dwelt.default.record_foldl elapsed
  rw [List.nil_append] at hdwelt
  rw [← List.length_map recordedMicros] at hn hle
  exact snapshot_of_dwelt hdwelt hn hle

/-- Of three dwell times the second is below a bound and the third beyond the last one. -/
theorem dwell_percentiles_of_three :
    ∃ snapshot,
      ([3000000, 7, 30].foldl TunnelRuntimeStats.recordOutboundQueueDwell .default).snapshot =
        some snapshot ∧
      snapshot.outboundQueueDwell.p50Micros = 50 ∧
      snapshot.outboundQueueDwell.p95Micros = 3000000 ∧
      snapshot.outboundQueueDwell.Describes [3000000, 7, 30] := by
  obtain ⟨snapshot, hsnapshot, hdescribes, -⟩ :=
    dwell_percentiles_nearest_rank [3000000, 7, 30] (by decide) (by decide)
  have hvalues : ([3000000, 7, 30].foldl TunnelRuntimeStats.recordOutboundQueueDwell
      .default).snapshot.map (fun snapshot => (snapshot.outboundQueueDwell.p50Micros,
        snapshot.outboundQueueDwell.p95Micros)) = some (50, 3000000) := by decide
  rw [hsnapshot, Option.map_some, Option.some.injEq, Prod.mk.injEq] at hvalues
  exact ⟨snapshot, hsnapshot, hvalues.1, hvalues.2, hdescribes⟩

/-! ## The queue and the batches -/

/-- Frames leave the queue. -/
theorem TunnelRuntimeStats.Dwelt.recordDwell {stats : TunnelRuntimeStats} {times : List ℕ}
    (h : stats.Dwelt times) (now : ℕ) (queued : List QueuedKtpFrame) :
    (AsyncTunnelFrameQueue.recordDwell stats now queued).Dwelt
      (times ++ queued.map fun queued => recordedMicros (now - queued.enqueuedAt)) := by
  have hfold := h.record_foldl (queued.map fun queued => now - queued.enqueuedAt)
  rw [List.foldl_map, List.map_map] at hfold
  exact hfold

namespace QueueRun

/-- A call hands out the first frames of the queue, if any, and records how long they waited. -/
theorem Moves.exists_take {s s' : QueueRun} {now : ℕ} (h : Moves s now s') :
    ∃ k, s'.stats = AsyncTunnelFrameQueue.recordDwell s.stats now (s.queue.frames.take k) ∧
      handedOut s'.history = handedOut s.history ++ (s.queue.frames.take k).map (·.frame) := by
  cases h with
  | idle hlog hpushed hout =>
    refine ⟨0, rfl, ?_⟩
    rw [handedOut_snoc, hout]
    rfl
  | push frame hlt =>
    refine ⟨0, rfl, ?_⟩
    rw [handedOut_snoc]
    rfl
  | drained op hnote hpushed k =>
    refine ⟨k, rfl, ?_⟩
    rw [handedOut_snoc]
    exact congrArg (handedOut s.history ++ ·) (List.append_nil _)
  | discarded call p hnote hpushed hout =>
    refine ⟨0, rfl, ?_⟩
    rw [handedOut_snoc, hout]
    rfl

/-- The frames that a call hands out, as they stand in the queue. -/
def leaving (s : QueueRun) (timed : QueueOp × ℕ) : List QueuedKtpFrame :=
  s.queue.frames.take (handedOut [(timed.1, (s.call timed.2 timed.1).1)]).length

/-- How long the frames that the calls hand out have waited, in order. -/
def waits (s : QueueRun) : List (QueueOp × ℕ) → List ℕ
  | [] => []
  | timed :: ops =>
    ((s.leaving timed).map fun queued => recordedMicros (timed.2 - queued.enqueuedAt)) ++
      (s.step timed).waits ops

/-- **One call** records how long the frames that it hands out have waited. -/
theorem step_leaving (s : QueueRun) (timed : QueueOp × ℕ) :
    (s.step timed).stats =
        AsyncTunnelFrameQueue.recordDwell s.stats timed.2 (s.leaving timed) ∧
      handedOut (s.step timed).history =
        handedOut s.history ++ (s.leaving timed).map (·.frame) := by
  have hhistory : handedOut (s.step timed).history =
      handedOut s.history ++ handedOut [(timed.1, (s.call timed.2 timed.1).1)] :=
    handedOut_snoc _ _
  obtain ⟨k, hstats, hout⟩ := (s.moves_step timed).exists_take
  have hleaving : s.leaving timed = s.queue.frames.take k := by
    rw [leaving, List.append_cancel_left (hhistory.symm.trans hout), List.length_map,
      List.length_take, List.take_eq_take_iff]
    omega
  rw [hleaving]
  exact ⟨hstats, hout⟩

/-- **Any sequence of calls.** -/
theorem dwelt_run {s : QueueRun} {times : List ℕ} (h : s.stats.Dwelt times)
    (ops : List (QueueOp × ℕ)) :
    (s.run ops).stats.Dwelt (times ++ s.waits ops) ∧
      (handedOut (s.run ops).history).length =
        (handedOut s.history).length + (s.waits ops).length := by
  induction ops generalizing s times with
  | nil =>
    rw [waits, List.append_nil]
    exact ⟨h, rfl⟩
  | cons timed ops ih =>
    obtain ⟨hstats, hout⟩ := s.step_leaving timed
    have hstep : (s.step timed).stats.Dwelt _ := hstats ▸ h.recordDwell timed.2 (s.leaving timed)
    obtain ⟨hrun, hlength⟩ := ih hstep
    rw [List.append_assoc] at hrun
    rw [hout, List.length_append, List.length_map] at hlength
    refine ⟨hrun, hlength.trans ?_⟩
    rw [waits, List.length_append, List.length_map, Nat.add_assoc]

/-- **The snapshot after any calls on a new queue** describes how long the frames handed out have
waited; there is one dwell time for each of them. -/
theorem snapshot_run (capacity : ℕ) (ops : List (QueueOp × ℕ)) :
    let s := (start capacity).run ops
    ((start capacity).waits ops).length = (handedOut s.history).length ∧
    (1 ≤ (handedOut s.history).length → (handedOut s.history).length ≤ (2 ^ 64 - 1) / 100 →
      ∃ snapshot, s.stats.snapshot = some snapshot ∧
        snapshot.outboundQueueDwell.Describes ((start capacity).waits ops) ∧
        snapshot.recentOutboundQueueDwell.Describes (lastTimes ((start capacity).waits ops))) := by
  intro s
  obtain ⟨hdwelt, hlength⟩ :=
    dwelt_run (s := start capacity) TunnelRuntimeStats.Dwelt.default ops
  rw [List.nil_append] at hdwelt
  have hlength' : ((start capacity).waits ops).length = (handedOut s.history).length :=
    (hlength.trans (Nat.zero_add _)).symm
  refine ⟨hlength', fun hn hle => ?_⟩
  rw [← hlength'] at hn hle
  exact snapshot_of_dwelt hdwelt hn hle

end QueueRun

/-- **A backlog caps the batches**: once the dwell times that the policy looks at are severe at
their nearest rank, a batch has at most the frames of the severe cap. -/
theorem effectiveOutboundBatchFrames_of_severe {stats : TunnelRuntimeStats} {times : List ℕ}
    (h : stats.Dwelt times) (hn : 1 ≤ times.length) (hle : times.length ≤ (2 ^ 64 - 1) / 100)
    {tuning : TunnelRelayBatchTuning} {t : ℕ}
    (ht : kthSmallest (lastTimes times) ((lastTimes times).length * 95 ⌈/⌉ 100) = some t)
    (hsevere : tuning.severeDwellP95Micros ≤ t) (configuredBatchFrames : ℕ) :
    effectiveOutboundBatchFrames .adaptive tuning stats configuredBatchFrames =
      some (min (max configuredBatchFrames 1) (max tuning.severeBatchCap 1)) := by
  obtain ⟨snapshot, hsnapshot, -, hrecent⟩ := snapshot_of_dwelt h hn hle
  obtain ⟨t', ht', hp95⟩ := hrecent.p95.le
  obtain rfl : t' = t := Option.some.inj (ht'.symm.trans ht)
  rw [effectiveOutboundBatchFrames, hsnapshot]
  exact congrArg some (if_pos (hsevere.trans hp95))

end KeliAgent
