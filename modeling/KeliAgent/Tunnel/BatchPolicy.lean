import KeliAgent.Lib.Text

/-!
# Sizes of relay batches

`TunnelRelayBatchPolicy` of `tunnel_async_runtime.rs`: how many frames go into one batch, given how
many sessions are active and how long frames have waited in the outbound queue.

* `TunnelRelayBatchTuning.Ordered`: the thresholds and caps are positive, and severe is beyond
  elevated.
* **`effectiveBatchFrames_anti`**, `effectiveBatchFrames_mono`: more load, smaller batches.
-/

namespace KeliAgent

inductive TunnelRelayBatchPolicy where
  | fixed
  | adaptive
  deriving DecidableEq, Repr

structure TunnelRelayBatchTuning where
  highSessionThreshold : ℕ
  elevatedDwellP95Micros : ℕ
  severeDwellP95Micros : ℕ
  elevatedBatchCap : ℕ
  severeBatchCap : ℕ
  deriving DecidableEq, Repr

def TunnelRelayBatchTuning.default : TunnelRelayBatchTuning where
  highSessionThreshold := 8
  elevatedDwellP95Micros := 50000
  severeDwellP95Micros := 250000
  elevatedBatchCap := 16
  severeBatchCap := 8

/-- The part of the snapshot that the policy reads. -/
structure TunnelQueueDwellStatsSnapshot where
  p95Micros : ℕ
  deriving DecidableEq, Repr

namespace TunnelRelayBatchPolicy

def parseConfigValue (raw : String) : Option TunnelRelayBatchPolicy :=
  match Text.lowercase (Text.trim raw) with
  | "fixed" => some fixed
  | "adaptive" => some adaptive
  | _ => none

def effectiveBatchFramesWithTuning (policy : TunnelRelayBatchPolicy)
    (configuredBatchFrames activeSessions : ℕ) (outboundQueueDwell : TunnelQueueDwellStatsSnapshot)
    (tuning : TunnelRelayBatchTuning) : ℕ :=
  let configuredBatchFrames := max configuredBatchFrames 1
  match policy with
  | fixed => configuredBatchFrames
  | adaptive =>
    if outboundQueueDwell.p95Micros ≥ tuning.severeDwellP95Micros then
      min configuredBatchFrames (max tuning.severeBatchCap 1)
    else if outboundQueueDwell.p95Micros ≥ tuning.elevatedDwellP95Micros then
      min configuredBatchFrames (max tuning.elevatedBatchCap 1)
    else if activeSessions ≥ max tuning.highSessionThreshold 1 then
      min configuredBatchFrames (max tuning.elevatedBatchCap 1)
    else configuredBatchFrames

end TunnelRelayBatchPolicy

/-- The order that the configuration checks. -/
structure TunnelRelayBatchTuning.Ordered (tuning : TunnelRelayBatchTuning) : Prop where
  highSessionThreshold : 0 < tuning.highSessionThreshold
  elevatedDwell : 0 < tuning.elevatedDwellP95Micros
  severeDwell : tuning.elevatedDwellP95Micros ≤ tuning.severeDwellP95Micros
  severeCap : 0 < tuning.severeBatchCap
  elevatedCap : tuning.severeBatchCap ≤ tuning.elevatedBatchCap

namespace TunnelRelayBatchPolicy

variable (policy : TunnelRelayBatchPolicy) {tuning : TunnelRelayBatchTuning}

/-- The cap on a batch, if there is one. -/
def cap (activeSessions : ℕ) (dwell : TunnelQueueDwellStatsSnapshot)
    (tuning : TunnelRelayBatchTuning) : Option ℕ :=
  match policy with
  | fixed => none
  | adaptive =>
    if tuning.severeDwellP95Micros ≤ dwell.p95Micros then some (max tuning.severeBatchCap 1)
    else if tuning.elevatedDwellP95Micros ≤ dwell.p95Micros ∨
        max tuning.highSessionThreshold 1 ≤ activeSessions then
      some (max tuning.elevatedBatchCap 1)
    else none

theorem effectiveBatchFrames_eq (n activeSessions : ℕ) (dwell : TunnelQueueDwellStatsSnapshot) :
    policy.effectiveBatchFramesWithTuning n activeSessions dwell tuning =
      ((policy.cap activeSessions dwell tuning).map (min (max n 1))).getD (max n 1) := by
  cases policy with
  | fixed => rfl
  | adaptive =>
    simp only [effectiveBatchFramesWithTuning, cap, ge_iff_le]
    split_ifs with hsevere helevated hhigh hor hor
    all_goals first | rfl | (exfalso; omega)

theorem pos_of_mem_cap {activeSessions : ℕ} {dwell : TunnelQueueDwellStatsSnapshot} {c : ℕ}
    (h : c ∈ policy.cap activeSessions dwell tuning) : 1 ≤ c := by
  cases policy with
  | fixed => cases h
  | adaptive =>
    rw [cap] at h
    split_ifs at h
    · cases h
      exact le_max_right _ _
    · cases h
      exact le_max_right _ _
    · cases h

/-- A batch is not empty, and not larger than configured. -/
theorem effectiveBatchFrames_bounds (n activeSessions : ℕ) (dwell : TunnelQueueDwellStatsSnapshot) :
    1 ≤ policy.effectiveBatchFramesWithTuning n activeSessions dwell tuning ∧
      policy.effectiveBatchFramesWithTuning n activeSessions dwell tuning ≤ max n 1 := by
  rw [effectiveBatchFrames_eq]
  cases hcap : policy.cap activeSessions dwell tuning with
  | none => exact ⟨le_max_right n 1, le_rfl⟩
  | some c => exact ⟨le_min (le_max_right n 1) (policy.pos_of_mem_cap hcap), min_le_left _ _⟩

theorem effectiveBatchFrames_mono {n n' : ℕ} (h : n ≤ n') (activeSessions : ℕ)
    (dwell : TunnelQueueDwellStatsSnapshot) :
    policy.effectiveBatchFramesWithTuning n activeSessions dwell tuning ≤
      policy.effectiveBatchFramesWithTuning n' activeSessions dwell tuning := by
  have hmax : max n 1 ≤ max n' 1 := max_le_max_right 1 h
  rw [effectiveBatchFrames_eq, effectiveBatchFrames_eq]
  cases policy.cap activeSessions dwell tuning with
  | none => exact hmax
  | some c => exact min_le_min_right c hmax

/-- More load does not lift the cap. -/
theorem cap_anti (h : tuning.Ordered) {activeSessions activeSessions' : ℕ}
    (hsessions : activeSessions ≤ activeSessions') {dwell dwell' : TunnelQueueDwellStatsSnapshot}
    (hdwell : dwell.p95Micros ≤ dwell'.p95Micros) {c : ℕ}
    (hc : policy.cap activeSessions dwell tuning = some c) :
    ∃ c' ≤ c, policy.cap activeSessions' dwell' tuning = some c' := by
  have hcaps : max tuning.severeBatchCap 1 ≤ max tuning.elevatedBatchCap 1 :=
    max_le_max_right 1 h.elevatedCap
  cases policy with
  | fixed => cases hc
  | adaptive =>
    simp only [cap] at hc ⊢
    by_cases hsevere' : tuning.severeDwellP95Micros ≤ dwell'.p95Micros
    · refine ⟨max tuning.severeBatchCap 1, ?_, if_pos hsevere'⟩
      split_ifs at hc
      · cases hc
        exact le_rfl
      · cases hc
        exact hcaps
    · have hsevere : ¬ tuning.severeDwellP95Micros ≤ dwell.p95Micros := by omega
      rw [if_neg hsevere] at hc
      split_ifs at hc with helevated
      cases hc
      exact ⟨_, le_rfl, by rw [if_neg hsevere', if_pos (by omega)]⟩

/-- **Batches do not grow with the load.** -/
theorem effectiveBatchFrames_anti (h : tuning.Ordered) (n : ℕ) {activeSessions activeSessions' : ℕ}
    (hsessions : activeSessions ≤ activeSessions') {dwell dwell' : TunnelQueueDwellStatsSnapshot}
    (hdwell : dwell.p95Micros ≤ dwell'.p95Micros) :
    policy.effectiveBatchFramesWithTuning n activeSessions' dwell' tuning ≤
      policy.effectiveBatchFramesWithTuning n activeSessions dwell tuning := by
  have hle : policy.effectiveBatchFramesWithTuning n activeSessions' dwell' tuning ≤ max n 1 :=
    (policy.effectiveBatchFrames_bounds n activeSessions' dwell').2
  rw [effectiveBatchFrames_eq] at hle
  rw [effectiveBatchFrames_eq, effectiveBatchFrames_eq]
  cases hcap : policy.cap activeSessions dwell tuning with
  | none => exact hle
  | some c =>
    obtain ⟨c', hc', hcap'⟩ := policy.cap_anti h hsessions hdwell hcap
    rw [hcap']
    exact min_le_min_left _ hc'

end TunnelRelayBatchPolicy

end KeliAgent
