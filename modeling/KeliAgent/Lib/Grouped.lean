import Mathlib

/-!
# The largest value of each key

A loop over a list that keeps one value for each key, the first of those with the largest weight.
The table it leaves is then walked in any order, as a hash map is.

* `Largest`: what the table holds after some elements; `Largest.step`, **`Largest.foldl`**.
* `Walk.sum_values`: a sum along a walk is a sum over the keys.
-/

namespace Grouped

variable {α κ β ω : Type}

/-! ## Walks -/

/-- An order in which the entries of a table are walked. It may depend on the entries. -/
structure Walk (κ β : Type) where
  order : List (Sigma fun _ : κ => β) → List (Sigma fun _ : κ => β)
  perm : ∀ entries, (order entries).Perm entries

namespace Walk

/-- The order of the entries themselves. -/
def inOrder : Walk κ β := ⟨id, fun _ => .refl _⟩

/-- `HashMap::values` -/
def values (walk : Walk κ β) (m : AList fun _ : κ => β) : List β :=
  (walk.order m.entries).map (·.2)

variable [DecidableEq κ]

theorem mem_values {walk : Walk κ β} {m : AList fun _ : κ => β} {v : β} :
    v ∈ walk.values m ↔ ∃ k, m.lookup k = some v := by
  rw [values, List.mem_map]
  constructor
  · rintro ⟨⟨k, v⟩, hentry, rfl⟩
    exact ⟨k, AList.mem_lookup_iff.mpr ((walk.perm _).mem_iff.mp hentry)⟩
  · rintro ⟨k, hlookup⟩
    exact ⟨⟨k, v⟩, (walk.perm _).mem_iff.mpr (AList.mem_lookup_iff.mp hlookup), rfl⟩

/-- **A sum along a walk** is a sum over the keys. -/
theorem sum_values {M : Type} [AddCommMonoid M] (walk : Walk κ β) (m : AList fun _ : κ => β)
    {f : β → M} {g : κ → M} (hg : ∀ k v, m.lookup k = some v → f v = g k) :
    ((walk.values m).map f).sum = ∑ k ∈ m.keys.toFinset, g k := by
  have hkeys : (m.entries.map fun entry => f entry.2) = m.keys.map g := by
    rw [AList.keys, List.keys, List.map_map]
    exact List.map_congr_left fun entry hentry => hg _ _ (AList.mem_lookup_iff.mpr hentry)
  calc ((walk.values m).map f).sum
      = ((walk.order m.entries).map fun entry => f entry.2).sum := by
        rw [values, List.map_map]
        rfl
    _ = (m.entries.map fun entry => f entry.2).sum := ((walk.perm _).map _).sum_eq
    _ = ∑ k ∈ m.keys.toFinset, g k := by
        rw [hkeys, List.sum_toFinset _ m.keys_nodup]

end Walk

/-! ## The loop -/

variable [DecidableEq κ] [LinearOrder ω]

/-- A value replaces that of its key if it has more weight. -/
def keep (weight : β → ω) (m : AList fun _ : κ => β) (k : κ) (v : β) : AList fun _ : κ => β :=
  match m.lookup k with
  | some existing => if weight existing ≥ weight v then m else m.insert k v
  | none => m.insert k v

variable (weight : β → ω) (m : AList fun _ : κ => β)

theorem lookup_keep_of_ne {k k' : κ} (h : k' ≠ k) (v : β) :
    (keep weight m k v).lookup k' = m.lookup k' := by
  rw [keep]
  split
  · split_ifs
    · rfl
    · exact AList.lookup_insert_ne h
  · exact AList.lookup_insert_ne h

/-- The value of the key is the new one or the one before, and has the weight of both. -/
theorem lookup_keep (k : κ) (v : β) :
    ∃ w, (keep weight m k v).lookup k = some w ∧ (w = v ∨ m.lookup k = some w) ∧
      weight v ≤ weight w ∧
      ∀ existing, m.lookup k = some existing → weight existing ≤ weight w := by
  rw [keep]
  split
  next existing hlookup =>
    split_ifs with hge
    · refine ⟨existing, hlookup, .inr hlookup, hge, fun w hw => ?_⟩
      rw [Option.some.inj (hlookup.symm.trans hw)]
    · refine ⟨v, AList.lookup_insert m, .inl rfl, le_rfl, fun w hw => ?_⟩
      rw [← Option.some.inj (hlookup.symm.trans hw)]
      exact (not_le.mp hge).le
  next hlookup =>
    refine ⟨v, AList.lookup_insert m, .inl rfl, le_rfl, fun w hw => ?_⟩
    rw [hlookup] at hw
    cases hw

/-- The table holds a value of largest weight for each key of the elements. -/
structure Largest (key : α → κ) (value : α → β) (weight : β → ω) (xs : List α)
    (m : AList fun _ : κ => β) : Prop where
  exists_le : ∀ x ∈ xs, ∃ v, m.lookup (key x) = some v ∧ weight (value x) ≤ weight v
  exists_eq : ∀ k v, m.lookup k = some v → ∃ x ∈ xs, key x = k ∧ value x = v

variable {key : α → κ} {value : α → β} {weight} {m} {xs : List α}

namespace Largest

theorem empty : Largest key value weight [] ∅ where
  exists_le := fun _ hx => absurd hx List.not_mem_nil
  exists_eq := fun k v hlookup => by
    rw [AList.lookup_empty] at hlookup
    cases hlookup

/-- One more element. -/
theorem step (h : Largest key value weight xs m) (x : α) :
    Largest key value weight (xs ++ [x]) (keep weight m (key x) (value x)) := by
  obtain ⟨w, hlookup, hw, hx, hexisting⟩ := lookup_keep weight m (key x) (value x)
  refine ⟨fun y hy => ?_, fun k v hv => ?_⟩
  · by_cases hkey : key y = key x
    · refine ⟨w, by rw [hkey, hlookup], ?_⟩
      rcases List.mem_append.mp hy with hy | hy
      · obtain ⟨v, hv, hle⟩ := h.exists_le y hy
        exact hle.trans (hexisting v (hkey ▸ hv))
      · rw [List.mem_singleton.mp hy]
        exact hx
    · have hy : y ∈ xs := by
        rcases List.mem_append.mp hy with hy | hy
        · exact hy
        · exact absurd (congrArg key (List.mem_singleton.mp hy)) hkey
      rw [lookup_keep_of_ne weight m hkey]
      exact h.exists_le y hy
  · by_cases hkey : k = key x
    · subst hkey
      obtain rfl : w = v := Option.some.inj (hlookup.symm.trans hv)
      rcases hw with rfl | hw
      · exact ⟨x, List.mem_append_right xs List.mem_cons_self, rfl, rfl⟩
      · obtain ⟨y, hy, hkey, hvalue⟩ := h.exists_eq _ _ hw
        exact ⟨y, List.mem_append_left [x] hy, hkey, hvalue⟩
    · rw [lookup_keep_of_ne weight m hkey] at hv
      obtain ⟨y, hy, hkey, hvalue⟩ := h.exists_eq _ _ hv
      exact ⟨y, List.mem_append_left [x] hy, hkey, hvalue⟩

/-- **Any number of elements.** -/
theorem foldl (h : Largest key value weight xs m) (ys : List α) :
    Largest key value weight (xs ++ ys)
      (ys.foldl (fun m y => keep weight m (key y) (value y)) m) := by
  induction ys generalizing xs m with
  | nil => rwa [List.append_nil]
  | cons y ys ih =>
    rw [List.append_cons]
    exact ih (h.step y)

/-- The keys of the table are those of the elements. -/
theorem keys (h : Largest key value weight xs m) : m.keys.toFinset = (xs.map key).toFinset := by
  ext k
  rw [List.mem_toFinset, List.mem_toFinset, ← AList.mem_keys, ← AList.lookup_isSome, List.mem_map]
  constructor
  · intro hsome
    obtain ⟨v, hv⟩ := Option.isSome_iff_exists.mp hsome
    obtain ⟨x, hx, hkey, -⟩ := h.exists_eq k v hv
    exact ⟨x, hx, hkey⟩
  · rintro ⟨x, hx, rfl⟩
    obtain ⟨v, hv, -⟩ := h.exists_le x hx
    rw [hv]
    rfl

/-- The value of a key has the largest weight. -/
theorem isGreatest (h : Largest key value weight xs m) {k : κ} {v : β} (hv : m.lookup k = some v) :
    IsGreatest {w | ∃ x ∈ xs, key x = k ∧ weight (value x) = w} (weight v) := by
  constructor
  · obtain ⟨x, hx, hkey, hvalue⟩ := h.exists_eq k v hv
    exact ⟨x, hx, hkey, congrArg weight hvalue⟩
  · rintro w ⟨x, hx, rfl, rfl⟩
    obtain ⟨v', hv', hle⟩ := h.exists_le x hx
    rwa [Option.some.inj (hv.symm.trans hv')]

end Largest

end Grouped
