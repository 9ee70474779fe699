import Mathlib

/-!
# Tables of lists

Association lists whose values are lists, as a map with `entry(key).or_default().push(value)` keeps
them. A key that is missing has the empty list.

* `retain`: keep, change or drop each value.
* `listAt_foldl`: a loop over the entries of one table that appends to another.
* **`sum_entries`**: a sum over the entries is a sum over any set of keys that has them all.
-/

namespace Table

variable {κ β γ : Type}

/-! ## Changing every value -/

theorem keys_filterMap_sublist (f : κ → β → Option γ) (entries : List (Sigma fun _ : κ => β)) :
    ((entries.filterMap fun entry => (f entry.1 entry.2).map fun value =>
      (⟨entry.1, value⟩ : Sigma fun _ : κ => γ)).keys).Sublist entries.keys := by
  induction entries with
  | nil => exact List.Sublist.refl _
  | cons entry entries ih =>
    rw [List.filterMap_cons]
    cases f entry.1 entry.2 with
    | none => exact ih.cons entry.1
    | some value => exact ih.cons_cons entry.1

/-- `HashMap::retain`, where the closure may also change the value. -/
def retain (f : κ → β → Option γ) (m : AList fun _ : κ => β) : AList fun _ : κ => γ :=
  ⟨m.entries.filterMap fun entry => (f entry.1 entry.2).map fun value => ⟨entry.1, value⟩,
    List.Nodup.sublist (keys_filterMap_sublist f m.entries) m.nodupKeys⟩

variable [DecidableEq κ]

theorem lookup_retain (f : κ → β → Option γ) (m : AList fun _ : κ => β) (key : κ) :
    (retain f m).lookup key = (m.lookup key).bind (f key) := by
  ext value
  rw [← Option.mem_def, AList.mem_lookup_iff, Option.bind_eq_some_iff, retain, List.mem_filterMap]
  constructor
  · rintro ⟨⟨key', old⟩, hentry, hvalue⟩
    obtain ⟨value', hf, heq⟩ := Option.map_eq_some_iff.mp hvalue
    cases heq
    exact ⟨old, AList.mem_lookup_iff.mpr hentry, hf⟩
  · rintro ⟨old, hlookup, hf⟩
    refine ⟨⟨key, old⟩, AList.mem_lookup_iff.mp hlookup, ?_⟩
    rw [hf]
    rfl

/-! ## Lists as values -/

/-- The list of a key. -/
def listAt (m : AList fun _ : κ => List β) (key : κ) : List β := (m.lookup key).getD []

def push (m : AList fun _ : κ => List β) (key : κ) (value : β) : AList fun _ : κ => List β :=
  m.insert key (listAt m key ++ [value])

/-- A list that is not empty is that of an entry. -/
theorem mem_entries_of_mem_listAt {m : AList fun _ : κ => List β} {key : κ} {value : β}
    (h : value ∈ listAt m key) : ⟨key, listAt m key⟩ ∈ m.entries := by
  unfold listAt at h ⊢
  cases hlookup : m.lookup key with
  | none =>
    rw [hlookup] at h
    cases h
  | some values => exact AList.mem_lookup_iff.mp hlookup

theorem listAt_push (m : AList fun _ : κ => List β) (key : κ) (value : β) (key' : κ) :
    listAt (push m key value) key' =
      listAt m key' ++ if key' = key then [value] else [] := by
  unfold listAt push
  split_ifs with h
  · rw [h, AList.lookup_insert]
    rfl
  · rw [AList.lookup_insert_ne h, List.append_nil]

/-- A loop over entries with different keys, each of which appends to its own key. -/
theorem listAt_foldl (added : κ → β → List γ)
    {step : (AList fun _ : κ => List γ) → (Sigma fun _ : κ => β) → AList fun _ : κ => List γ}
    (hstep : ∀ m entry key, listAt (step m entry) key =
      listAt m key ++ if key = entry.1 then added entry.1 entry.2 else [])
    {entries : List (Sigma fun _ : κ => β)} (hnodup : entries.NodupKeys)
    (m : AList fun _ : κ => List γ) (key : κ) :
    listAt (entries.foldl step m) key =
      listAt m key ++ ((entries.dlookup key).map (added key)).getD [] := by
  induction entries generalizing m with
  | nil => exact (List.append_nil _).symm
  | cons entry entries ih =>
    obtain ⟨hfirst, hrest⟩ := List.nodupKeys_cons.mp hnodup
    rw [List.foldl_cons, ih hrest, hstep]
    obtain ⟨key', value⟩ := entry
    by_cases h : key = key'
    · subst h
      have hnone : entries.dlookup key = none := List.dlookup_eq_none.mpr hfirst
      rw [if_pos rfl, hnone, List.dlookup_cons_eq]
      simp
    · rw [if_neg h, List.append_nil, List.dlookup_cons_ne _ _ h]

/-! ## Sums -/

/-- **A sum over the entries as a sum over keys.** -/
theorem sum_entries {f : κ → List β → ℕ} (hnil : ∀ key, f key [] = 0)
    (m : AList fun _ : κ => List β) {keys : Finset κ} (hkeys : ∀ key ∈ m.keys, key ∈ keys) :
    (m.entries.map fun entry => f entry.1 entry.2).sum = ∑ key ∈ keys, f key (listAt m key) := by
  have hlist : (m.entries.map fun entry => f entry.1 entry.2) =
      m.keys.map fun key => f key (listAt m key) := by
    rw [AList.keys, List.keys, List.map_map]
    refine List.map_congr_left fun entry hentry => ?_
    have hlookup : m.lookup entry.1 = some entry.2 := AList.mem_lookup_iff.mpr hentry
    rw [Function.comp_apply, listAt, hlookup, Option.getD_some]
  rw [hlist, ← List.sum_toFinset _ m.keys_nodup]
  refine Finset.sum_subset (fun key hkey => hkeys key (List.mem_toFinset.mp hkey)) ?_
  intro key _ hkey
  have hnone : m.lookup key = none :=
    AList.lookup_eq_none.mpr fun hmem => hkey (List.mem_toFinset.mpr (AList.mem_keys.mp hmem))
  rw [listAt, hnone, Option.getD_none, hnil]

end Table
