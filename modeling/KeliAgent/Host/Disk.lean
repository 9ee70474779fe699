import KeliAgent.Lib.Grouped
import KeliAgent.Lib.Text

/-!
# Disk space

`go_compatible_disk` of `linux_proc.rs`: the space of the physical disks, each counted once however
often it is mounted, and the variants with a list of mount points. `str::to_lowercase` and the order
of a hash map are parameters. `none` is an overflow of `i64`.

* `DiskValues.Sound`: what is used is not negative and not more than there is.
* `DiskValues.addUp_eq`, `DiskValues.addUp_sound`: the sums.
* **`goCompatibleDisk_counts_each_device_once`**.
* `collectDiskValuesWithMountpoints_sound`, `collectDiskValuesWithMountpoints_eq`: with a list of
  mount points.
-/

namespace KeliAgent

open Grouped

/-! ## The code -/

structure DiskValues where
  total : ℤ
  used : ℤ
  deriving DecidableEq, Repr

structure DiskMount where
  device : String
  mountpoint : String
  fstype : String
  opts : String
  total : ℤ
  used : ℤ
  deriving DecidableEq, Repr, Inhabited

/-- `i64::clamp` -/
def clampI64 (value lower upper : ℤ) : ℤ :=
  if value < lower then lower else if value > upper then upper else value

/-- The sum of two `i64`. -/
def addI64 (a b : ℤ) : Option ℤ :=
  if -2 ^ 63 ≤ a + b ∧ a + b < 2 ^ 63 then some (a + b) else none

namespace DiskValues

def default : DiskValues := ⟨0, 0⟩

/-- The values as they are counted. -/
def clamped (values : DiskValues) : DiskValues where
  total := max values.total 0
  used := clampI64 values.used 0 (max values.total 0)

/-- The closure of the folds. -/
def add (total values : DiskValues) : Option DiskValues := do
  return { total := ← addI64 total.total values.total, used := ← addI64 total.used values.used }

def addUp (values : List DiskValues) : Option DiskValues := values.foldlM add default

end DiskValues

def DiskMount.values (mount : DiskMount) : DiskValues := ⟨mount.total, mount.used⟩

def excludedMountpoints : List String :=
  ["/tmp", "/var/tmp", "/dev/shm", "/run", "/run/lock", "/run/user", "/var/lib/containers",
    "/var/lib/docker", "/proc", "/dev/pts", "/sys", "/sys/fs/cgroup", "/dev/mqueue",
    "/etc/resolv.conf", "/etc/host", "/dev/hugepages", "/nix/store"]

def excludedFstypes : List String :=
  ["tmpfs", "devtmpfs", "nfs", "cifs", "smb", "vboxsf", "9p", "fuse", "overlay", "proc", "devpts",
    "sysfs", "cgroup", "mqueue", "hugetlbfs"]

/-- One of the texts, or one of them with something after it. -/
def isExcluded (excluded : List String) (text : String) : Bool :=
  excluded.any fun excluded => text == excluded || Text.startsWith text excluded

def diskDeviceId (mount : DiskMount) : String :=
  if Text.eqIgnoreAsciiCase mount.fstype "zfs" then
    match Text.splitOnce mount.device "/" with
    | some (pool, _) => pool
    | none => mount.device
  else mount.device

section Code

variable (toLowercase : String → String) (walk : Walk String DiskValues)

def isPhysicalDisk (mount : DiskMount) : Bool :=
  if mount.mountpoint == "/" then true
  else if isExcluded excludedMountpoints (toLowercase mount.mountpoint) then false
  else
    let fstype := toLowercase mount.fstype
    if fstype == "autofs" && !Text.startsWith mount.device "/dev/" then false
    else if fstype == "fuseblk" then true
    else if isExcluded excludedFstypes fstype then false
    else
      let opts := toLowercase mount.opts
      if Text.contains opts "remote" || Text.contains opts "network" then false
      else !Text.startsWith mount.device "/dev/loop"

/-- The loop of `go_compatible_disk`. -/
def diskDevices (mounts : List DiskMount) : AList fun _ : String => DiskValues :=
  mounts.foldl (fun devices mount =>
    if isPhysicalDisk toLowercase mount then
      keep (·.total) devices (diskDeviceId mount) mount.values.clamped
    else devices) ∅

def goCompatibleDisk (mounts : List DiskMount) : Option DiskValues :=
  DiskValues.addUp (walk.values (diskDevices toLowercase mounts))

def parseSemicolonList (value : String) : List String :=
  ((Text.split value (· == ';')).map Text.trim).filter (· != "")

def goCompatibleDiskWithMountpoints (mounts : List DiskMount) (includeMountpoints : String) :
    Option DiskValues :=
  if includeMountpoints == "" then goCompatibleDisk toLowercase walk mounts
  else
    let included := parseSemicolonList includeMountpoints
    if included == [] then some .default
    else
      DiskValues.addUp ((mounts.filter fun mount => included.any (· == mount.mountpoint)).map
        (·.values.clamped))

/-- The lookup may answer differently each time: it is given the number of the call. -/
def goCompatibleDiskFromMountpointLookup (includeMountpoints : String)
    (lookup : ℕ → String → Option DiskValues) : Option DiskValues :=
  let found := (parseSemicolonList includeMountpoints).zipIdx.filterMap fun (mountpoint, call) =>
    lookup call mountpoint
  DiskValues.addUp (found.map (·.clamped))

/-- What the file system knows of a mount point is a parameter. -/
def collectDiskValuesWithMountpoints (mounts : List DiskMount) (includeMountpoints : String)
    (diskUsageForMountpoint : ℕ → String → Option DiskValues) : Option DiskValues :=
  if includeMountpoints == "" then goCompatibleDisk toLowercase walk mounts
  else goCompatibleDiskFromMountpointLookup includeMountpoints diskUsageForMountpoint

end Code

/-! ## Sums -/

/-- What is used is a part of what there is. -/
structure DiskValues.Sound (values : DiskValues) : Prop where
  nonneg : 0 ≤ values.used
  le : values.used ≤ values.total

namespace DiskValues

theorem sound_clamped (values : DiskValues) : values.clamped.Sound := by
  have hpos : 0 ≤ max values.total 0 := le_max_right _ _
  constructor
  · change 0 ≤ clampI64 values.used 0 (max values.total 0)
    rw [clampI64]
    split_ifs <;> omega
  · change clampI64 values.used 0 (max values.total 0) ≤ max values.total 0
    rw [clampI64]
    split_ifs <;> omega

theorem Sound.add {total values : DiskValues} (h : total.Sound) (h' : values.Sound) :
    (⟨total.total + values.total, total.used + values.used⟩ : DiskValues).Sound :=
  ⟨add_nonneg h.nonneg h'.nonneg, add_le_add h.le h'.le⟩

theorem addI64_eq_some {a b c : ℤ} (h : addI64 a b = some c) : c = a + b ∧ c < 2 ^ 63 := by
  rw [addI64] at h
  split_ifs at h with hrange
  obtain rfl : a + b = c := Option.some.inj h
  exact ⟨rfl, hrange.2⟩

theorem add_eq_some {total values sum : DiskValues} (h : total.add values = some sum) :
    sum = ⟨total.total + values.total, total.used + values.used⟩ ∧ sum.total < 2 ^ 63 := by
  rw [add] at h
  obtain ⟨t, ht, h⟩ := Option.bind_eq_some_iff.mp h
  obtain ⟨u, hu, h⟩ := Option.bind_eq_some_iff.mp h
  obtain rfl : (⟨t, u⟩ : DiskValues) = sum := Option.some.inj h
  obtain ⟨rfl, hlt⟩ := addI64_eq_some ht
  obtain ⟨rfl, -⟩ := addI64_eq_some hu
  exact ⟨rfl, hlt⟩

/-- A sum that is found is the sum. -/
theorem foldlM_add_eq_some {values : List DiskValues} {total sum : DiskValues}
    (h : values.foldlM add total = some sum) :
    sum = ⟨total.total + (values.map (·.total)).sum, total.used + (values.map (·.used)).sum⟩ := by
  induction values generalizing total with
  | nil =>
    obtain rfl : total = sum := Option.some.inj h
    simp
  | cons first values ih =>
    rw [List.foldlM_cons] at h
    obtain ⟨next, hnext, h⟩ := Option.bind_eq_some_iff.mp h
    rw [ih h, (add_eq_some hnext).1]
    simp only [List.map_cons, List.sum_cons, add_assoc]

theorem addUp_eq_some {values : List DiskValues} {sum : DiskValues} (h : addUp values = some sum) :
    sum = ⟨(values.map (·.total)).sum, (values.map (·.used)).sum⟩ := by
  rw [foldlM_add_eq_some h]
  simp only [default, zero_add]

/-- A sum of such values is such a value. -/
theorem addUp_sound {values : List DiskValues} {sum : DiskValues} (h : addUp values = some sum)
    (hsound : ∀ v ∈ values, v.Sound) : sum.Sound := by
  rw [addUp_eq_some h]
  constructor
  · apply List.sum_nonneg
    intro used hused
    obtain ⟨v, hv, rfl⟩ := List.mem_map.mp hused
    exact (hsound v hv).nonneg
  · exact List.sum_le_sum fun v hv => (hsound v hv).le

/-- Nothing overflows on the way to a total that fits. -/
theorem exists_foldlM_add {values : List DiskValues} {total : DiskValues} (htotal : total.Sound)
    (hsound : ∀ v ∈ values, v.Sound)
    (hfits : total.total + (values.map (·.total)).sum < 2 ^ 63) :
    ∃ sum, values.foldlM add total = some sum := by
  induction values generalizing total with
  | nil => exact ⟨total, rfl⟩
  | cons first values ih =>
    obtain ⟨hfirst, hrest⟩ := List.forall_mem_cons.mp hsound
    rw [List.map_cons, List.sum_cons] at hfits
    have hpos : 0 ≤ (values.map (·.total)).sum := by
      apply List.sum_nonneg
      intro t ht
      obtain ⟨v, hv, rfl⟩ := List.mem_map.mp ht
      exact (hrest v hv).nonneg.trans (hrest v hv).le
    have hsum := htotal.add hfirst
    have hused : 0 ≤ total.used + first.used := hsum.nonneg
    have hle : total.used + first.used ≤ total.total + first.total := hsum.le
    have hadd : total.add first =
        some ⟨total.total + first.total, total.used + first.used⟩ := by
      have ht : addI64 total.total first.total = some (total.total + first.total) :=
        if_pos (by omega)
      have hu : addI64 total.used first.used = some (total.used + first.used) :=
        if_pos (by omega)
      rw [add, ht, hu]
      rfl
    rw [List.foldlM_cons, hadd]
    apply ih hsum hrest
    change total.total + first.total + (values.map (·.total)).sum < 2 ^ 63
    omega

theorem exists_addUp {values : List DiskValues} (hsound : ∀ v ∈ values, v.Sound)
    (hfits : (values.map (·.total)).sum < 2 ^ 63) : ∃ sum, addUp values = some sum := by
  apply exists_foldlM_add ⟨le_rfl, le_rfl⟩ hsound
  rwa [default, zero_add]

/-- A total that is found is an `i64`. -/
theorem total_lt_of_foldlM_add {values : List DiskValues} {total sum : DiskValues}
    (htotal : total.total < 2 ^ 63) (h : values.foldlM add total = some sum) :
    sum.total < 2 ^ 63 := by
  induction values generalizing total with
  | nil =>
    obtain rfl : total = sum := Option.some.inj h
    exact htotal
  | cons first values ih =>
    rw [List.foldlM_cons] at h
    obtain ⟨next, hnext, h⟩ := Option.bind_eq_some_iff.mp h
    exact ih (add_eq_some hnext).2 h

/-- **The sums of the values**; there is an overflow exactly if the total does not fit. -/
theorem addUp_eq {values : List DiskValues} (hsound : ∀ v ∈ values, v.Sound) :
    addUp values = if (values.map (·.total)).sum < 2 ^ 63 then
      some ⟨(values.map (·.total)).sum, (values.map (·.used)).sum⟩ else none := by
  split_ifs with hfits
  · obtain ⟨sum, hsum⟩ := exists_addUp hsound hfits
    rw [hsum, addUp_eq_some hsum]
  · rw [Option.eq_none_iff_forall_ne_some]
    intro sum hsum
    have hlt : sum.total < 2 ^ 63 := total_lt_of_foldlM_add (by decide) hsum
    rw [addUp_eq_some hsum] at hlt
    exact hfits hlt

/-- The order does not matter. -/
theorem addUp_perm {values values' : List DiskValues} (hperm : values.Perm values')
    (hsound : ∀ v ∈ values, v.Sound) : addUp values = addUp values' := by
  rw [addUp_eq hsound, addUp_eq fun v hv => hsound v (hperm.mem_iff.mpr hv),
    (hperm.map _).sum_eq, (hperm.map _).sum_eq]

end DiskValues

/-! ## Devices -/

section Devices

variable (toLowercase : String → String) (mounts : List DiskMount)

def acceptedMounts : List DiskMount := mounts.filter (isPhysicalDisk toLowercase)

/-- The devices of the mounts that are physical disks. -/
def deviceIds : Finset String := ((acceptedMounts toLowercase mounts).map diskDeviceId).toFinset

/-- The largest total of the mounts of a device; a negative total counts as zero. -/
def largestTotal (id : String) : ℤ :=
  (((acceptedMounts toLowercase mounts).filter (diskDeviceId · = id)).map
    (max ·.total 0)).max?.getD 0

variable {toLowercase mounts}

theorem mem_deviceIds {id : String} :
    id ∈ deviceIds toLowercase mounts ↔
      ∃ mount ∈ acceptedMounts toLowercase mounts, diskDeviceId mount = id := by
  rw [deviceIds, List.mem_toFinset, List.mem_map]

theorem isGreatest_largestTotal {id : String} (hid : id ∈ deviceIds toLowercase mounts) :
    IsGreatest {t | ∃ mount ∈ acceptedMounts toLowercase mounts,
      diskDeviceId mount = id ∧ max mount.total 0 = t} (largestTotal toLowercase mounts id) := by
  have hmem : ∀ t, t ∈ ((acceptedMounts toLowercase mounts).filter (diskDeviceId · = id)).map
      (max ·.total 0) ↔ ∃ mount ∈ acceptedMounts toLowercase mounts,
        diskDeviceId mount = id ∧ max mount.total 0 = t := by
    intro t
    simp only [List.mem_map, List.mem_filter, decide_eq_true_eq, and_assoc]
  rw [largestTotal]
  cases hmax : (((acceptedMounts toLowercase mounts).filter (diskDeviceId · = id)).map
      (max ·.total 0)).max? with
  | none =>
    obtain ⟨mount, hmount, hmountId⟩ := mem_deviceIds.mp hid
    have htotal := (hmem _).mpr ⟨mount, hmount, hmountId, rfl⟩
    rw [List.max?_eq_none_iff.mp hmax] at htotal
    cases htotal
  | some t =>
    obtain ⟨ht, hle⟩ := List.max?_eq_some_iff.mp hmax
    exact ⟨(hmem t).mp ht, fun t' ht' => hle t' ((hmem t').mpr ht')⟩

/-- The order of the mounts does not matter. -/
theorem deviceIds_perm {mounts' : List DiskMount} (hperm : mounts'.Perm mounts) :
    deviceIds toLowercase mounts' = deviceIds toLowercase mounts :=
  List.toFinset_eq_of_perm _ _ ((hperm.filter _).map _)

theorem largestTotal_perm {mounts' : List DiskMount} (hperm : mounts'.Perm mounts) {id : String}
    (hid : id ∈ deviceIds toLowercase mounts) :
    largestTotal toLowercase mounts' id = largestTotal toLowercase mounts id := by
  have hgreatest := isGreatest_largestTotal ((deviceIds_perm hperm).symm ▸ hid)
  have hmem : ∀ mount, mount ∈ acceptedMounts toLowercase mounts' ↔
      mount ∈ acceptedMounts toLowercase mounts := fun _ => (hperm.filter _).mem_iff
  simp only [hmem] at hgreatest
  exact hgreatest.unique (isGreatest_largestTotal hid)

/-! ## The table -/

/-- The loop keeps a mount of largest total for each device. -/
theorem largest_diskDevices :
    Largest diskDeviceId (·.values.clamped) DiskValues.total (acceptedMounts toLowercase mounts)
      (diskDevices toLowercase mounts) := by
  rw [diskDevices, ← List.foldl_filter]
  exact Largest.empty.foldl (acceptedMounts toLowercase mounts)

theorem keys_diskDevices :
    (diskDevices toLowercase mounts).keys.toFinset = deviceIds toLowercase mounts :=
  largest_diskDevices.keys

theorem mem_deviceIds_of_lookup {id : String} {values : DiskValues}
    (h : (diskDevices toLowercase mounts).lookup id = some values) :
    id ∈ deviceIds toLowercase mounts := by
  obtain ⟨mount, hmount, hid, -⟩ := largest_diskDevices.exists_eq id values h
  exact mem_deviceIds.mpr ⟨mount, hmount, hid⟩

theorem total_of_lookup {id : String} {values : DiskValues}
    (h : (diskDevices toLowercase mounts).lookup id = some values) :
    values.total = largestTotal toLowercase mounts id :=
  (largest_diskDevices.isGreatest h).unique (isGreatest_largestTotal (mem_deviceIds_of_lookup h))

theorem sound_of_mem_values {walk : Walk String DiskValues} {values : DiskValues}
    (h : values ∈ walk.values (diskDevices toLowercase mounts)) : values.Sound := by
  obtain ⟨id, hlookup⟩ := Walk.mem_values.mp h
  obtain ⟨mount, -, -, rfl⟩ := largest_diskDevices.exists_eq id values hlookup
  exact mount.values.sound_clamped

/-- For each device, the mount that the table has it from. -/
theorem exists_chosen (toLowercase : String → String) (mounts : List DiskMount) :
    ∃ chosen : String → DiskMount, ∀ id ∈ deviceIds toLowercase mounts,
      chosen id ∈ acceptedMounts toLowercase mounts ∧ diskDeviceId (chosen id) = id ∧
      (diskDevices toLowercase mounts).lookup id = some (chosen id).values.clamped := by
  have hexists : ∀ id ∈ deviceIds toLowercase mounts, ∃ mount,
      mount ∈ acceptedMounts toLowercase mounts ∧ diskDeviceId mount = id ∧
      (diskDevices toLowercase mounts).lookup id = some mount.values.clamped := by
    intro id hid
    obtain ⟨mount, hmount, rfl⟩ := mem_deviceIds.mp hid
    obtain ⟨values, hlookup, -⟩ := largest_diskDevices.exists_le mount hmount
    obtain ⟨mount', hmount', hid', rfl⟩ := largest_diskDevices.exists_eq _ values hlookup
    exact ⟨mount', hmount', hid', hlookup⟩
  choose! chosen hchosen using hexists
  exact ⟨chosen, hchosen⟩

/-- **The total of the devices**; there is an overflow exactly if it does not fit. -/
theorem goCompatibleDisk_eq (walk : Walk String DiskValues) :
    goCompatibleDisk toLowercase walk mounts =
      if ∑ id ∈ deviceIds toLowercase mounts, largestTotal toLowercase mounts id < 2 ^ 63 then
        some ⟨∑ id ∈ deviceIds toLowercase mounts, largestTotal toLowercase mounts id,
          ((walk.values (diskDevices toLowercase mounts)).map (·.used)).sum⟩
      else none := by
  have htotal := walk.sum_values (diskDevices toLowercase mounts) fun _ _ => total_of_lookup
  rw [keys_diskDevices] at htotal
  rw [goCompatibleDisk, DiskValues.addUp_eq fun _ => sound_of_mem_values, htotal]

theorem sound_goCompatibleDisk {walk : Walk String DiskValues} {values : DiskValues}
    (h : goCompatibleDisk toLowercase walk mounts = some values) : values.Sound :=
  DiskValues.addUp_sound h fun _ => sound_of_mem_values

end Devices

/-- **Each device is counted once.** If the largest totals of the devices add up to an `i64`, then
nothing overflows and the total is that sum, over the devices of the mounts that are physical disks.
What is used is the sum of one value for each device, of a mount that has the largest total. It is
not negative and not more than the total. The total is the same in any order of the mounts, and of
the hash map. -/
theorem goCompatibleDisk_counts_each_device_once (toLowercase : String → String)
    (walk : Walk String DiskValues) (mounts : List DiskMount)
    (hfits : ∑ id ∈ deviceIds toLowercase mounts, largestTotal toLowercase mounts id < 2 ^ 63) :
    ∃ values, goCompatibleDisk toLowercase walk mounts = some values ∧
      values.total = ∑ id ∈ deviceIds toLowercase mounts, largestTotal toLowercase mounts id ∧
      (∃ chosen : String → DiskMount,
        (∀ id ∈ deviceIds toLowercase mounts,
          chosen id ∈ mounts ∧ isPhysicalDisk toLowercase (chosen id) = true ∧
          diskDeviceId (chosen id) = id ∧
          max (chosen id).total 0 = largestTotal toLowercase mounts id) ∧
        values.used = ∑ id ∈ deviceIds toLowercase mounts,
          clampI64 (chosen id).used 0 (max (chosen id).total 0)) ∧
      0 ≤ values.used ∧ values.used ≤ values.total ∧
      ∀ walk' mounts', mounts'.Perm mounts →
        ∃ values', goCompatibleDisk toLowercase walk' mounts' = some values' ∧
          values'.total = values.total := by
  have hvalues := (goCompatibleDisk_eq walk).trans (if_pos hfits)
  obtain ⟨chosen, hchosen⟩ := exists_chosen toLowercase mounts
  have hsound := sound_goCompatibleDisk hvalues
  refine ⟨_, hvalues, rfl, ⟨chosen, fun id hid => ?_, ?_⟩, hsound.nonneg, hsound.le, ?_⟩
  · obtain ⟨hmem, hid', hlookup⟩ := hchosen id hid
    obtain ⟨hmounts, hphysical⟩ := List.mem_filter.mp hmem
    exact ⟨hmounts, hphysical, hid', total_of_lookup hlookup⟩
  · have hused : ∀ id v, (diskDevices toLowercase mounts).lookup id = some v →
        v.used = clampI64 (chosen id).used 0 (max (chosen id).total 0) := by
      intro id v hv
      obtain ⟨-, -, hlookup⟩ := hchosen id (mem_deviceIds_of_lookup hv)
      rw [Option.some.inj (hv.symm.trans hlookup)]
      rfl
    rw [← keys_diskDevices]
    exact walk.sum_values (diskDevices toLowercase mounts) hused
  · intro walk' mounts' hperm
    have hsum : ∑ id ∈ deviceIds toLowercase mounts', largestTotal toLowercase mounts' id =
        ∑ id ∈ deviceIds toLowercase mounts, largestTotal toLowercase mounts id := by
      rw [deviceIds_perm hperm]
      exact Finset.sum_congr rfl fun id hid => largestTotal_perm hperm hid
    exact ⟨_, (goCompatibleDisk_eq walk').trans (if_pos (hsum.trans_lt hfits)), hsum⟩

/-- The root, a disk, and two file systems of one pool, among mounts that are not physical. -/
def sixMounts : List DiskMount :=
  [⟨"/dev/loop0", "/", "overlay", "", 1000, 400⟩,
    ⟨"tmpfs", "/run", "tmpfs", "", 9999, 9999⟩,
    ⟨"overlay", "/var/lib/docker/overlay2", "overlay", "", 9999, 9999⟩,
    ⟨"/dev/sdb1", "/data", "ext4", "", 2000, 100⟩,
    ⟨"tank/app", "/tank/app", "zfs", "", 3000, 1000⟩,
    ⟨"tank/logs", "/tank/logs", "zfs", "", 2500, 800⟩]

theorem goCompatibleDisk_sixMounts :
    goCompatibleDisk Text.lowercase .inOrder sixMounts = some ⟨6000, 1500⟩ ∧
    ∀ walk mounts, mounts.Perm sixMounts →
      ∃ values, goCompatibleDisk Text.lowercase walk mounts = some values ∧
        values.total = 6000 := by
  have hvalue : goCompatibleDisk Text.lowercase .inOrder sixMounts = some ⟨6000, 1500⟩ := by
    decide +kernel
  obtain ⟨values, hvalues, -, -, -, -, hperm⟩ := goCompatibleDisk_counts_each_device_once
    Text.lowercase .inOrder sixMounts (by decide +kernel)
  obtain rfl : values = ⟨6000, 1500⟩ := Option.some.inj (hvalues.symm.trans hvalue)
  exact ⟨hvalue, hperm⟩

/-! ## Lists of mount points -/

theorem sound_of_mem_clamped {values : List DiskValues} :
    ∀ v ∈ values.map (·.clamped), v.Sound := by
  intro v hv
  obtain ⟨found, -, rfl⟩ := List.mem_map.mp hv
  exact found.sound_clamped

/-- **Whatever is asked for**, what is used is a part of what there is. -/
theorem collectDiskValuesWithMountpoints_sound {toLowercase : String → String}
    {walk : Walk String DiskValues} {mounts : List DiskMount} {includeMountpoints : String}
    {diskUsageForMountpoint : ℕ → String → Option DiskValues} {values : DiskValues}
    (h : collectDiskValuesWithMountpoints toLowercase walk mounts includeMountpoints
      diskUsageForMountpoint = some values) : values.Sound := by
  rw [collectDiskValuesWithMountpoints] at h
  split_ifs at h with hempty
  · exact sound_goCompatibleDisk h
  · exact DiskValues.addUp_sound h sound_of_mem_clamped

/-- The mount of a mount point, if no two mounts have the same. -/
theorem find?_mountpoint {mounts : List DiskMount} (hnodup : (mounts.map (·.mountpoint)).Nodup)
    {mountpoint : String} {mount : DiskMount} :
    mounts.find? (·.mountpoint == mountpoint) = some mount ↔
      mount ∈ mounts ∧ mount.mountpoint = mountpoint := by
  constructor
  · intro hfind
    have hbeq := List.find?_some hfind
    exact ⟨List.mem_of_find?_eq_some hfind, eq_of_beq hbeq⟩
  · rintro ⟨hmount, rfl⟩
    cases hfind : mounts.find? (·.mountpoint == mount.mountpoint) with
    | none =>
      have hne := List.find?_eq_none.mp hfind mount hmount
      exact absurd (beq_self_eq_true _) hne
    | some mount' =>
      have hmount' := List.mem_of_find?_eq_some hfind
      have hbeq := List.find?_some hfind
      rw [List.inj_on_of_nodup_map hnodup hmount' hmount (eq_of_beq hbeq)]

/-- The mounts at the mount points, in the order of either list. -/
theorem filterMap_find?_perm {mounts : List DiskMount} {included : List String}
    (hnodup : (mounts.map (·.mountpoint)).Nodup) (hincluded : included.Nodup) :
    (included.filterMap fun mountpoint => mounts.find? (·.mountpoint == mountpoint)).Perm
      (mounts.filter fun mount => included.any (· == mount.mountpoint)) := by
  rw [List.perm_ext_iff_of_nodup]
  · intro mount
    simp only [List.mem_filterMap, find?_mountpoint hnodup, List.mem_filter, List.any_eq_true,
      beq_iff_eq]
    constructor
    · rintro ⟨mountpoint, hmem, hmount, rfl⟩
      exact ⟨hmount, _, hmem, rfl⟩
    · rintro ⟨hmount, mountpoint, hmem, rfl⟩
      exact ⟨_, hmem, hmount, rfl⟩
  · refine hincluded.filterMap fun mountpoint mountpoint' mount hmount hmount' => ?_
    rw [Option.mem_def, find?_mountpoint hnodup] at hmount hmount'
    exact hmount.2.symm.trans hmount'.2
  · exact hnodup.of_map.filter _

/-- **The file system and the list of mounts** give the same values, if no mount point is mounted or
asked for twice and the file system knows what the list has. -/
theorem collectDiskValuesWithMountpoints_eq (toLowercase : String → String)
    (walk : Walk String DiskValues) {mounts : List DiskMount} {includeMountpoints : String}
    (hnodup : (mounts.map (·.mountpoint)).Nodup)
    (hincluded : (parseSemicolonList includeMountpoints).Nodup)
    {diskUsageForMountpoint : ℕ → String → Option DiskValues}
    (hlookup : ∀ call mountpoint, diskUsageForMountpoint call mountpoint =
      (mounts.find? (·.mountpoint == mountpoint)).map (·.values)) :
    collectDiskValuesWithMountpoints toLowercase walk mounts includeMountpoints
        diskUsageForMountpoint =
      goCompatibleDiskWithMountpoints toLowercase walk mounts includeMountpoints := by
  -- The loop with the call numbers is a loop over the mount points.
  have hfound : ((parseSemicolonList includeMountpoints).zipIdx.filterMap
      fun (mountpoint, call) => diskUsageForMountpoint call mountpoint) =
      ((parseSemicolonList includeMountpoints).filterMap fun mountpoint =>
        mounts.find? (·.mountpoint == mountpoint)).map (·.values) := by
    nth_rewrite 2 [← List.zipIdx_map_fst 0 (parseSemicolonList includeMountpoints)]
    rw [List.filterMap_map, List.map_filterMap]
    exact congrArg (List.filterMap · _) (funext fun _ => hlookup _ _)
  rw [collectDiskValuesWithMountpoints, goCompatibleDiskWithMountpoints]
  split_ifs with hempty
  · rfl
  · rw [goCompatibleDiskFromMountpointLookup, hfound]
    dsimp only
    split_ifs with hnil
    · rw [eq_of_beq hnil]
      rfl
    · rw [List.map_map]
      apply DiskValues.addUp_perm ((filterMap_find?_perm hnodup hincluded).map _)
      rw [← List.map_map]
      exact sound_of_mem_clamped

end KeliAgent
