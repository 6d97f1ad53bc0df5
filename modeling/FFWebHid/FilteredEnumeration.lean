import FFWebHid.HidDevices

/-!
Enumeration with a filter. The vendor and product identifiers of the filter are looked at
before a descriptor is read and before devices under one identifier are counted; the whole
filter is applied to what is left after pruning. A device that only the entries passed over
collide with is listed with the filter, and hidden without it.
-/
namespace FFWebHid.FilteredEnumeration
open FFWebHid.Types FFWebHid.Descriptor FFWebHid.HidDevices FFWebHid.ReportBlocking
open FFWebHid.NativeMessages (DeviceFilter EnumerateFilter)

variable {host : Host} {api : HidApi} {f : EnumerateFilter} {info : HidDeviceInfo}

theorem matchesVidPid_of_device {device : DeviceInfo} (fine : matchesDevice device f = true) :
    matchesVidPid device.vendorId device.productId f = true := by
  unfold matchesDevice at fine
  dsimp only at fine
  rw [Bool.and_eq_true,Bool.or_eq_true,Bool.not_eq_true'] at fine
  obtain ⟨included,excluded⟩ := fine
  have early (x : DeviceFilter) (matched : matchesDeviceFilter device x = true) :
      matchesFilterVidPid device.vendorId device.productId x = true := by
    unfold matchesDeviceFilter at matched
    split_ifs at matched with differs
    · simpa using differs
    · simpa using differs
  unfold matchesVidPid
  rw [if_neg]
  · rw [Bool.not_eq_true',Bool.eq_false_iff]
    intro any
    obtain ⟨x,member,holds⟩ := List.any_eq_true.mp any
    simp only [Bool.and_eq_true] at holds
    have whole : matchesDeviceFilter device x = true := by
      unfold matchesDeviceFilter
      simp [holds.1.1,holds.1.2,holds.2]
    rw [List.any_eq_true.mpr ⟨x,member,whole⟩] at excluded
    cases excluded
  · intro missing
    rw [Bool.and_eq_true,Bool.not_eq_true',Bool.not_eq_true'] at missing
    rcases included with empty | any
    · rw [missing.1] at empty
      cases empty
    · obtain ⟨x,member,holds⟩ := List.any_eq_true.mp any
      rw [List.any_eq_true.mpr ⟨x,member,early x holds⟩] at missing
      cases missing.2

/-- What the caller gets for an entry that is listed. -/
def shown (host : Host) (api : HidApi) (f : EnumerateFilter) (info : HidDeviceInfo) : Option DeviceInfo :=
  (pruneDeviceInfo host.lib (infoFromHidapiPub host api info)).filter fun device => matchesDevice device f

theorem enumerateFiltered_some (host : Host) (api : HidApi) (f : EnumerateFilter) :
    enumerateFiltered host api (some f) = (listedEntries host api (some f)).filterMap (shown host api f) := by
  unfold enumerateFiltered enumerateWithFilter shown
  dsimp only
  rw [List.filterMap_map,List.filter_filterMap]
  rfl

theorem enumerateFiltered_none (host : Host) (api : HidApi) (f : EnumerateFilter) :
    (enumerateFiltered host api none).filter (fun device => matchesDevice device f) =
      (listedEntries host api none).filterMap (shown host api f) := by
  unfold enumerateFiltered enumerate enumerateWithFilter shown
  dsimp only
  rw [List.filterMap_map,List.filter_filter,List.filter_filterMap]
  simp

theorem shown_vidPid (visible : (shown host api f info).isSome = true) :
    matchesVidPid info.vendorId info.productId f = true := by
  obtain ⟨device,same⟩ := Option.isSome_iff_exists.mp visible
  obtain ⟨pruned,fine⟩ := Option.filter_eq_some_iff.mp same
  have kept : device.vendorId = info.vendorId ∧ device.productId = info.productId := by
    unfold pruneDeviceInfo at pruned
    dsimp only at pruned
    split_ifs at pruned
    split at pruned
    · cases pruned
    · obtain rfl := Option.some.inj pruned
      exact ⟨rfl,rfl⟩
  rw [← kept.1,← kept.2]
  exact matchesVidPid_of_device fine

/-! ### What differs -/

/-- The entry stands for a device that matches: it is the first of its signature among the
    entries that are not blocked, no rule blocks it, and something of it is shown. -/
def Stands (host : Host) (api : HidApi) (f : EnumerateFilter) (info : HidDeviceInfo) : Prop :=
  api.deviceList.find? (fun i => !isBlockedPub i && decide (signature host api i = signature host api info)) = some info ∧
    isBlockedByVendorProduct (infoFromHidapiPub host api info) = false ∧ (shown host api f info).isSome = true

/-- The entries under the identifier that are kept say that they are one device. -/
def OneDevice (host : Host) (api : HidApi) (kept : HidDeviceInfo → Bool) (id : DeviceId) : Prop :=
  ∀ a ∈ api.deviceList, ∀ b ∈ api.deviceList, kept a = true → kept b = true → makeDeviceId host a = id →
    makeDeviceId host b = id → physicalKey host a = physicalKey host b

/-- Where the entries that the filter lets through are one device, so are all that are not
    blocked, under the identifier of every device that matches. -/
def SeesCollisions (host : Host) (api : HidApi) (f : EnumerateFilter) : Prop :=
  ∀ info, Stands host api f info →
    OneDevice host api (fun i => matchesVidPid i.vendorId i.productId f && !isBlockedPub i) (makeDeviceId host info) →
    OneDevice host api (fun i => !isBlockedPub i) (makeDeviceId host info)

theorem oneDevice_iff {filter : Option EnumerateFilter} {id : DeviceId} :
    collides (grouped host filter api.deviceList).idPhysical id = false ↔
      OneDevice host api (considered filter) id := by
  rw [Bool.eq_false_iff,Ne,collides_iff,distinctPhysicalCount_iff]
  simp only [sharing,List.mem_filter,Bool.and_eq_true,beq_iff_eq]
  constructor
  · intro none a inA b inB keptA keptB idA idB
    by_contra differ
    exact none ⟨a,⟨inA,keptA,idA⟩,b,⟨inB,keptB,idB⟩,differ⟩
  · rintro one ⟨a,⟨inA,keptA,idA⟩,b,⟨inB,keptB,idB⟩,differ⟩
    exact differ (one a inA b inB keptA keptB idA idB)

/-- Of the entries of something shown, the early check passes over none. -/
theorem first_eq (visible : (shown host api f info).isSome = true) :
    (fun i => considered (some f) i && decide (signature host api i = signature host api info)) =
      fun i => !isBlockedPub i && decide (signature host api i = signature host api info) := by
  funext i
  by_cases same : signature host api i = signature host api info
  · have group : groupKey i = groupKey info := congrArg Prod.fst same
    simp only [groupKey,Prod.mk.injEq] at group
    have passes := shown_vidPid visible
    rw [← group.1,← group.2.1] at passes
    simp [considered,passes]
  · simp [same]

theorem listed_some (visible : (shown host api f info).isSome = true) : info ∈ listedEntries host api (some f) ↔
    Stands host api f info ∧ OneDevice host api (considered (some f)) (makeDeviceId host info) := by
  rw [mem_listedEntries,first_eq visible,listable,Bool.and_eq_true,Bool.not_eq_true',Bool.not_eq_true',oneDevice_iff]
  unfold Stands
  tauto

theorem listed_none (visible : (shown host api f info).isSome = true) : info ∈ listedEntries host api none ↔
    Stands host api f info ∧ OneDevice host api (considered none) (makeDeviceId host info) := by
  rw [mem_listedEntries,listable,Bool.and_eq_true,Bool.not_eq_true',Bool.not_eq_true',oneDevice_iff]
  unfold Stands considered
  simp only [Option.map_none,Option.getD_none,Bool.true_and]
  tauto

theorem filterMap_shown (entries : List HidDeviceInfo) : entries.filterMap (shown host api f) =
    (entries.filter fun i => (shown host api f i).isSome).filterMap (shown host api f) := by
  induction entries with
  | nil => rfl
  | cons e rest ih =>
    cases visible : shown host api f e <;> simp [visible,ih]

theorem length_filterMap_shown (entries : List HidDeviceInfo) : (entries.filterMap (shown host api f)).length =
    (entries.filter fun i => (shown host api f i).isSome).length := by
  induction entries with
  | nil => rfl
  | cons e rest ih => cases visible : shown host api f e <;> simp [visible,ih]

/-- The filtered enumeration returns, in some order, what matches of the full one, if and
    only if the filter lets every collision through that hides a matching device. -/
theorem filtered_iff (host : Host) (api : HidApi) (f : EnumerateFilter) :
    (enumerateFiltered host api (some f)).Perm
      ((enumerateFiltered host api none).filter fun device => matchesDevice device f) ↔ SeesCollisions host api f := by
  rw [enumerateFiltered_some,enumerateFiltered_none]
  have nodup (filter : Option EnumerateFilter) :
      ((listedEntries host api filter).filter fun i => (shown host api f i).isSome).Nodup :=
    (List.Nodup.of_map (signature host api) nodup_listedEntries).filter _
  have fewer (id : DeviceId) (one : OneDevice host api (considered none) id) : OneDevice host api (considered (some f)) id := by
    have unblocked (i : HidDeviceInfo) (kept : considered (some f) i = true) : considered none i = true := by
      simp_all [considered]
    exact fun a inA b inB keptA keptB => one a inA b inB (unblocked a keptA) (unblocked b keptB)
  have subset : (listedEntries host api none).filter (fun i => (shown host api f i).isSome) ⊆
      (listedEntries host api (some f)).filter fun i => (shown host api f i).isSome := by
    intro info member
    obtain ⟨listed,visible⟩ := List.mem_filter.mp member
    obtain ⟨stands,one⟩ := (listed_none visible).mp listed
    exact List.mem_filter.mpr ⟨(listed_some visible).mpr ⟨stands,fewer _ one⟩,visible⟩
  constructor
  · intro same info stands one
    have visible := stands.2.2
    have lengths := same.length_eq
    rw [length_filterMap_shown,length_filterMap_shown] at lengths
    have alike := (List.subperm_of_subset (nodup none) subset).perm_of_length_le lengths.le
    have listed : info ∈ (listedEntries host api (some f)).filter fun i => (shown host api f i).isSome :=
      List.mem_filter.mpr ⟨(listed_some visible).mpr ⟨stands,one⟩,visible⟩
    have full := (listed_none visible).mp (List.mem_filter.mp (alike.mem_iff.mpr listed)).1
    exact full.2
  · intro sees
    rw [filterMap_shown (listedEntries host api (some f)),filterMap_shown (listedEntries host api none)]
    refine List.Perm.filterMap _ ((List.perm_ext_iff_of_nodup (nodup (some f)) (nodup none)).mpr fun info => ?_)
    refine ⟨fun member => ?_,fun member => subset member⟩
    obtain ⟨listed,visible⟩ := List.mem_filter.mp member
    obtain ⟨stands,one⟩ := (listed_some visible).mp listed
    refine List.mem_filter.mpr ⟨(listed_none visible).mpr ⟨stands,?_⟩,visible⟩
    exact sees info stands one

/-- A descriptor with one collection and one field of a byte. -/
def plainField : HidField :=
  .variable
    { bitsStart := 0
      bitsEnd := 8
      collections := [⟨0,1,[⟨0xff00,1⟩]⟩]
      logicalMinimum := 0
      logicalMaximum := 1
      usage := ⟨0xff00,2⟩ }

/-- Every path has one hash. -/
def collidingHost : Host where
  resolveLinuxSyspath _ := none
  hashDeviceId _ := 7
  lib := ⟨fun _ => some ⟨[⟨none,[plainField]⟩],[],[]⟩,fun _ => ""⟩

/-- Devices of two vendors. -/
def collidingApi : HidApi where
  deviceList := [⟨⟨"/dev/hidraw1",⟨0,0x046d,0xc216,none,none,none⟩⟩,0xff00,1⟩,
    ⟨⟨"/dev/hidraw2",⟨1,0x054c,0x05c4,none,none,none⟩⟩,0xff00,1⟩]
  rawReportDescriptor _ := [1]
  onePath := by decide

/-- The filter names one of the vendors, and its device is listed; without the filter both
    are hidden. -/
theorem filter_unhides : ¬ ∀ host api f, (enumerateFiltered host api (some f)).Perm
    ((enumerateFiltered host api none).filter fun device => matchesDevice device f) := by
  intro same
  have lengths := (same collidingHost collidingApi ⟨[⟨some 0x046d,none,none,none⟩],[]⟩).length_eq
  have filtered : (enumerateFiltered collidingHost collidingApi
      (some ⟨[⟨some 0x046d,none,none,none⟩],[]⟩)).length = 1 := by decide
  have full : (enumerateFiltered collidingHost collidingApi none).length = 0 := by decide
  rw [filtered,List.length_eq_zero_iff.mp full] at lengths
  cases lengths

end FFWebHid.FilteredEnumeration
