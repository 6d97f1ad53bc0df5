import FFWebHid.Maps
import FFWebHid.Types
import FFWebHid.Blocklist
import FFWebHid.Descriptor
import FFWebHid.ReportBlocking
import FFWebHid.NativeMessages

/-!
The devices that the daemon finds through hidapi: their identifiers, the enumeration with
its filters, the lookup by path and the choice of the device to open. What the operating
system answers is left open: the entries, their descriptors, where the paths lead, and how
identifiers are hashed. A `HashMap` of the source is walked in the order of `Maps`, so that
nothing should be made of the order of an enumeration.
-/
namespace FFWebHid.HidDevices
open FFWebHid.Maps FFWebHid.Types FFWebHid.Blocklist FFWebHid.Descriptor FFWebHid.ReportBlocking
open FFWebHid.NativeMessages (DeviceFilter EnumerateFilter)

/-- A device that is plugged in. The number tells devices apart that say the same of
    themselves. -/
structure PhysicalDevice where
  number : Nat
  vendorId : UInt16
  productId : UInt16
  serialNumber : Option String := none
  productString : Option String := none
  manufacturerString : Option String := none
  deriving DecidableEq, Repr

/-- A node of the operating system, one of a device's interfaces. -/
structure HidNode where
  path : String
  device : PhysicalDevice
  deriving DecidableEq, Repr

/-- `hidapi::DeviceInfo`: an entry of the list. A node has one for each of its usages. -/
structure HidDeviceInfo where
  node : HidNode
  usagePage : UInt16
  usage : UInt16
  deriving DecidableEq, Repr

namespace HidDeviceInfo
variable (info : HidDeviceInfo)
def path : String := info.node.path
def vendorId : UInt16 := info.node.device.vendorId
def productId : UInt16 := info.node.device.productId
def serialNumber : Option String := info.node.device.serialNumber
end HidDeviceInfo

/-- `HidApi`: the list, in which a path names one node, and the descriptor that a node
    reports, empty if it cannot be opened or read. -/
structure HidApi where
  deviceList : List HidDeviceInfo
  rawReportDescriptor : String → Bytes
  onePath : ∀ a ∈ deviceList, ∀ b ∈ deviceList, a.path = b.path → a.node = b.node

/-- What the host and its libraries do: where the link of a hidraw node leads, the hash of
    `webhid`, and the parser of descriptors. -/
structure Host where
  resolveLinuxSyspath : String → Option String
  hashDeviceId : String → DeviceId
  lib : Externals

def makeDeviceId (host : Host) (info : HidDeviceInfo) : DeviceId :=
  match host.resolveLinuxSyspath info.path with
  | some syspath => host.hashDeviceId syspath
  | none => host.hashDeviceId info.path

def physicalIdentity (host : Host) (info : HidDeviceInfo) : String :=
  (host.resolveLinuxSyspath info.path).getD info.path

def physicalKey (host : Host) (info : HidDeviceInfo) : String :=
  let serial := info.serialNumber.getD ""
  if serial = "" then physicalIdentity host info else "serial:" ++ serial

/-- `HashSet::insert`. -/
def insertNew {α : Type} [DecidableEq α] (seen : List α) (x : α) : List α := if x ∈ seen then seen else x :: seen

def distinctPhysicalCount (host : Host) (entries : List HidDeviceInfo) : Nat :=
  (entries.foldl (fun seen info => insertNew seen (physicalKey host info)) []).length

def blockedDevices : List (UInt16 × UInt16) :=
  [(0x096e,0x0850),(0x096e,0x0852),(0x096e,0x0853),(0x096e,0x0854),(0x096e,0x0856),(0x096e,0x0858),(0x096e,0x085a),
   (0x096e,0x085b),(0x096e,0x0880),(0x09c3,0x0023),(0x1050,0x0010),(0x1050,0x0018),(0x1050,0x0030),(0x1050,0x0110),
   (0x1050,0x0111),(0x1050,0x0112),(0x1050,0x0113),(0x1050,0x0114),(0x1050,0x0115),(0x1050,0x0116),(0x1050,0x0120),
   (0x1050,0x0200),(0x1050,0x0211),(0x1050,0x0401),(0x1050,0x0402),(0x1050,0x0403),(0x1050,0x0404),(0x1050,0x0405),
   (0x1050,0x0406),(0x1050,0x0407),(0x1050,0x0410),(0x10c4,0x8acf),(0x1209,0x4321),(0x1209,0x4322),(0x18d1,0x5026),
   (0x1a44,0x00bb),(0x1d50,0x60fc),(0x1e0d,0xf1ae),(0x1e0d,0xf1d0),(0x1ea8,0xf025),(0x20a0,0x4287),(0x24dc,0x0101),
   (0x2581,0xf1d0),(0x2abe,0x1002),(0x2ccf,0x0880)]

def fidoUsagePage : UInt16 := 0xF1D0

/-- Whether `device_level_block_reason` gives a reason. -/
def isBlockedPub (info : HidDeviceInfo) : Bool :=
  info.usagePage == fidoUsagePage || blockedDevices.any fun (v,p) => v == info.vendorId && p == info.productId

def isBlockedByVendorProduct (info : DeviceInfo) : Bool :=
  deviceIsBlocked blocklistRules info.vendorId info.productId

def buildDeviceInfo (host : Host) (info : HidDeviceInfo) (collections : List Collection) (rawDescriptor : Bytes) :
    DeviceInfo where
  vendorId := info.vendorId
  productId := info.productId
  productName := info.node.device.productString.getD ""
  manufacturer := info.node.device.manufacturerString
  serialNumber := info.serialNumber
  usagePage := some info.usagePage
  usage := some info.usage
  deviceId := makeDeviceId host info
  descriptorParseFailed := collections.isEmpty
  collections := collections
  maxInputReportSize := maxInputReportSize collections
  rawDescriptor := rawDescriptor

/-- `info_from_hidapi_pub_with_desc`, which always has an answer. -/
def infoFromHidapiPubWithDesc (host : Host) (info : HidDeviceInfo) (desc : Bytes) : DeviceInfo :=
  buildDeviceInfo host info (descriptorCollections host.lib desc) desc

def infoFromHidapiPub (host : Host) (api : HidApi) (info : HidDeviceInfo) : DeviceInfo :=
  infoFromHidapiPubWithDesc host info (api.rawReportDescriptor info.path)

/-- The lookup of the hot-plug monitor: the first entry with the path decides. -/
def infoByRawPath (host : Host) (api : HidApi) (rawPath : String) : Option DeviceInfo :=
  match api.deviceList.find? fun info => info.path == rawPath with
  | none => none
  | some info =>
    if isBlockedPub info then none
    else
      let d := infoFromHidapiPub host api info
      if isBlockedByVendorProduct d then none else some d

def matchesFilterVidPid (vendorId productId : UInt16) (filter : DeviceFilter) : Bool :=
  (filter.vendorId.map fun id => id == vendorId.toUInt32).getD true &&
    (filter.productId.map fun id => id == productId.toUInt32).getD true

def matchesVidPid (vendorId productId : UInt16) (filter : EnumerateFilter) : Bool :=
  if !filter.filters.isEmpty && !filter.filters.any (matchesFilterVidPid vendorId productId) then false
  else
    !filter.exclusionFilters.any fun f =>
      f.usagePage.isNone && f.usage.isNone && matchesFilterVidPid vendorId productId f

def matchesCollectionUsage (filter : DeviceFilter) (collection : Collection) : Bool :=
  (filter.usagePage.map fun page => (collection.usagePage.map fun value => value.toUInt32 == page).getD false).getD true &&
    (filter.usage.map fun usage => (collection.usage.map fun value => value.toUInt32 == usage).getD false).getD true

def matchesDeviceFilter (device : DeviceInfo) (filter : DeviceFilter) : Bool :=
  if !matchesFilterVidPid device.vendorId device.productId filter then false
  else if filter.usagePage.isNone && filter.usage.isNone then true
  else device.collections.any (matchesCollectionUsage filter)

def matchesDevice (device : DeviceInfo) (filter : EnumerateFilter) : Bool :=
  let included := filter.filters.isEmpty || filter.filters.any (matchesDeviceFilter device)
  let excluded := filter.exclusionFilters.any (matchesDeviceFilter device)
  included && !excluded

/-! ### Enumeration -/

abbrev GroupKey := UInt16 × UInt16 × String

/-- The two maps of the first loop. -/
structure Grouped where
  groups : HashMap GroupKey (List (String × HidDeviceInfo)) := ∅
  idPhysical : HashMap DeviceId (List String) := ∅

def groupKey (info : HidDeviceInfo) : GroupKey := (info.vendorId,info.productId,info.serialNumber.getD "")

/-- The bucket within a group: all of a device that has a serial number. -/
def bucketOf (host : Host) (info : HidDeviceInfo) : String :=
  if info.serialNumber.getD "" = "" then physicalIdentity host info else ""

def Grouped.push (host : Host) (acc : Grouped) (info : HidDeviceInfo) : Grouped where
  groups := acc.groups.insert (groupKey info) (((acc.groups.lookup (groupKey info)).getD []) ++ [(bucketOf host info,info)])
  idPhysical := acc.idPhysical.insert (makeDeviceId host info)
    (insertNew ((acc.idPhysical.lookup (makeDeviceId host info)).getD []) (physicalKey host info))

/-- The entry is not passed over in the first loop. -/
def considered (filter : Option EnumerateFilter) (info : HidDeviceInfo) : Bool :=
  (filter.map fun f => matchesVidPid info.vendorId info.productId f).getD true && !isBlockedPub info

def grouped (host : Host) (filter : Option EnumerateFilter) (entries : List HidDeviceInfo) : Grouped :=
  entries.foldl (fun acc info => if considered filter info then acc.push host info else acc) {}

/-- Distinct physical devices have been found under the identifier. -/
def collides (idPhysical : HashMap DeviceId (List String)) (id : DeviceId) : Bool :=
  ((idPhysical.lookup id).map fun keys => decide (1 < keys.length)).getD false

/-- The second loop over one group, with the entries that are listed. `seen` are the
    descriptors that have been met, each with its bucket. -/
def listedOf (host : Host) (api : HidApi) (idPhysical : HashMap DeviceId (List String)) (seen : List (String × Bytes)) :
    List (String × HidDeviceInfo) → List HidDeviceInfo
  | [] => []
  | (phys,info) :: rest =>
    let desc := api.rawReportDescriptor info.path
    if (phys,desc) ∈ seen then listedOf host api idPhysical seen rest
    else
      let d := infoFromHidapiPubWithDesc host info desc
      if isBlockedByVendorProduct d then listedOf host api idPhysical ((phys,desc) :: seen) rest
      else if collides idPhysical d.deviceId then listedOf host api idPhysical ((phys,desc) :: seen) rest
      else info :: listedOf host api idPhysical ((phys,desc) :: seen) rest

/-- The entries whose descriptions an enumeration returns. -/
def listedEntries (host : Host) (api : HidApi) (filter : Option EnumerateFilter) : List HidDeviceInfo :=
  let found := grouped host filter api.deviceList
  found.groups.entries.flatMap fun group => listedOf host api found.idPhysical [] group.2

def enumerateWithFilter (host : Host) (api : HidApi) (filter : Option EnumerateFilter) : List DeviceInfo :=
  (listedEntries host api filter).map (infoFromHidapiPub host api)

/-- `hid::enumerate`. -/
def enumerate (host : Host) (api : HidApi) : List DeviceInfo := enumerateWithFilter host api none

/-- `DeviceManager::enumerate_filtered`, once hidapi is there. -/
def enumerateFiltered (host : Host) (api : HidApi) (filter : Option EnumerateFilter) : List DeviceInfo :=
  let devices :=
    match filter with
    | some filter => enumerateWithFilter host api (some filter)
    | none => enumerate host api
  (devices.filterMap (pruneDeviceInfo host.lib)).filter fun device =>
    (filter.map fun filter => matchesDevice device filter).getD true

/-- The length of a short item's data. -/
def payloadLength (first : UInt8) : Nat :=
  match first.toNat % 4 with
  | 0 => 0
  | 1 => 1
  | 2 => 2
  | _ => 4

/-- The scan for a report identifier; each round passes at least one byte. -/
def scanNumbered : Nat → Bytes → Bool
  | 0,_ => false
  | _,[] => false
  | fuel + 1,first :: rest =>
    if first = 0xFE then
      match rest with
      | [] => false
      | size :: rest => scanNumbered fuel (rest.drop (1 + size.toNat))
    else if first &&& 0xFC = 0x84 then true
    else scanNumbered fuel (rest.drop (payloadLength first))

def usesNumberedReports (buf : Bytes) : Bool := scanNumbered buf.length buf

inductive OpenError where
  | ambiguous (deviceId : DeviceId) (count : Nat)
  | notFound (deviceId : DeviceId)
  | failed (text : String)
  deriving DecidableEq, Repr

/-- `{:#x}`. -/
def hex (n : Nat) : String := "0x" ++ String.ofList (Nat.toDigits 16 n)

def OpenError.text : OpenError → String
  | .ambiguous id count =>
    "device_id '" ++ hex id.toNat ++ "' is ambiguous (" ++ toString count ++
      " distinct physical devices hash to it); refusing to open"
  | .notFound id => "device_id '" ++ toString id.toNat ++ "' not found"
  | .failed text => text

/-- The entry that `open_by_device_id` opens. -/
def entryToOpen (host : Host) (api : HidApi) (id : DeviceId) : Except OpenError HidDeviceInfo :=
  let found := api.deviceList.filter fun info => !isBlockedPub info && makeDeviceId host info == id
  if 1 < distinctPhysicalCount host found then .error (.ambiguous id (distinctPhysicalCount host found))
  else
    match found.find? fun info => !isBlockedByVendorProduct (infoFromHidapiPub host api info) with
    | some info => .ok info
    | none => .error (.notFound id)

/-- `openPath` is what hidapi does with the path. -/
def openByDeviceId {δ : Type} (host : Host) (api : HidApi) (openPath : String → Except OpenError δ) (id : DeviceId) :
    Except OpenError (DeviceInfo × Bool × δ) :=
  (entryToOpen host api id).bind fun info =>
    (openPath info.path).map fun dev =>
      (infoFromHidapiPub host api info,usesNumberedReports (api.rawReportDescriptor info.path),dev)

variable {host : Host} {api : HidApi} {filter : Option EnumerateFilter} {info : HidDeviceInfo}
  {entries : List HidDeviceInfo}

theorem mem_insertNew {α : Type} [DecidableEq α] {seen : List α} {x y : α} :
    y ∈ insertNew seen x ↔ y = x ∨ y ∈ seen := by
  unfold insertNew
  split_ifs with old
  · exact ⟨.inr,fun either => either.elim (fun same => same ▸ old) id⟩
  · exact List.mem_cons

theorem nodup_insertNew {α : Type} [DecidableEq α] {seen : List α} (distinct : seen.Nodup) (x : α) :
    (insertNew seen x).Nodup := by
  unfold insertNew
  split_ifs with old
  · exact distinct
  · exact List.nodup_cons.mpr ⟨old,distinct⟩

/-- The distinct values that the entries have, by the loop that counts them. -/
theorem mem_foldl_insertNew {α β : Type} [DecidableEq β] (f : α → β) (xs : List α) (seen : List β) (y : β) :
    y ∈ xs.foldl (fun seen x => insertNew seen (f x)) seen ↔ y ∈ seen ∨ ∃ x ∈ xs, f x = y := by
  induction xs generalizing seen with
  | nil => simp
  | cons x xs ih =>
    rw [List.foldl_cons,ih,mem_insertNew]
    simp only [List.mem_cons,exists_eq_or_imp]
    constructor
    · rintro ((rfl | old) | later)
      · exact .inr (.inl rfl)
      · exact .inl old
      · exact .inr (.inr later)
    · rintro (old | rfl | later)
      · exact .inl (.inr old)
      · exact .inl (.inl rfl)
      · exact .inr later

theorem nodup_foldl_insertNew {α β : Type} [DecidableEq β] (f : α → β) (xs : List α) (seen : List β)
    (distinct : seen.Nodup) : (xs.foldl (fun seen x => insertNew seen (f x)) seen).Nodup := by
  induction xs generalizing seen with
  | nil => exact distinct
  | cons x xs ih => exact ih _ (nodup_insertNew distinct (f x))

/-- More than one device has been counted if and only if two entries have different keys. -/
theorem distinctPhysicalCount_iff :
    1 < distinctPhysicalCount host entries ↔
      ∃ a ∈ entries, ∃ b ∈ entries, physicalKey host a ≠ physicalKey host b := by
  have distinct := nodup_foldl_insertNew (physicalKey host) entries [] List.nodup_nil
  have found := mem_foldl_insertNew (physicalKey host) entries []
  unfold distinctPhysicalCount
  generalize entries.foldl (fun seen info => insertNew seen (physicalKey host info)) [] = keys at distinct found
  constructor
  · intro many
    match keys,many,distinct with
    | first :: second :: _,_,distinct =>
      obtain ⟨a,inA,rfl⟩ := ((found first).mp (by simp)).resolve_left (by simp)
      obtain ⟨b,inB,rfl⟩ := ((found second).mp (by simp)).resolve_left (by simp)
      exact ⟨a,inA,b,inB,fun same => by simp [same] at distinct⟩
  · rintro ⟨a,inA,b,inB,differ⟩
    have first := (found (physicalKey host a)).mpr (.inr ⟨a,inA,rfl⟩)
    have second := (found (physicalKey host b)).mpr (.inr ⟨b,inB,rfl⟩)
    match keys,first,second with
    | [only],first,second =>
      rw [List.mem_singleton] at first second
      exact absurd (first.trans second.symm) differ
    | _ :: _ :: _,_,_ => simp

/-- A group has the considered entries with its key, in their order. -/
theorem lookup_groups (k : GroupKey) :
    ((grouped host filter entries).groups.lookup k).getD [] =
      (entries.filter fun i => considered filter i && groupKey i == k).map fun i => (bucketOf host i,i) := by
  suffices general : ∀ acc : Grouped, ((entries.foldl (fun acc info =>
      if considered filter info then acc.push host info else acc) acc).groups.lookup k).getD [] =
      (acc.groups.lookup k).getD [] ++
        (entries.filter fun i => considered filter i && groupKey i == k).map fun i => (bucketOf host i,i) by
    exact general {}
  induction entries with
  | nil => simp
  | cons i rest ih =>
    intro acc
    rw [List.foldl_cons,ih,List.filter_cons]
    by_cases taken : considered filter i = true
    · simp only [taken,if_true,Bool.true_and,Grouped.push]
      by_cases same : groupKey i = k
      · subst same
        simp [AList.lookup_insert]
      · have other : k ≠ groupKey i := fun eq => same eq.symm
        simp [AList.lookup_insert_ne other,same]
    · simp [taken]

theorem groups_ne_nil (k : GroupKey) (ifaces : List (String × HidDeviceInfo))
    (found : (grouped host filter entries).groups.lookup k = some ifaces) :
    ifaces = (entries.filter fun i => considered filter i && groupKey i == k).map fun i => (bucketOf host i,i) := by
  have group := @lookup_groups host filter entries k
  rwa [found] at group

/-- An identifier has the keys of the considered entries with it. -/
theorem lookup_idPhysical (id : DeviceId) :
    ((grouped host filter entries).idPhysical.lookup id).getD [] =
      (entries.filter fun i => considered filter i && makeDeviceId host i == id).foldl
        (fun seen i => insertNew seen (physicalKey host i)) [] := by
  suffices general : ∀ acc : Grouped, ((entries.foldl (fun acc info =>
      if considered filter info then acc.push host info else acc) acc).idPhysical.lookup id).getD [] =
      (entries.filter fun i => considered filter i && makeDeviceId host i == id).foldl
        (fun seen i => insertNew seen (physicalKey host i)) ((acc.idPhysical.lookup id).getD []) by
    exact general {}
  induction entries with
  | nil => simp
  | cons i rest ih =>
    intro acc
    rw [List.foldl_cons,ih,List.filter_cons]
    by_cases taken : considered filter i = true
    · simp only [taken,if_true,Bool.true_and,Grouped.push]
      by_cases same : makeDeviceId host i = id
      · subst same
        simp [AList.lookup_insert]
      · have other : id ≠ makeDeviceId host i := fun eq => same eq.symm
        simp [AList.lookup_insert_ne other,same]
    · simp [taken]

/-- The considered entries with the identifier. -/
def sharing (host : Host) (filter : Option EnumerateFilter) (entries : List HidDeviceInfo) (id : DeviceId) :
    List HidDeviceInfo := entries.filter fun i => considered filter i && makeDeviceId host i == id

theorem collides_iff (id : DeviceId) : collides (grouped host filter entries).idPhysical id = true ↔
    1 < distinctPhysicalCount host (sharing host filter entries id) := by
  have keys := @lookup_idPhysical host filter entries id
  unfold collides distinctPhysicalCount sharing
  rw [← keys]
  cases (grouped host filter entries).idPhysical.lookup id <;> simp

/-- What must differ between two entries for both to be listed. -/
def signature (host : Host) (api : HidApi) (info : HidDeviceInfo) : GroupKey × String × Bytes :=
  (groupKey info,bucketOf host info,api.rawReportDescriptor info.path)

/-- The entry passes the checks of the second loop. -/
def listable (host : Host) (api : HidApi) (idPhysical : HashMap DeviceId (List String)) (info : HidDeviceInfo) : Bool :=
  !isBlockedByVendorProduct (infoFromHidapiPub host api info) && !collides idPhysical (makeDeviceId host info)

theorem mem_listedOf_cons {idPhysical : HashMap DeviceId (List String)} (seen : List (String × Bytes))
    (e : HidDeviceInfo) (rest : List (String × HidDeviceInfo))
    (fresh : (bucketOf host e,api.rawReportDescriptor e.path) ∉ seen) :
    info ∈ listedOf host api idPhysical seen ((bucketOf host e,e) :: rest) ↔
      info = e ∧ listable host api idPhysical e = true ∨
        info ∈ listedOf host api idPhysical ((bucketOf host e,api.rawReportDescriptor e.path) :: seen) rest := by
  have id : (infoFromHidapiPub host api e).deviceId = makeDeviceId host e := rfl
  rw [listedOf]
  simp only [if_neg fresh,listable,Bool.and_eq_true,Bool.not_eq_true']
  show info ∈ (if isBlockedByVendorProduct (infoFromHidapiPub host api e) = true then _ else if
    collides idPhysical (infoFromHidapiPub host api e).deviceId = true then _ else _) ↔ _
  rw [id]
  split_ifs with blocked collided
  · simp [blocked]
  · simp [collided]
  · simp [blocked,collided]

/-- An entry is listed if it is the first of its bucket with its descriptor, and passes
    the checks. -/
theorem mem_listedOf {idPhysical : HashMap DeviceId (List String)} (seen : List (String × Bytes))
    (entries : List HidDeviceInfo) (info : HidDeviceInfo) :
    info ∈ listedOf host api idPhysical seen (entries.map fun i => (bucketOf host i,i)) ↔
      (bucketOf host info,api.rawReportDescriptor info.path) ∉ seen ∧
      entries.find? (fun i => (bucketOf host i,api.rawReportDescriptor i.path) =
        (bucketOf host info,api.rawReportDescriptor info.path)) = some info ∧
      listable host api idPhysical info = true := by
  induction entries generalizing seen with
  | nil => simp [listedOf]
  | cons e rest ih =>
    rw [List.map_cons,List.find?_cons]
    by_cases met : (bucketOf host e,api.rawReportDescriptor e.path) ∈ seen
    · rw [listedOf]
      simp only [if_pos met]
      rw [ih]
      refine and_congr_right fun unseen => ?_
      have differs : (bucketOf host e,api.rawReportDescriptor e.path) ≠
          (bucketOf host info,api.rawReportDescriptor info.path) := fun same => unseen (same ▸ met)
      rw [decide_eq_false differs]
    · rw [mem_listedOf_cons seen e _ met,ih,List.mem_cons,not_or]
      by_cases same : (bucketOf host e,api.rawReportDescriptor e.path) =
          (bucketOf host info,api.rawReportDescriptor info.path)
      · rw [decide_eq_true same]
        rw [same] at met
        constructor
        · rintro (⟨rfl,fine⟩ | ⟨⟨differs,_⟩,_⟩)
          · exact ⟨met,rfl,fine⟩
          · exact absurd same.symm differs
        · rintro ⟨_,first,fine⟩
          obtain rfl := Option.some.inj first
          exact .inl ⟨rfl,fine⟩
      · rw [decide_eq_false same]
        constructor
        · rintro (⟨rfl,_⟩ | ⟨⟨_,unseen⟩,first,fine⟩)
          · exact absurd rfl same
          · exact ⟨unseen,first,fine⟩
        · rintro ⟨unseen,first,fine⟩
          exact .inr ⟨⟨fun eq => same eq.symm,unseen⟩,first,fine⟩

/-- The entries of a group. -/
theorem mem_group {k : GroupKey} {idPhysical : HashMap DeviceId (List String)} {ifaces : List (String × HidDeviceInfo)}
    (found : (grouped host filter entries).groups.lookup k = some ifaces) :
    info ∈ listedOf host api idPhysical [] ifaces ↔ groupKey info = k ∧
      entries.find? (fun i => considered filter i && decide (signature host api i = signature host api info)) =
        some info ∧ listable host api idPhysical info = true := by
  rw [groups_ne_nil k ifaces found,mem_listedOf]
  have alike (same : groupKey info = k) :
      (entries.filter fun i => considered filter i && groupKey i == k).find? (fun i =>
        (bucketOf host i,api.rawReportDescriptor i.path) = (bucketOf host info,api.rawReportDescriptor info.path)) =
      entries.find? fun i => considered filter i && decide (signature host api i = signature host api info) := by
    rw [List.find?_filter]
    congr 1
    funext i
    rw [Bool.eq_iff_iff]
    simp only [Bool.and_eq_true,beq_iff_eq,decide_eq_true_eq,signature,Prod.mk.injEq,same,and_assoc]
  constructor
  · rintro ⟨_,first,fine⟩
    have inside := List.mem_of_find?_eq_some first
    rw [List.mem_filter,Bool.and_eq_true,beq_iff_eq] at inside
    rw [alike inside.2.2] at first
    exact ⟨inside.2.2,first,fine⟩
  · rintro ⟨same,first,fine⟩
    rw [alike same]
    exact ⟨by simp,first,fine⟩

/-- An enumeration lists the first considered entry of each signature, if it passes the
    checks. -/
theorem mem_listedEntries : info ∈ listedEntries host api filter ↔
    api.deviceList.find? (fun i => considered filter i && decide (signature host api i = signature host api info)) =
      some info ∧ listable host api (grouped host filter api.deviceList).idPhysical info = true := by
  unfold listedEntries
  rw [List.mem_flatMap]
  constructor
  · rintro ⟨⟨k,ifaces⟩,member,inside⟩
    exact ((mem_group (lookup_eq_some.mpr member)).mp inside).2
  · rintro ⟨first,fine⟩
    have holds := List.find?_some first
    rw [Bool.and_eq_true] at holds
    have group := @lookup_groups host filter api.deviceList (groupKey info)
    cases found : (grouped host filter api.deviceList).groups.lookup (groupKey info) with
    | none =>
      rw [found] at group
      have inside : info ∈ api.deviceList.filter fun i => considered filter i && groupKey i == groupKey info :=
        List.mem_filter.mpr ⟨List.mem_of_find?_eq_some first,by simp [holds.1]⟩
      rw [List.map_eq_nil_iff.mp group.symm] at inside
      cases inside
    | some ifaces => exact ⟨⟨_,ifaces⟩,lookup_eq_some.mp found,(mem_group found).mpr ⟨rfl,first,fine⟩⟩

theorem nodup_listedOf {idPhysical : HashMap DeviceId (List String)} (seen : List (String × Bytes))
    (entries : List HidDeviceInfo) :
    ((listedOf host api idPhysical seen (entries.map fun i => (bucketOf host i,i))).map (signature host api)).Nodup := by
  induction entries generalizing seen with
  | nil => simp [listedOf]
  | cons e rest ih =>
    rw [List.map_cons,listedOf]
    dsimp only
    split_ifs
    · exact ih _
    · exact ih _
    · exact ih _
    · refine List.nodup_cons.mpr ⟨fun member => ?_,ih _⟩
      obtain ⟨x,inside,same⟩ := List.mem_map.mp member
      have unseen := ((mem_listedOf _ rest x).mp inside).1
      simp only [signature,Prod.mk.injEq] at same
      exact unseen (by simp [same.2.1,same.2.2])

theorem nodup_listedEntries : ((listedEntries host api filter).map (signature host api)).Nodup := by
  unfold listedEntries
  rw [List.map_flatMap,List.nodup_flatMap]
  constructor
  · rintro ⟨k,ifaces⟩ member
    dsimp only
    rw [groups_ne_nil k ifaces (lookup_eq_some.mpr member)]
    exact nodup_listedOf [] _
  · refine List.Pairwise.imp_of_mem ?_ (List.nodupKeys_iff_pairwise.mp (grouped host filter api.deviceList).groups.nodupKeys)
    rintro ⟨k,ifaces⟩ ⟨k',ifaces'⟩ member member' ne x first second
    obtain ⟨a,inA,rfl⟩ := List.mem_map.mp first
    obtain ⟨b,inB,same⟩ := List.mem_map.mp second
    have keyA := ((mem_group (lookup_eq_some.mpr member)).mp inA).1
    have keyB := ((mem_group (lookup_eq_some.mpr member')).mp inB).1
    simp only [signature,Prod.mk.injEq] at same
    exact ne (keyA.symm.trans (same.1.symm.trans keyB))

end FFWebHid.HidDevices
