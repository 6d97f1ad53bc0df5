import FFWebHid.HidDevices

/-!
What a device identifier stands for. The daemon takes an identifier as the name of one
node: it lists one description for it, and opens the node that this description is of.
An identifier is the hash of a path from which the last parts may be gone, and two devices
under one identifier are told apart by a key that is their serial number, if there is one.
-/
namespace FFWebHid.DeviceIds
open FFWebHid.Types FFWebHid.HidDevices
open FFWebHid.NativeMessages (EnumerateFilter)

variable {host : Host} {api : HidApi} {id : DeviceId} {info a b : HidDeviceInfo}

/-- Two nodes have the identifier that are of different devices, or have different report
    descriptors. -/
def Ambiguous (host : Host) (api : HidApi) (id : DeviceId) : Prop :=
  ∃ a ∈ api.deviceList, ∃ b ∈ api.deviceList, makeDeviceId host a = id ∧ makeDeviceId host b = id ∧ a.node ≠ b.node ∧
    (a.node.device ≠ b.node.device ∨ api.rawReportDescriptor a.path ≠ api.rawReportDescriptor b.path)

/-- The daemon would use the entry: no list blocks it. -/
def usable (host : Host) (api : HidApi) (info : HidDeviceInfo) : Bool :=
  !isBlockedPub info && !isBlockedByVendorProduct (infoFromHidapiPub host api info)

/-- One description for an identifier; none, and no way to open it, for an ambiguous one;
    and what is opened for a listed one is the node of the description. -/
structure Authoritative (host : Host) (api : HidApi) : Prop where
  single : ((enumerate host api).map DeviceInfo.deviceId).Nodup
  hidden : ∀ id, Ambiguous host api id → id ∉ (enumerate host api).map DeviceInfo.deviceId
  refused : ∀ id, Ambiguous host api id → ∀ {δ : Type} (openPath : String → Except OpenError δ) opened,
    openByDeviceId host api openPath id ≠ .ok opened
  opens : ∀ info ∈ listedEntries host api none, ∀ {δ : Type} (openPath : String → Except OpenError δ),
    openByDeviceId host api openPath (makeDeviceId host info) =
      (openPath info.path).map fun dev =>
        (infoFromHidapiPub host api info,usesNumberedReports (api.rawReportDescriptor info.path),dev)

/-- Where an identifier is ambiguous and an entry could be used, two entries that are not
    blocked have different keys. -/
def Distinguished (host : Host) (api : HidApi) : Prop :=
  ∀ id, Ambiguous host api id → (∃ info ∈ api.deviceList, makeDeviceId host info = id ∧ usable host api info = true) →
    ∃ a ∈ api.deviceList, ∃ b ∈ api.deviceList, isBlockedPub a = false ∧ isBlockedPub b = false ∧
      makeDeviceId host a = id ∧ makeDeviceId host b = id ∧ physicalKey host a ≠ physicalKey host b

theorem mem_sharing : info ∈ sharing host none api.deviceList id ↔
    info ∈ api.deviceList ∧ isBlockedPub info = false ∧ makeDeviceId host info = id := by
  simp [sharing,considered]

/-- The entries that `open_by_device_id` chooses from are those that an enumeration counts. -/
theorem entryToOpen_eq : entryToOpen host api id =
    if 1 < distinctPhysicalCount host (sharing host none api.deviceList id) then
      .error (.ambiguous id (distinctPhysicalCount host (sharing host none api.deviceList id)))
    else
      match (sharing host none api.deviceList id).find? fun info =>
        !isBlockedByVendorProduct (infoFromHidapiPub host api info) with
      | some info => .ok info
      | none => .error (.notFound id) := by
  have same : (api.deviceList.filter fun info => !isBlockedPub info && makeDeviceId host info == id) =
      sharing host none api.deviceList id := by simp [sharing,considered]
  refine same ▸ ?_
  rfl

/-- An identifier that no two entries with different keys share. -/
def Unshared (host : Host) (api : HidApi) (id : DeviceId) : Prop :=
  ¬ 1 < distinctPhysicalCount host (sharing host none api.deviceList id)

theorem Unshared.key (one : Unshared host api id) (inA : a ∈ sharing host none api.deviceList id)
    (inB : b ∈ sharing host none api.deviceList id) : physicalKey host a = physicalKey host b := by
  by_contra differ
  exact one (distinctPhysicalCount_iff.mpr ⟨a,inA,b,inB,differ⟩)

/-- Entries of one device with one descriptor have one signature when their keys agree. -/
theorem signature_eq (device : a.node.device = b.node.device)
    (descriptor : api.rawReportDescriptor a.path = api.rawReportDescriptor b.path)
    (key : physicalKey host a = physicalKey host b) : signature host api a = signature host api b := by
  have serial : a.serialNumber = b.serialNumber := congrArg PhysicalDevice.serialNumber device
  have group : groupKey a = groupKey b := by
    unfold groupKey HidDeviceInfo.vendorId HidDeviceInfo.productId
    rw [device,serial]
  have bucket : bucketOf host a = bucketOf host b := by
    unfold physicalKey at key
    unfold bucketOf
    dsimp only at key
    rw [serial] at key ⊢
    split_ifs at key ⊢
    · exact key
    · rfl
  unfold signature
  rw [group,bucket,descriptor]

theorem listed_facts (listed : info ∈ listedEntries host api none) :
    info ∈ sharing host none api.deviceList (makeDeviceId host info) ∧ usable host api info = true ∧
      Unshared host api (makeDeviceId host info) := by
  obtain ⟨first,fine⟩ := mem_listedEntries.mp listed
  have holds := List.find?_some first
  have inside := List.mem_of_find?_eq_some first
  unfold listable at fine
  simp only [Bool.and_eq_true,Bool.not_eq_true'] at fine holds
  have unblocked : isBlockedPub info = false := by simpa [considered] using holds.1
  refine ⟨mem_sharing.mpr ⟨inside,unblocked,rfl⟩,?_,?_⟩
  · simp [usable,unblocked,fine.1]
  · intro many
    rw [(collides_iff _).mpr many] at fine
    cases fine.2

/-- Under an identifier that is not ambiguous, entries with one key have one signature. -/
theorem same_signature (clear : ¬ Ambiguous host api id) (one : Unshared host api id)
    (inA : a ∈ sharing host none api.deviceList id) (inB : b ∈ sharing host none api.deviceList id) :
    signature host api a = signature host api b := by
  obtain ⟨memberA,_,idA⟩ := mem_sharing.mp inA
  obtain ⟨memberB,_,idB⟩ := mem_sharing.mp inB
  by_cases node : a.node = b.node
  · exact signature_eq (congrArg HidNode.device node)
      (congrArg api.rawReportDescriptor (congrArg HidNode.path node)) (one.key inA inB)
  · have alike : ¬ (a.node.device ≠ b.node.device ∨ api.rawReportDescriptor a.path ≠ api.rawReportDescriptor b.path) :=
      fun differ => clear ⟨a,memberA,b,memberB,idA,idB,node,differ⟩
    rw [not_or,not_not,not_not] at alike
    exact signature_eq alike.1 alike.2 (one.key inA inB)

/-- The first of the wider kind is the first of the narrower one, if it is of it. -/
theorem find?_of_imp {α : Type} {p q : α → Bool} {xs : List α} {x : α} (first : xs.find? p = some x) (fine : q x = true)
    (implies : ∀ y ∈ xs, q y = true → p y = true) : xs.find? q = some x := by
  induction xs with
  | nil => cases first
  | cons y ys ih =>
    rw [List.find?_cons] at first ⊢
    cases matched : p y with
    | true =>
      rw [matched] at first
      obtain rfl := Option.some.inj first
      rw [fine]
    | false =>
      rw [matched] at first
      have other : q y = false := Bool.eq_false_iff.mpr fun holds => by
        rw [implies y List.mem_cons_self holds] at matched
        cases matched
      rw [other]
      exact ih first fun z member => implies z (List.mem_cons_of_mem y member)

theorem entryToOpen_listed (clear : ¬ Ambiguous host api (makeDeviceId host info))
    (listed : info ∈ listedEntries host api none) : entryToOpen host api (makeDeviceId host info) = .ok info := by
  obtain ⟨inside,usable,one⟩ := listed_facts listed
  obtain ⟨first,_⟩ := mem_listedEntries.mp listed
  have unblocked : isBlockedByVendorProduct (infoFromHidapiPub host api info) = false := by
    unfold DeviceIds.usable at usable
    rw [Bool.and_eq_true,Bool.not_eq_true'] at usable
    simpa using usable.2
  have found : (sharing host none api.deviceList (makeDeviceId host info)).find? (fun info =>
      !isBlockedByVendorProduct (infoFromHidapiPub host api info)) = some info := by
    unfold sharing
    rw [List.find?_filter]
    obtain ⟨_,open_,same⟩ := mem_sharing.mp inside
    refine find?_of_imp first (by simp [considered,open_,unblocked]) fun other member holds => ?_
    simp only [Bool.and_eq_true,beq_iff_eq,decide_eq_true_eq] at holds
    have shares : other ∈ sharing host none api.deviceList (makeDeviceId host info) :=
      List.mem_filter.mpr ⟨member,by rw [holds.1.1,holds.1.2]; simp⟩
    rw [holds.1.1,Bool.true_and,decide_eq_true_eq]
    exact same_signature clear one shares inside
  rw [entryToOpen_eq,if_neg one,found]

theorem entryToOpen_ok (chosen : entryToOpen host api id = .ok info) :
    Unshared host api id ∧ info ∈ sharing host none api.deviceList id ∧ usable host api info = true := by
  rw [entryToOpen_eq] at chosen
  split_ifs at chosen with one
  split at chosen
  next opened found =>
    obtain rfl := Except.ok.inj chosen
    have inside := List.mem_of_find?_eq_some found
    refine ⟨one,inside,?_⟩
    have passes := List.find?_some found
    simp only [Bool.not_eq_true'] at passes
    simp [usable,passes,(mem_sharing.mp inside).2.1]
  next => cases chosen

/-- Identifiers name one node if and only if the keys tell an ambiguous one, wherever the
    daemon could use it. -/
theorem authoritative_iff (host : Host) (api : HidApi) : Authoritative host api ↔ Distinguished host api := by
  constructor
  · rintro ⟨_,_,refused,_⟩ id ambiguous ⟨info,member,same,usable⟩
    unfold DeviceIds.usable at usable
    rw [Bool.and_eq_true,Bool.not_eq_true',Bool.not_eq_true'] at usable
    by_contra alike
    have one : Unshared host api id := fun many => by
      obtain ⟨a,inA,b,inB,differ⟩ := distinctPhysicalCount_iff.mp many
      obtain ⟨memberA,openA,idA⟩ := mem_sharing.mp inA
      obtain ⟨memberB,openB,idB⟩ := mem_sharing.mp inB
      exact alike ⟨a,memberA,b,memberB,openA,openB,idA,idB,differ⟩
    have chosen : ∃ opened, entryToOpen host api id = .ok opened := by
      rw [entryToOpen_eq,if_neg one]
      cases found : (sharing host none api.deviceList id).find? fun info =>
          !isBlockedByVendorProduct (infoFromHidapiPub host api info) with
      | some opened => exact ⟨opened,rfl⟩
      | none =>
        have passed := List.find?_eq_none.mp found info (mem_sharing.mpr ⟨member,usable.1,same⟩)
        rw [usable.2] at passed
        exact absurd rfl passed
    obtain ⟨opened,chosen⟩ := chosen
    have opens : ∃ result, openByDeviceId host api (fun _ => .ok ()) id = .ok result := by
      unfold openByDeviceId
      rw [chosen]
      exact ⟨_,rfl⟩
    obtain ⟨result,opens⟩ := opens
    exact refused id ambiguous _ result opens
  · intro told
    have clear {info : HidDeviceInfo} (listed : info ∈ listedEntries host api none) :
        ¬ Ambiguous host api (makeDeviceId host info) := by
      intro ambiguous
      obtain ⟨inside,usable,one⟩ := listed_facts listed
      obtain ⟨member,_,_⟩ := mem_sharing.mp inside
      obtain ⟨a,memberA,b,memberB,openA,openB,idA,idB,differ⟩ := told _ ambiguous ⟨info,member,rfl,usable⟩
      exact differ (one.key (mem_sharing.mpr ⟨memberA,openA,idA⟩) (mem_sharing.mpr ⟨memberB,openB,idB⟩))
    refine ⟨?_,fun id ambiguous listed => ?_,fun id ambiguous δ openPath opened done => ?_,fun info listed δ openPath => ?_⟩
    · show (((listedEntries host api none).map (infoFromHidapiPub host api)).map DeviceInfo.deviceId).Nodup
      rw [List.map_map]
      refine (List.Nodup.of_map (signature host api) nodup_listedEntries).map_on fun a inA b inB same => ?_
      have same : makeDeviceId host a = makeDeviceId host b := same
      have signatures : signature host api a = signature host api b :=
        same_signature (clear inB) (listed_facts inB).2.2 (same ▸ (listed_facts inA).1) (listed_facts inB).1
      exact List.inj_on_of_nodup_map nodup_listedEntries inA inB signatures
    · obtain ⟨d,inside,rfl⟩ := List.mem_map.mp listed
      obtain ⟨info,present,rfl⟩ := List.mem_map.mp inside
      exact clear present ambiguous
    · have chosen : ∃ info, entryToOpen host api id = .ok info := by
        unfold openByDeviceId at done
        cases chosen : entryToOpen host api id with
        | ok info => exact ⟨info,rfl⟩
        | error e =>
          rw [chosen] at done
          cases done
      obtain ⟨info,chosen⟩ := chosen
      obtain ⟨one,inside,usable⟩ := entryToOpen_ok chosen
      obtain ⟨member,_,same⟩ := mem_sharing.mp inside
      obtain ⟨a,memberA,b,memberB,openA,openB,idA,idB,differ⟩ := told id ambiguous ⟨info,member,same,usable⟩
      exact differ (one.key (mem_sharing.mpr ⟨memberA,openA,idA⟩) (mem_sharing.mpr ⟨memberB,openB,idB⟩))
    · unfold openByDeviceId
      rw [entryToOpen_listed (clear listed) listed]
      rfl

/-- A mouse and a keyboard without serial numbers, behind one receiver. -/
def receiverHost : Host where
  resolveLinuxSyspath _ := some "/sys/devices/usb1/1-1/1-1:1.2/0003:046D:C52B.0003"
  hashDeviceId _ := 7
  lib := ⟨fun _ => none,fun _ => ""⟩

def receiverApi : HidApi where
  deviceList := [⟨⟨"/dev/hidraw1",⟨0,0x046d,0x4024,none,none,none⟩⟩,0xff00,1⟩,
    ⟨⟨"/dev/hidraw2",⟨1,0x046d,0x1017,none,none,none⟩⟩,0xff00,1⟩]
  rawReportDescriptor path := if path = "/dev/hidraw1" then [1] else [2]
  onePath := by decide

/-- Both are listed under one identifier. -/
theorem receiver_is_ambiguous : ¬ ∀ host api, Authoritative host api := by
  intro all
  have twice : (enumerate receiverHost receiverApi).map DeviceInfo.deviceId = [7,7] := by decide
  have single := (all receiverHost receiverApi).single
  rw [twice] at single
  exact absurd single (by decide)

end FFWebHid.DeviceIds
