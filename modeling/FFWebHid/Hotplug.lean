import FFWebHid.Maps
import FFWebHid.Runs
import FFWebHid.HidDevices

/-!
The hot-plug monitor on Linux. It keeps one description for each device identifier and one
identifier for each node, and turns the events of udev into connect and disconnect events.
An add is announced whatever is known, and a remove takes the device away with the node
that it names.
-/
namespace FFWebHid.Hotplug
open FFWebHid.Maps FFWebHid.Runs FFWebHid.Types FFWebHid.HidDevices FFWebHid.ReportBlocking

/-- `DEVICE_CACHE` and `DEVNODE_TO_ID`. -/
structure Caches where
  cache : HashMap DeviceId DeviceInfo := ∅
  devnodeToId : HashMap String DeviceId := ∅

/-- The description that an entry of the list is announced with, if it is not hidden. -/
def seeded (host : Host) (api : HidApi) (info : HidDeviceInfo) : Option DeviceInfo :=
  if isBlockedPub info then none
  else
    let d := infoFromHidapiPub host api info
    if isBlockedByVendorProduct d then none else pruneDeviceInfo host.lib d

/-- `none` when hidapi does not start. -/
def seedUdevCache (host : Host) : Option HidApi → Caches
  | none => {}
  | some api =>
    api.deviceList.foldl (fun (caches : Caches) info =>
      match seeded host api info with
      | none => caches
      | some d =>
        { cache := caches.cache.insert d.deviceId d, devnodeToId := caches.devnodeToId.insert info.path d.deviceId }) {}

/-- What an event says, with what hidapi finds when it is handled. -/
inductive EventType where
  | add (api : Option HidApi)
  | remove
  | other

structure UdevEvent where
  devnode : Option String
  eventType : EventType

/-- The description of an added node, if there is one and it is not hidden. -/
def resolve (host : Host) (api : Option HidApi) (devnode : String) : Option DeviceInfo :=
  (api.bind fun api => infoByRawPath host api devnode).bind (pruneDeviceInfo host.lib)

def handleUdevEvent (host : Host) (caches : Caches) (event : UdevEvent) : Caches × Option IpcResponse :=
  match event.devnode with
  | none => (caches,none)
  | some devnode =>
    match event.eventType with
    | .add api =>
      match resolve host api devnode with
      | none => (caches,none)
      | some info =>
        ({ cache := caches.cache.insert info.deviceId info
           devnodeToId := caches.devnodeToId.insert devnode info.deviceId },some (.deviceConnected info))
    | .remove =>
      let left : Caches := { caches with devnodeToId := caches.devnodeToId.erase devnode }
      match caches.devnodeToId.lookup devnode with
      | none => (left,none)
      | some id =>
        match caches.cache.lookup id with
        | none => (left,none)
        | some info => ({ left with cache := caches.cache.erase id },some (.deviceDisconnected info))
    | .other => (caches,none)

/-- The caches, beside what they stand for: the identifiers that the present nodes resolve
    to, without the hidden ones, and the devices that have been announced and not taken
    back. -/
structure World where
  caches : Caches
  present : HashMap String DeviceId := ∅
  announced : List DeviceId := []

/-- The nodes that are there when the caches are seeded. -/
def presentAtStart (host : Host) : Option HidApi → HashMap String DeviceId
  | none => ∅
  | some api =>
    api.deviceList.foldl (fun present info =>
      if (seeded host api info).isSome then present.insert info.path (makeDeviceId host info) else present) ∅

def start (host : Host) (api : Option HidApi) : World where
  caches := seedUdevCache host api
  present := presentAtStart host api
  announced := (seedUdevCache host api).cache.keys

/-- What an event does to the node itself. -/
def UdevEvent.move (host : Host) (event : UdevEvent) (present : HashMap String DeviceId) : HashMap String DeviceId :=
  match event.devnode,event.eventType with
  | some devnode,.add api =>
    match resolve host api devnode with
    | some info => present.insert devnode info.deviceId
    | none => present.erase devnode
  | some devnode,.remove => present.erase devnode
  | _,_ => present

def announce (announced : List DeviceId) : Option IpcResponse → List DeviceId
  | some (.deviceConnected info) => info.deviceId :: announced
  | some (.deviceDisconnected info) => announced.filter (· ≠ info.deviceId)
  | _ => announced

def step (host : Host) (w : World) (event : UdevEvent) : Option World :=
  let handled := handleUdevEvent host w.caches event
  some ⟨handled.1,event.move host w.present,announce w.announced handled.2⟩

/-- A device is connected if a present node resolves to it. -/
def Faithful (w : World) : Prop := ∀ id, id ∈ w.announced ↔ ∃ devnode, w.present.lookup devnode = some id

/-- A connect is for a device that is not connected, and a disconnect for one that is. -/
def Alternates (host : Host) (w : World) (event : UdevEvent) : Prop :=
  match (handleUdevEvent host w.caches event).2 with
  | some (.deviceConnected info) => info.deviceId ∉ w.announced
  | some (.deviceDisconnected info) => info.deviceId ∈ w.announced
  | _ => True

/-- Another present node resolves to the device. -/
def Elsewhere (w : World) (devnode : String) (id : DeviceId) : Prop :=
  ∃ other, other ≠ devnode ∧ w.present.lookup other = some id

/-- An added node is the first of its device, and the device that it was of, if any, has
    another node; a removed node is the last of the device that it was recorded for. -/
def Orderly (host : Host) (w : World) (event : UdevEvent) : Prop :=
  match event.devnode,event.eventType with
  | some devnode,.add api =>
    (∀ info, resolve host api devnode = some info → ∀ other, w.present.lookup other ≠ some info.deviceId) ∧
      ∀ id, w.present.lookup devnode = some id → Elsewhere w devnode id
  | some devnode,.remove => ∀ id, w.caches.devnodeToId.lookup devnode = some id → ¬ Elsewhere w devnode id
  | _,_ => True

/-! ### The invariant -/

variable {host : Host} {api : HidApi} {info : HidDeviceInfo} {d d' : DeviceInfo} {w w' : World} {event : UdevEvent}

/-- The caches are what has been announced, and a present node is recorded with its device. -/
structure Kept (w : World) : Prop where
  cached : ∀ id, id ∈ w.announced ↔ ∃ info, w.caches.cache.lookup id = some info
  named : ∀ id info, w.caches.cache.lookup id = some info → info.deviceId = id
  recorded : ∀ devnode id, w.present.lookup devnode = some id → w.caches.devnodeToId.lookup devnode = some id
  faithful : Faithful w

theorem pruned_deviceId {lib : Descriptor.Externals} (pruned : pruneDeviceInfo lib d = some d') : d'.deviceId = d.deviceId := by
  unfold pruneDeviceInfo at pruned
  dsimp only at pruned
  split_ifs at pruned
  split at pruned
  · cases pruned
  · obtain rfl := Option.some.inj pruned
    rfl

theorem seeded_deviceId (shown : seeded host api info = some d) : d.deviceId = makeDeviceId host info := by
  unfold seeded at shown
  dsimp only at shown
  split_ifs at shown
  exact pruned_deviceId shown

/-- The identifier that a path has, whatever its entry. -/
def pathId (host : Host) (path : String) : DeviceId :=
  match host.resolveLinuxSyspath path with
  | some syspath => host.hashDeviceId syspath
  | none => host.hashDeviceId path

/-- What holds while the caches are seeded. -/
structure Seeding (host : Host) (caches : Caches) (present : HashMap String DeviceId) : Prop where
  named : ∀ id info, caches.cache.lookup id = some info → info.deviceId = id
  recorded : ∀ devnode, caches.devnodeToId.lookup devnode = present.lookup devnode
  hashed : ∀ devnode id, present.lookup devnode = some id → id = pathId host devnode
  faithful : ∀ id, (∃ info, caches.cache.lookup id = some info) ↔ ∃ devnode, present.lookup devnode = some id

theorem Seeding.insert {caches : Caches} {present : HashMap String DeviceId} (ok : Seeding host caches present)
    (path : String) (same : d.deviceId = pathId host path) :
    Seeding host ⟨caches.cache.insert d.deviceId d,caches.devnodeToId.insert path d.deviceId⟩
      (present.insert path d.deviceId) where
  named id info found := by
    rw [lookup_insert_eq] at found
    split_ifs at found with equal
    · obtain rfl := Option.some.inj found
      exact equal.symm
    · exact ok.named id info found
  recorded devnode := by
    rw [lookup_insert_eq,lookup_insert_eq,ok.recorded]
  hashed devnode id found := by
    rw [lookup_insert_eq] at found
    split_ifs at found with equal
    · rw [equal,← Option.some.inj found,same]
    · exact ok.hashed devnode id found
  faithful id := by
    simp only [lookup_insert_eq]
    constructor
    · rintro ⟨info,found⟩
      split_ifs at found with equal
      · exact ⟨path,by rw [if_pos rfl,equal]⟩
      · obtain ⟨devnode,there⟩ := (ok.faithful id).mp ⟨info,found⟩
        refine ⟨devnode,?_⟩
        split_ifs with again
        · rw [ok.hashed devnode id there,again,same]
        · exact there
    · rintro ⟨devnode,there⟩
      by_cases equal : id = d.deviceId
      · exact ⟨d,by rw [if_pos equal]⟩
      · rw [if_neg equal]
        split_ifs at there with again
        · exact absurd (Option.some.inj there).symm equal
        · exact (ok.faithful id).mpr ⟨devnode,there⟩

theorem seeding (host : Host) (api : Option HidApi) : Seeding host (seedUdevCache host api) (presentAtStart host api) := by
  have empty : Seeding host {} ∅ :=
    { named := fun _ _ found => by simp at found
      recorded := fun _ => rfl
      hashed := fun _ _ found => by simp at found
      faithful := fun _ => by simp }
  cases api with
  | none => exact empty
  | some api =>
    unfold seedUdevCache presentAtStart
    dsimp only
    revert empty
    generalize ({} : Caches) = caches
    generalize (∅ : HashMap String DeviceId) = present
    intro sofar
    induction api.deviceList generalizing caches present with
    | nil => exact sofar
    | cons info rest ih =>
      rw [List.foldl_cons,List.foldl_cons]
      apply ih
      cases shown : seeded host api info with
      | none => exact sofar
      | some d =>
        have same := seeded_deviceId shown
        have inserted := sofar.insert info.path same
        simp only [Option.isSome_some,if_true]
        rwa [← same]

theorem Kept.start (host : Host) (api : Option HidApi) : Kept (start host api) where
  cached _ := mem_keys_iff_lookup
  named := (seeding host api).named
  recorded devnode _ found := ((seeding host api).recorded devnode).trans found
  faithful _ := mem_keys_iff_lookup.trans ((seeding host api).faithful _)

/-- What an event can do. -/
inductive Moves (host : Host) (w : World) : UdevEvent → World → Prop
  | skipped (type : EventType) : Moves host w ⟨none,type⟩ w
  | otherEvent (devnode : String) : Moves host w ⟨some devnode,.other⟩ w
  | hidden (devnode : String) (api : Option HidApi) (unresolved : resolve host api devnode = none) :
      Moves host w ⟨some devnode,.add api⟩ ⟨w.caches,w.present.erase devnode,w.announced⟩
  | connected (devnode : String) (api : Option HidApi) (info : DeviceInfo) (resolved : resolve host api devnode = some info) :
      Moves host w ⟨some devnode,.add api⟩
        ⟨⟨w.caches.cache.insert info.deviceId info,w.caches.devnodeToId.insert devnode info.deviceId⟩,
          w.present.insert devnode info.deviceId,info.deviceId :: w.announced⟩
  | unknown (devnode : String)
      (unheard : ∀ id, w.caches.devnodeToId.lookup devnode = some id → w.caches.cache.lookup id = none)
      (quiet : (handleUdevEvent host w.caches ⟨some devnode,.remove⟩).2 = none) :
      Moves host w ⟨some devnode,.remove⟩
        ⟨⟨w.caches.cache,w.caches.devnodeToId.erase devnode⟩,w.present.erase devnode,w.announced⟩
  | disconnected (devnode : String) (id : DeviceId) (info : DeviceInfo)
      (recorded : w.caches.devnodeToId.lookup devnode = some id) (cached : w.caches.cache.lookup id = some info) :
      Moves host w ⟨some devnode,.remove⟩
        ⟨⟨w.caches.cache.erase id,w.caches.devnodeToId.erase devnode⟩,w.present.erase devnode,
          w.announced.filter (· ≠ info.deviceId)⟩

theorem step_moves (taken : step host w event = some w') : Moves host w event w' := by
  obtain rfl := Option.some.inj taken
  rcases event with ⟨_ | devnode,type⟩
  · exact .skipped type
  cases type with
  | other => exact .otherEvent devnode
  | add api =>
    cases resolved : resolve host api devnode with
    | none => simpa only [handleUdevEvent,UdevEvent.move,resolved,announce] using .hidden devnode api resolved
    | some info => simpa only [handleUdevEvent,UdevEvent.move,resolved,announce] using .connected devnode api info resolved
  | remove =>
    cases recorded : w.caches.devnodeToId.lookup devnode with
    | none =>
      have quiet : Moves host w _ _ := Moves.unknown devnode (fun id found => by rw [recorded] at found; cases found)
        (by simp only [handleUdevEvent,recorded])
      simpa only [handleUdevEvent,UdevEvent.move,recorded,announce] using quiet
    | some id =>
      cases cached : w.caches.cache.lookup id with
      | none =>
        have unheard : ∀ other, w.caches.devnodeToId.lookup devnode = some other → w.caches.cache.lookup other = none := by
          intro other found
          rw [← Option.some.inj (recorded.symm.trans found),cached]
        have quiet : Moves host w _ _ := Moves.unknown devnode unheard (by simp only [handleUdevEvent,recorded,cached])
        simpa only [handleUdevEvent,UdevEvent.move,recorded,cached,announce] using quiet
      | some info =>
        simpa only [handleUdevEvent,UdevEvent.move,recorded,cached,announce] using
          .disconnected devnode id info recorded cached

/-- The caches stay what has been announced. -/
theorem Kept.next (kept : Kept w) (taken : step host w event = some w') (faithful : Faithful w') : Kept w' := by
  cases step_moves taken with
  | skipped | otherEvent => exact kept
  | hidden devnode =>
    refine ⟨kept.cached,kept.named,?_,faithful⟩
    intro node id there
    rw [lookup_erase_eq] at there
    split_ifs at there
    exact kept.recorded node id there
  | connected devnode api info =>
    refine ⟨?_,?_,?_,faithful⟩
    · intro id
      simp only [List.mem_cons,kept.cached,lookup_insert_eq]
      by_cases same : id = info.deviceId <;> simp [same]
    · intro id known found
      simp only [lookup_insert_eq] at found
      split_ifs at found with same
      · rw [same,← Option.some.inj found]
      · exact kept.named id known found
    · intro node id there
      simp only [lookup_insert_eq] at there ⊢
      split_ifs at there ⊢
      · exact there
      · exact kept.recorded node id there
  | unknown devnode =>
    refine ⟨kept.cached,kept.named,?_,faithful⟩
    intro node id there
    simp only [lookup_erase_eq] at there ⊢
    split_ifs at there ⊢
    exact kept.recorded node id there
  | disconnected devnode gone info recorded cached =>
    refine ⟨?_,?_,?_,faithful⟩
    · intro id
      simp only [List.mem_filter,kept.cached,lookup_erase_eq,kept.named gone info cached]
      by_cases same : id = gone <;> simp [same]
    · intro id known found
      simp only [lookup_erase_eq] at found
      split_ifs at found
      exact kept.named id known found
    · intro node id there
      simp only [lookup_erase_eq] at there ⊢
      split_ifs at there ⊢
      exact kept.recorded node id there

theorem elsewhere_iff {devnode : String} {id : DeviceId} :
    Elsewhere w devnode id ↔ ∃ node, (w.present.erase devnode).lookup node = some id := by
  simp only [Elsewhere,lookup_erase_eq]
  constructor
  · rintro ⟨other,different,there⟩
    exact ⟨other,by rwa [if_neg different]⟩
  · rintro ⟨node,there⟩
    split_ifs at there with same
    exact ⟨node,same,there⟩

/-- A device of another node is the device of a node. -/
theorem present_iff {devnode : String} {id : DeviceId} (of_other : w.present.lookup devnode ≠ some id) :
    (∃ node, w.present.lookup node = some id) ↔ Elsewhere w devnode id := by
  constructor
  · rintro ⟨node,there⟩
    exact ⟨node,fun same => of_other (same ▸ there),there⟩
  · rintro ⟨node,_,there⟩
    exact ⟨node,there⟩

/-- A node can be left out if its device has another. -/
theorem present_iff_elsewhere (devnode : String) (id : DeviceId) :
    ((∃ node, w.present.lookup node = some id) ↔ Elsewhere w devnode id) ↔
      (w.present.lookup devnode = some id → Elsewhere w devnode id) := by
  constructor
  · exact fun same there => same.mp ⟨devnode,there⟩
  · intro other
    by_cases there : w.present.lookup devnode = some id
    · exact ⟨fun _ => other there,fun _ => ⟨devnode,there⟩⟩
    · exact present_iff there

/-- With the caches as they should be, an event does the right thing exactly if it is orderly. -/
theorem Kept.orderly_iff (kept : Kept w) (taken : step host w event = some w') :
    Alternates host w event ∧ Faithful w' ↔ Orderly host w event := by
  have known (id : DeviceId) : id ∈ w.announced ↔ ∃ node, w.present.lookup node = some id := kept.faithful id
  cases step_moves taken with
  | skipped | otherEvent => exact ⟨fun _ => trivial,fun _ => ⟨trivial,kept.faithful⟩⟩
  | hidden devnode api unresolved =>
    simp only [Alternates,handleUdevEvent,Orderly,unresolved,true_and,Faithful,known,← elsewhere_iff,present_iff_elsewhere]
    simp
  | connected devnode api info resolved =>
    have added (id : DeviceId) : (∃ node, (w.present.insert devnode info.deviceId).lookup node = some id) ↔
        id = info.deviceId ∨ Elsewhere w devnode id := by
      simp only [lookup_insert_eq]
      constructor
      · rintro ⟨node,there⟩
        split_ifs at there with same
        · exact Or.inl (Option.some.inj there).symm
        · exact Or.inr ⟨node,same,there⟩
      · rintro (rfl | ⟨other,different,there⟩)
        · exact ⟨devnode,if_pos rfl⟩
        · exact ⟨other,by rwa [if_neg different]⟩
    simp only [Alternates,handleUdevEvent,Orderly,resolved,Faithful,Option.some.injEq,forall_eq',added,List.mem_cons,
      known,not_exists,ne_eq]
    apply and_congr_right
    intro none_there
    apply forall_congr'
    intro id
    rw [← present_iff_elsewhere]
    by_cases same : id = info.deviceId
    · subst same
      have absent : ¬ ∃ node, w.present.lookup node = some info.deviceId := fun ⟨node,there⟩ => none_there node there
      have nowhere : ¬ Elsewhere w devnode info.deviceId := fun ⟨other,_,there⟩ => none_there other there
      simp only [true_or,absent,nowhere]
    · simp only [same,false_or]
  | unknown devnode unheard quiet =>
    have unseen (id : DeviceId) : w.present.lookup devnode ≠ some id := by
      intro there
      obtain ⟨info,cached⟩ := (kept.cached id).mp ((known id).mpr ⟨devnode,there⟩)
      rw [unheard id (kept.recorded devnode id there)] at cached
      cases cached
    simp only [Alternates,quiet,Orderly,true_and,Faithful,known,← elsewhere_iff,present_iff (unseen _),implies_true,
      true_iff]
    intro id recorded elsewhere
    obtain ⟨info,cached⟩ := (kept.cached id).mp ((known id).mpr ((present_iff (unseen id)).mpr elsewhere))
    rw [unheard id recorded] at cached
    cases cached
  | disconnected devnode gone info recorded cached =>
    have same := kept.named gone info cached
    have told : gone ∈ w.announced := (kept.cached gone).mpr ⟨info,cached⟩
    have of_other (id : DeviceId) (different : id ≠ gone) : w.present.lookup devnode ≠ some id := by
      intro there
      exact different (Option.some.inj ((kept.recorded devnode id there).symm.trans recorded))
    simp only [Alternates,handleUdevEvent,Orderly,recorded,cached,same,told,true_and,Faithful,← elsewhere_iff,
      Option.some.injEq,forall_eq',List.mem_filter,known]
    constructor
    · intro faithful elsewhere
      simpa using ((faithful gone).mpr elsewhere).2
    · intro last id
      by_cases equal : id = gone
      · subst equal
        simp [last]
      · simp [equal,present_iff (of_other id equal)]

/-- The seeded caches agree with the nodes that are there. On a run, the events of each
    device alternate and a device is connected exactly while a node resolves to it, if
    and only if every event is orderly. -/
theorem alternates_iff (host : Host) (api : Option HidApi) (trace : List UdevEvent) :
    Faithful (start host api) ∧
      (AllSteps (step host) (fun w event w' => Alternates host w event ∧ Faithful w') (start host api) trace ↔
        AllSteps (step host) (fun w event _ => Orderly host w event) (start host api) trace) := by
  have kept := Kept.start host api
  refine ⟨kept.faithful,?_,?_⟩
  · apply allSteps_under (I := Kept) _ _ kept
    · exact fun w event w' kept taken right => kept.next taken right.2
    · exact fun w event w' kept taken => (kept.orderly_iff taken).mp
  · apply allSteps_under (I := Kept) _ _ kept
    · exact fun w event w' kept taken orderly => kept.next taken ((kept.orderly_iff taken).mpr orderly).2
    · exact fun w event w' kept taken => (kept.orderly_iff taken).mpr

/-- A device with a collection of one byte, whose nodes have one parent. -/
def twoNodes : Host where
  resolveLinuxSyspath _ := some "/sys/devices/usb1/1-1"
  hashDeviceId _ := 7
  lib :=
    { tryFrom := fun _ => some ⟨[⟨none,[.variable
        { bitsStart := 0
          bitsEnd := 8
          collections := [⟨0,1,[⟨0xff00,1⟩]⟩]
          logicalMinimum := 0
          logicalMaximum := 1
          usage := ⟨0xff00,2⟩ }]⟩],[],[]⟩
      sha256Hex := fun _ => "" }

def twoInterfaces : HidApi where
  deviceList := [⟨⟨"/dev/hidraw0",⟨0,0x046d,0xc216,none,none,none⟩⟩,0xff00,1⟩,
    ⟨⟨"/dev/hidraw1",⟨0,0x046d,0xc216,none,none,none⟩⟩,0xff00,1⟩]
  rawReportDescriptor _ := [1]
  onePath := by decide

/-- A node of the device goes, and the device is disconnected while the other is there. -/
theorem node_takes_device : ¬ ∀ host api trace, Faithful (start host api) ∧
    AllSteps (step host) (fun w event w' => Alternates host w event ∧ Faithful w') (start host api) trace := by
  intro always
  obtain ⟨w,taken,facts⟩ := Option.map_eq_some_iff.mp (by decide :
    (step twoNodes (start twoNodes (some twoInterfaces)) ⟨some "/dev/hidraw0",.remove⟩).map
      (fun w => (w.announced,w.present.lookup "/dev/hidraw1")) = some ([],some 7))
  obtain ⟨gone,there⟩ := Prod.mk.inj facts
  have right := ((always twoNodes (some twoInterfaces) [⟨some "/dev/hidraw0",.remove⟩]).2 w taken).1
  have connected := (right.2 7).mpr ⟨"/dev/hidraw1",there⟩
  rw [gone] at connected
  cases connected

end FFWebHid.Hotplug
