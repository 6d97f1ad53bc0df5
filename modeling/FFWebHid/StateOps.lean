import FFWebHid.Maps

/-!
The ownership bookkeeping of the background page, `state_ops.js` over the maps of
`state.js`. The nested maps of the source (`deviceId -> Map<token, owner>` and so on)
are maps with a pair as key. A device id of 0 and an empty token or origin are the
falsy values of the source. The counter of retries that is only logged is left out.
-/
namespace FFWebHid.StateOps
open FFWebHid.Maps

abbrev TabId := Nat
abbrev DeviceId := Nat
abbrev Origin := String
abbrev Token := String

/-- The key that a bridge gives to one document of one of its frames,
    `bridgeInstanceId + '/frame-' + generation`. -/
structure FrameKey where
  bridgeInstanceId : String
  generation : Nat
  deriving DecidableEq, Repr

/-- The value of `deviceSessions`. Owners are compared by reference: `ref` is the
    identity of the object. -/
structure Owner where
  tabId : TabId
  origin : Origin
  frameKey : FrameKey
  bridgeInstanceId : String
  clientKey : String
  ref : Nat
  deriving DecidableEq, Repr

/-- `bgState`: the opens of each device in each tab, the owner of each session,
    the uses of each frame (0 when retired) and the sessions left to close. -/
structure BgState where
  deviceTabMap : HashMap (DeviceId × TabId) Nat := ∅
  deviceSessions : HashMap (DeviceId × Token) Owner := ∅
  frameLifetimes : HashMap (TabId × FrameKey) Nat := ∅
  orphanCleanup : HashMap Token DeviceId := ∅

/-- `response.s` of a close that proves the session is no longer live. -/
def isCleanupConfirmed (status : Nat) : Bool := (200 ≤ status && status < 300) || status == 404

namespace BgState
variable (s : BgState)

/-- `none` when this generation was already retired. -/
def registerFrameLifetime (tabId : TabId) (frameKey : FrameKey) : Option BgState :=
  match s.frameLifetimes.lookup (tabId,frameKey) with
  | some 0 => none
  | uses => some { s with frameLifetimes := s.frameLifetimes.insert (tabId,frameKey) (uses.getD 0 + 1) }

def isFrameLifetimeActive (tabId : TabId) (frameKey : FrameKey) : Bool :=
  (s.frameLifetimes.lookup (tabId,frameKey)).any fun uses => 0 < uses

def retireFrameLifetime (tabId : TabId) (frameKey : FrameKey) : BgState :=
  { s with frameLifetimes := s.frameLifetimes.insert (tabId,frameKey) 0 }

/-- The first loop of `purgeBridge`: every known frame whose key starts with the
    bridge's prefix. -/
def retireBridgeFrames (tabId : TabId) (bridgeInstanceId : String) : BgState :=
  { s with frameLifetimes := mapValues s.frameLifetimes fun key uses =>
      if key.1 = tabId ∧ key.2.bridgeInstanceId = bridgeInstanceId then 0 else uses }

/-- `frameLifetimes.delete(tabId)` of `purgeTab`. -/
def forgetTabFrames (tabId : TabId) : BgState :=
  { s with frameLifetimes := retain s.frameLifetimes fun key _ => key.1 != tabId }

/-- The recorded opens of a device in a tab. -/
def opens (deviceId : DeviceId) (tabId : TabId) : Nat := (s.deviceTabMap.lookup (deviceId,tabId)).getD 0

def registerDeviceTab (deviceId : DeviceId) (tabId : TabId) : BgState :=
  { s with deviceTabMap :=
      if deviceId = 0 then s.deviceTabMap
      else s.deviceTabMap.insert (deviceId,tabId) (s.opens deviceId tabId + 1) }

def unregisterDeviceTab (deviceId : DeviceId) (tabId : TabId) : BgState :=
  { s with deviceTabMap :=
      let remaining := s.opens deviceId tabId - 1
      if deviceId = 0 then s.deviceTabMap
      else if 0 < remaining then s.deviceTabMap.insert (deviceId,tabId) remaining
      else s.deviceTabMap.erase (deviceId,tabId) }

/-- `tabs.delete(tabId)` of `purgeTab`, on every device. -/
def forgetTabDevices (tabId : TabId) : BgState :=
  { s with deviceTabMap := retain s.deviceTabMap fun key _ => key.2 != tabId }

def isTabAuthorizedForDevice (tabId : TabId) (deviceId : DeviceId) : Bool :=
  0 < s.opens deviceId tabId

/-- `none` when the registration is refused. -/
def registerDeviceSession (deviceId : DeviceId) (token : Token) (owner : Owner) : Option BgState :=
  if deviceId = 0 ∨ token = "" ∨ owner.origin = "" then none
  else
    let register (s : BgState) := { s with deviceSessions := s.deviceSessions.insert (deviceId,token) owner }
    if s.isFrameLifetimeActive owner.tabId owner.frameKey then some (register s)
    else (s.registerFrameLifetime owner.tabId owner.frameKey).map register

def unregisterDeviceSession (deviceId : DeviceId) (token : Token) : BgState :=
  { s with deviceSessions := s.deviceSessions.erase (deviceId,token) }

/-- The registered sessions whose owner passes a test, as the `collect` functions
    and the loop of `purgeBridge` gather them. -/
def collectDeviceSessions (test : DeviceId → Owner → Bool) : List (DeviceId × Token) :=
  (retain s.deviceSessions fun key owner => test key.1 owner).keys

def collectDeviceSessionsForOrigin (deviceId : DeviceId) (origin : Origin) : List (DeviceId × Token) :=
  s.collectDeviceSessions fun d owner => d == deviceId && owner.origin == origin

def collectDeviceSessionsForTab (tabId : TabId) : List (DeviceId × Token) :=
  s.collectDeviceSessions fun _ owner => owner.tabId == tabId

def collectDeviceSessionsForFrame (tabId : TabId) (frameKey : FrameKey) : List (DeviceId × Token) :=
  s.collectDeviceSessions fun _ owner => owner.tabId == tabId && owner.frameKey == frameKey

def collectDeviceSessionsForBridge (tabId : TabId) (bridgeInstanceId : String) : List (DeviceId × Token) :=
  s.collectDeviceSessions fun _ owner => owner.tabId == tabId && owner.bridgeInstanceId == bridgeInstanceId

/-- `getDeviceSessionOwner` and the `unregisterDeviceTab` for the owner it returns. -/
def unregisterOwnerTab (deviceId : DeviceId) (token : Token) : BgState :=
  match s.deviceSessions.lookup (deviceId,token) with
  | some owner => s.unregisterDeviceTab deviceId owner.tabId
  | none => s

def isSessionOwnedBy (deviceId : DeviceId) (token : Token) (origin : Origin) (tabId : TabId) (frameKey : FrameKey)
    (clientKey : String) : Bool :=
  (s.deviceSessions.lookup (deviceId,token)).any fun owner =>
    owner.origin == origin && owner.tabId == tabId && owner.frameKey == frameKey && owner.clientKey == clientKey

/-- Drop the session when its owner is still the one seen before the close was sent. -/
def dropOwned (deviceId : DeviceId) (token : Token) (expectedOwner : Option Owner) : BgState :=
  { s with deviceSessions :=
      if expectedOwner.isSome ∧ s.deviceSessions.lookup (deviceId,token) = expectedOwner then
        (s.unregisterDeviceSession deviceId token).deviceSessions
      else s.deviceSessions }

def retainOrphanCleanup (deviceId : DeviceId) (token : Token) (expectedOwner : Option Owner) : BgState :=
  let dropped := s.dropOwned deviceId token expectedOwner
  { dropped with orphanCleanup :=
      if token ∈ dropped.orphanCleanup then dropped.orphanCleanup else dropped.orphanCleanup.insert token deviceId }

/-- The part of `closeForCleanup` after a confirmed close. -/
def confirmCleanup (deviceId : DeviceId) (token : Token) (ownerAtStart : Option Owner) : BgState :=
  let dropped := s.dropOwned deviceId token ownerAtStart
  { dropped with orphanCleanup := dropped.orphanCleanup.erase token }

def clearAuthorityOwnership (_ : BgState) : BgState := {}

def clearDeviceOwnership (deviceId : DeviceId) : BgState :=
  { s with
    deviceTabMap := retain s.deviceTabMap fun key _ => key.1 != deviceId
    deviceSessions := retain s.deviceSessions fun key _ => key.1 != deviceId
    orphanCleanup := retain s.orphanCleanup fun _ entry => entry != deviceId }

end BgState

/-! ### What the operations leave -/

section
variable {s : BgState} {d d' : DeviceId} {t : Token} {tab tab' : TabId} {frame frame' : FrameKey} {owner : Option Owner}

theorem opens_registerDeviceTab (nonzero : d ≠ 0) :
    (s.registerDeviceTab d tab).opens d' tab' = s.opens d' tab' + if d' = d ∧ tab' = tab then 1 else 0 := by
  simp only [BgState.opens,BgState.registerDeviceTab,if_neg nonzero,lookup_insert_eq,Prod.mk.injEq]
  by_cases same : d' = d ∧ tab' = tab
  · rw [if_pos same,if_pos same,same.1,same.2]; rfl
  · rw [if_neg same,if_neg same]; rfl

theorem opens_unregisterDeviceTab (nonzero : d ≠ 0) :
    (s.unregisterDeviceTab d tab).opens d' tab' = s.opens d' tab' - if d' = d ∧ tab' = tab then 1 else 0 := by
  have table : (s.unregisterDeviceTab d tab).deviceTabMap =
      if 0 < s.opens d tab - 1 then s.deviceTabMap.insert (d,tab) (s.opens d tab - 1)
      else s.deviceTabMap.erase (d,tab) := if_neg nonzero
  rw [BgState.opens,table]
  by_cases same : d' = d ∧ tab' = tab
  · obtain ⟨rfl,rfl⟩ := same
    rw [if_pos (⟨rfl,rfl⟩ : d' = d' ∧ tab' = tab')]
    by_cases left : 0 < s.opens d' tab' - 1
    · rw [if_pos left,lookup_insert_eq,if_pos rfl]; rfl
    · rw [if_neg left,lookup_erase_eq,if_pos rfl]; simp only [Option.getD_none]; omega
  · have other : ¬ (d',tab') = (d,tab) := fun pair => same (Prod.mk.inj pair)
    rw [if_neg same,Nat.sub_zero]
    split
    · rw [lookup_insert_eq,if_neg other]; rfl
    · rw [lookup_erase_eq,if_neg other]; rfl

theorem opens_unregisterDeviceTab_le : (s.unregisterDeviceTab d tab).opens d' tab' ≤ s.opens d' tab' := by
  by_cases zero : d = 0
  · subst zero; exact Nat.le_refl _
  · rw [opens_unregisterDeviceTab zero]; exact Nat.sub_le _ _

theorem opens_forgetTabDevices : (s.forgetTabDevices tab).opens d tab' = if tab' = tab then 0 else s.opens d tab' := by
  simp only [BgState.opens,BgState.forgetTabDevices,lookup_retain]
  by_cases same : tab' = tab
  · rw [if_pos same]
    cases s.deviceTabMap.lookup (d,tab') <;> simp [same]
  · rw [if_neg same]
    cases s.deviceTabMap.lookup (d,tab') <;> simp [Option.filter,same]

theorem opens_forgetTabDevices_le : (s.forgetTabDevices tab).opens d tab' ≤ s.opens d tab' := by
  rw [opens_forgetTabDevices]
  split_ifs
  · exact Nat.zero_le _
  · exact Nat.le_refl _

/-- A tab without opens of a device has no entry for it. -/
def BgState.NoZero (s : BgState) : Prop := ∀ key, s.deviceTabMap.lookup key ≠ some 0

theorem noZero_registerDeviceTab (noZero : s.NoZero) : (s.registerDeviceTab d tab).NoZero := by
  intro key
  simp only [BgState.registerDeviceTab]
  by_cases zero : d = 0
  · rw [if_pos zero]; exact noZero key
  · rw [if_neg zero,lookup_insert_eq]
    by_cases same : key = (d,tab)
    · rw [if_pos same]; simp
    · rw [if_neg same]; exact noZero key

theorem noZero_unregisterDeviceTab (noZero : s.NoZero) : (s.unregisterDeviceTab d tab).NoZero := by
  intro key
  simp only [BgState.unregisterDeviceTab]
  by_cases zero : d = 0
  · rw [if_pos zero]; exact noZero key
  · rw [if_neg zero]
    by_cases left : 0 < s.opens d tab - 1
    · rw [if_pos left,lookup_insert_eq]
      by_cases same : key = (d,tab)
      · rw [if_pos same]; simp only [ne_eq,Option.some.injEq]; omega
      · rw [if_neg same]; exact noZero key
    · rw [if_neg left,lookup_erase_eq]
      by_cases same : key = (d,tab)
      · rw [if_pos same]; simp
      · rw [if_neg same]; exact noZero key

theorem noZero_forgetTabDevices (noZero : s.NoZero) : (s.forgetTabDevices tab).NoZero := by
  intro key stored
  rw [BgState.forgetTabDevices,lookup_retain,Option.filter_eq_some_iff] at stored
  exact noZero key stored.1

theorem lookup_dropOwned (key : DeviceId × Token) :
    (s.dropOwned d t owner).deviceSessions.lookup key =
      if key = (d,t) ∧ owner.isSome ∧ s.deviceSessions.lookup (d,t) = owner then none
      else s.deviceSessions.lookup key := by
  simp only [BgState.dropOwned,BgState.unregisterDeviceSession]
  by_cases held : owner.isSome ∧ s.deviceSessions.lookup (d,t) = owner
  · rw [if_pos held,lookup_erase_eq]; simp only [held,and_true]
  · rw [if_neg held,if_neg fun both => held both.2]

theorem unregisterOwnerTab_cases :
    (∃ o, s.deviceSessions.lookup (d,t) = some o ∧ s.unregisterOwnerTab d t = s.unregisterDeviceTab d o.tabId) ∨
    s.deviceSessions.lookup (d,t) = none ∧ s.unregisterOwnerTab d t = s := by
  unfold BgState.unregisterOwnerTab
  cases s.deviceSessions.lookup (d,t) with
  | none => exact Or.inr ⟨rfl,rfl⟩
  | some o => exact Or.inl ⟨o,rfl,rfl⟩

theorem opens_unregisterOwnerTab_le : (s.unregisterOwnerTab d t).opens d' tab' ≤ s.opens d' tab' := by
  rcases unregisterOwnerTab_cases (s := s) (d := d) (t := t) with ⟨o,_,same⟩ | ⟨_,same⟩ <;> rw [same]
  exact opens_unregisterDeviceTab_le

theorem unregisterOwnerTab_sessions : (s.unregisterOwnerTab d t).deviceSessions = s.deviceSessions := by
  rcases unregisterOwnerTab_cases (s := s) (d := d) (t := t) with ⟨o,_,same⟩ | ⟨_,same⟩
  · rw [same]
    rfl
  · rw [same]

theorem unregisterOwnerTab_orphanCleanup : (s.unregisterOwnerTab d t).orphanCleanup = s.orphanCleanup := by
  rcases unregisterOwnerTab_cases (s := s) (d := d) (t := t) with ⟨o,_,same⟩ | ⟨_,same⟩
  · rw [same]
    rfl
  · rw [same]

theorem unregisterOwnerTab_frameLifetimes : (s.unregisterOwnerTab d t).frameLifetimes = s.frameLifetimes := by
  rcases unregisterOwnerTab_cases (s := s) (d := d) (t := t) with ⟨o,_,same⟩ | ⟨_,same⟩
  · rw [same]
    rfl
  · rw [same]

theorem noZero_unregisterOwnerTab (noZero : s.NoZero) : (s.unregisterOwnerTab d t).NoZero := by
  rcases unregisterOwnerTab_cases (s := s) (d := d) (t := t) with ⟨o,_,same⟩ | ⟨_,same⟩ <;> rw [same]
  · exact noZero_unregisterDeviceTab noZero
  · exact noZero

theorem mem_collectDeviceSessions {test : DeviceId → Owner → Bool} {key : DeviceId × Token} :
    key ∈ s.collectDeviceSessions test ↔ ∃ o, s.deviceSessions.lookup key = some o ∧ test key.1 o = true := by
  rw [BgState.collectDeviceSessions,mem_keys_iff_lookup]
  simp only [lookup_retain,Option.filter_eq_some_iff]

theorem mem_collectDeviceSessionsForOrigin {origin : Origin} {key : DeviceId × Token} :
    key ∈ s.collectDeviceSessionsForOrigin d origin ↔
      key.1 = d ∧ ∃ o, s.deviceSessions.lookup key = some o ∧ o.origin = origin := by
  simp only [BgState.collectDeviceSessionsForOrigin,mem_collectDeviceSessions,Bool.and_eq_true,beq_iff_eq]
  exact ⟨fun ⟨o,found,device,same⟩ => ⟨device,o,found,same⟩,fun ⟨device,o,found,same⟩ => ⟨o,found,device,same⟩⟩

theorem mem_collectDeviceSessionsForTab {key : DeviceId × Token} :
    key ∈ s.collectDeviceSessionsForTab tab ↔ ∃ o, s.deviceSessions.lookup key = some o ∧ o.tabId = tab := by
  simp only [BgState.collectDeviceSessionsForTab,mem_collectDeviceSessions,beq_iff_eq]

theorem mem_collectDeviceSessionsForFrame {key : DeviceId × Token} :
    key ∈ s.collectDeviceSessionsForFrame tab frame ↔
      ∃ o, s.deviceSessions.lookup key = some o ∧ o.tabId = tab ∧ o.frameKey = frame := by
  simp only [BgState.collectDeviceSessionsForFrame,mem_collectDeviceSessions,Bool.and_eq_true,beq_iff_eq]

theorem mem_collectDeviceSessionsForBridge {bridge : String} {key : DeviceId × Token} :
    key ∈ s.collectDeviceSessionsForBridge tab bridge ↔
      ∃ o, s.deviceSessions.lookup key = some o ∧ o.tabId = tab ∧ o.bridgeInstanceId = bridge := by
  simp only [BgState.collectDeviceSessionsForBridge,mem_collectDeviceSessions,Bool.and_eq_true,beq_iff_eq]

theorem collectDeviceSessions_nodup (test : DeviceId → Owner → Bool) : (s.collectDeviceSessions test).Nodup :=
  (retain s.deviceSessions fun key owner => test key.1 owner).keys_nodup

theorem isFrameLifetimeActive_iff :
    s.isFrameLifetimeActive tab frame = true ↔ ∃ uses, s.frameLifetimes.lookup (tab,frame) = some uses ∧ 0 < uses := by
  simp [BgState.isFrameLifetimeActive,Option.any_eq_true]

end
end FFWebHid.StateOps
