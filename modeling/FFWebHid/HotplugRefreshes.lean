import FFWebHid.Maps
import FFWebHid.Runs
import FFWebHid.HidDevices
import FFWebHid.Hotplug

/-! The hot-plug monitor on Windows and macOS, where a notice only says that something changed: the monitor enumerates
again and announces the difference to what it knew. -/

namespace FFWebHid.HotplugRefreshes
open FFWebHid.Maps FFWebHid.Runs FFWebHid.Types FFWebHid.HidDevices FFWebHid.ReportBlocking

abbrev Cache := HashMap DeviceId DeviceInfo

/-- The order in which a hash map is gone through. -/
structure Order (α : Type) where
  arrange : List α → List α
  perm : ∀ xs, (arrange xs).Perm xs

/-- The devices of an enumeration that are not hidden. -/
def visible (host : Host) (api : HidApi) : List DeviceInfo := (enumerate host api).filterMap (pruneDeviceInfo host.lib)

def pairs (cache : Cache) : List (DeviceId × DeviceInfo) := cache.entries.map (fun e => (e.1,e.2))

def insertAll (devices : List (DeviceId × DeviceInfo)) (cache : Cache) : Cache :=
  devices.foldl (fun cache e => cache.insert e.1 e.2) cache

/-- The devices under their identifiers. -/
def collect (devices : List DeviceInfo) : Cache := insertAll (devices.map (fun d => (d.deviceId,d))) ∅

/-- `refresh_and_diff` after an enumeration that did not fail. The cache is taken for the first time as an empty one. -/
def refreshAndDiff (arrive leave : Order (DeviceId × DeviceInfo)) (found : List DeviceInfo) (cache : Cache) :
    Cache × List IpcResponse :=
  let current := collect found
  let arrived := (arrive.arrange (pairs current)).filter (fun e => (cache.lookup e.1).isNone)
  let removed := (leave.arrange (pairs cache)).filter (fun e => (current.lookup e.1).isNone)
  let kept := retain cache (fun id _ => (current.lookup id).isSome)
  (insertAll (arrive.arrange (pairs current)) kept,
    arrived.map (fun e => .deviceConnected e.2) ++ removed.map (fun e => .deviceDisconnected e.2))

def dbtDeviceArrival : UInt32 := 0x8000
def dbtDeviceRemoveComplete : UInt32 := 0x8004

def shouldRefreshDeviceChange (wparam : UInt32) : Bool := wparam == dbtDeviceArrival || wparam == dbtDeviceRemoveComplete

inductive Platform where
  | windows
  | macos
  deriving DecidableEq,Repr

/-- What hidapi would list, the notices of the system that are on their way, the refreshes that were posted, and the
    monitor's cache; beside these what the cache was seeded with, the events, and whether a change was missed for good. -/
structure World where
  api : HidApi
  registered : Bool := false
  notices : List UInt32 := []
  posts : Nat := 0
  cache : Cache
  seeded : Cache
  events : List IpcResponse := []
  missed : Bool := false

/-- The cache before the monitor listens; an enumeration may fail. -/
def start (host : Host) (api : HidApi) (listed : Bool) : World where
  api := api
  cache := if listed then collect (visible host api) else ∅
  seeded := if listed then collect (visible host api) else ∅
  missed := !listed

def refresh (host : Host) (arrive leave : Order (DeviceId × DeviceInfo)) (listed : Bool) (w : World) : World :=
  if listed then
    let (cache,events) := refreshAndDiff arrive leave (visible host w.api) w.cache
    { w with cache := cache, events := w.events ++ events, missed := false }
  else { w with missed := true }

inductive Action where
  /-- Devices come or go, and the system sends a notice. -/
  | change (api : HidApi) (arrival : Bool)
  /-- A notice of something else. -/
  | notice (wparam : UInt32)
  /-- The monitor begins to listen. -/
  | register (arrive leave : Order (DeviceId × DeviceInfo)) (listed : Bool)
  /-- The window procedure takes a notice; posting the refresh may fail. -/
  | dispatch (posted : Bool)
  /-- The message loop takes a refresh that was posted. -/
  | process (arrive leave : Order (DeviceId × DeviceInfo)) (listed : Bool)
  /-- The callbacks of macOS. -/
  | callback (arrive leave : Order (DeviceId × DeviceInfo)) (listed : Bool)

def step (host : Host) (platform : Platform) (w : World) : Action → Option World
  | .change api arrival =>
    some (if w.registered then
      { w with api := api, notices := w.notices ++ [if arrival then dbtDeviceArrival else dbtDeviceRemoveComplete] }
    else { w with api := api, missed := true })
  | .notice wparam => if w.registered then some { w with notices := w.notices ++ [wparam] } else none
  | .register arrive leave listed =>
    if w.registered then none
    else
      match platform with
      | .windows => some (refresh host arrive leave listed { w with registered := true })
      | .macos => some { w with registered := true }
  | .dispatch posted =>
    match platform,w.notices with
    | .windows,wparam :: rest =>
      some (if shouldRefreshDeviceChange wparam then
        if posted then { w with notices := rest, posts := w.posts + 1 } else { w with notices := rest, missed := true }
      else { w with notices := rest })
    | _,_ => none
  | .process arrive leave listed =>
    match w.posts with
    | posts + 1 => some (refresh host arrive leave listed { w with posts := posts })
    | 0 => none
  | .callback arrive leave listed =>
    match platform,w.notices with
    | .macos,_ :: rest => some (refresh host arrive leave listed { w with notices := rest })
    | _,_ => none

def Reachable (host : Host) (platform : Platform) (w : World) : Prop :=
  ∃ api listed trace, exec (step host platform) (start host api listed) trace = some w

/-- The devices that are known after an event; a connect of a device that is known and a disconnect of one that is not
    are out of turn. -/
def tell (known : DeviceId → Bool) : IpcResponse → Option (DeviceId → Bool)
  | .deviceConnected d => if known d.deviceId then none else some (Function.update known d.deviceId true)
  | .deviceDisconnected d => if known d.deviceId then some (Function.update known d.deviceId false) else none
  | .inputReport _ _ _ => some known

def knownOf (cache : Cache) : DeviceId → Bool := fun id => (cache.lookup id).isSome

def hear (known : DeviceId → Bool) (events : List IpcResponse) : Option (DeviceId → Bool) := events.foldlM tell known

theorem hear_append {known middle : DeviceId → Bool} {first second : List IpcResponse}
    (heard : hear known first = some middle) : hear known (first ++ second) = hear middle second := by
  rw [hear,List.foldlM_append]
  rw [hear] at heard
  rw [heard]
  rfl

theorem mem_pairs {cache : Cache} {id : DeviceId} {d : DeviceInfo} : (id,d) ∈ pairs cache ↔ cache.lookup id = some d := by
  rw [lookup_eq_some,pairs,List.mem_map]
  constructor
  · rintro ⟨e,member,same⟩
    cases same
    exact member
  · intro member
    exact ⟨_,member,rfl⟩

theorem pairs_nodup (cache : Cache) : ((pairs cache).map Prod.fst).Nodup := by
  rw [pairs,List.map_map]
  exact cache.nodupKeys

/-- Descriptions stand under their own identifiers. -/
def Keyed (devices : List (DeviceId × DeviceInfo)) : Prop := ∀ e ∈ devices, e.2.deviceId = e.1

theorem known_insertAll (devices : List (DeviceId × DeviceInfo)) (cache : Cache) (id : DeviceId) :
    knownOf (insertAll devices cache) id = true ↔ knownOf cache id = true ∨ id ∈ devices.map Prod.fst := by
  have all := foldl_iff (fun cache (e : DeviceId × DeviceInfo) => cache.insert e.1 e.2)
      (fun cache => knownOf cache id = true)
    (fun e => e.1 = id) (by
      intro cache e
      rw [knownOf,lookup_insert_eq]
      by_cases here : id = e.1
      · simp [here]
      · simp [knownOf,here,Ne.symm here]) devices cache
  rw [insertAll,all]
  simp

theorem lookup_insertAll_of_not_mem {devices : List (DeviceId × DeviceInfo)} {cache : Cache} {id : DeviceId}
    (absent : id ∉ devices.map Prod.fst) : (insertAll devices cache).lookup id = cache.lookup id := by
  induction devices generalizing cache with
  | nil => rfl
  | cons e devices ih =>
    rw [List.map_cons,List.mem_cons,not_or] at absent
    rw [insertAll,List.foldl_cons]
    exact (ih absent.2).trans (by rw [lookup_insert_eq,if_neg absent.1])

theorem lookup_insertAll_of_mem {devices : List (DeviceId × DeviceInfo)} {cache : Cache} {id : DeviceId} {d : DeviceInfo}
    (distinct : (devices.map Prod.fst).Nodup) (member : (id,d) ∈ devices) :
    (insertAll devices cache).lookup id = some d := by
  induction devices generalizing cache with
  | nil => cases member
  | cons e devices ih =>
    rw [List.map_cons,List.nodup_cons] at distinct
    rcases List.mem_cons.mp member with rfl | later
    · rw [insertAll,List.foldl_cons]
      exact (lookup_insertAll_of_not_mem distinct.1).trans (by rw [lookup_insert_eq,if_pos rfl])
    · exact ih distinct.2 later

theorem all_insertAll {P : DeviceId × DeviceInfo → Prop} {devices : List (DeviceId × DeviceInfo)} {cache : Cache}
    (new : ∀ e ∈ devices, P e) (old : ∀ e ∈ pairs cache, P e) : ∀ e ∈ pairs (insertAll devices cache), P e := by
  induction devices generalizing cache with
  | nil => exact old
  | cons e devices ih =>
    apply ih (fun e' member => new e' (List.mem_cons_of_mem _ member))
    rintro ⟨id,d⟩ member
    rw [mem_pairs,lookup_insert_eq] at member
    split at member
    · next here =>
      cases member
      rw [here]
      exact new e List.mem_cons_self
    · exact old (id,d) (mem_pairs.mpr member)

theorem all_collect {P : DeviceId × DeviceInfo → Prop} {found : List DeviceInfo} (all : ∀ d ∈ found, P (d.deviceId,d)) :
    ∀ e ∈ pairs (collect found), P e := by
  apply all_insertAll
  · intro e member
    obtain ⟨d,there,rfl⟩ := List.mem_map.mp member
    exact all d there
  · rintro ⟨id,d⟩ member
    rw [mem_pairs,lookup_empty] at member
    cases member

theorem known_collect (found : List DeviceInfo) (id : DeviceId) :
    knownOf (collect found) id = true ↔ ∃ d ∈ found, d.deviceId = id := by
  rw [collect,known_insertAll,knownOf,lookup_empty]
  simp

theorem hear_cons {known next : DeviceId → Bool} {event : IpcResponse} {events : List IpcResponse}
    (heard : tell known event = some next) : hear known (event :: events) = hear next events := by
  rw [hear,List.foldlM_cons,heard]
  rfl

theorem hear_connects {devices : List (DeviceId × DeviceInfo)} (keyed : Keyed devices)
    (distinct : (devices.map Prod.fst).Nodup) {known : DeviceId → Bool} (fresh : ∀ e ∈ devices, known e.1 = false) :
    hear known (devices.map (fun e => .deviceConnected e.2)) =
      some (fun id => known id || decide (id ∈ devices.map Prod.fst)) := by
  induction devices generalizing known with
  | nil => simp [hear]
  | cons e devices ih =>
    simp only [List.map_cons,List.nodup_cons] at distinct
    have own := keyed e List.mem_cons_self
    have told : tell known (.deviceConnected e.2) = some (Function.update known e.1 true) := by
      rw [tell,own,fresh e List.mem_cons_self]
      rfl
    rw [List.map_cons,hear_cons told,ih (fun e' member => keyed e' (List.mem_cons_of_mem _ member)) distinct.2]
    · congr 1
      funext id
      by_cases here : id = e.1
      · simp [here]
      · rw [Function.update_of_ne here]
        congr 1
        simp only [List.map_cons,List.mem_cons,here,false_or]
    · intro e' member
      have other : e'.1 ≠ e.1 := by
        intro same
        exact distinct.1 (List.mem_map.mpr ⟨e',member,same⟩)
      rw [Function.update_of_ne other]
      exact fresh e' (List.mem_cons_of_mem _ member)

theorem hear_disconnects {devices : List (DeviceId × DeviceInfo)} (keyed : Keyed devices)
    (distinct : (devices.map Prod.fst).Nodup) {known : DeviceId → Bool} (present : ∀ e ∈ devices, known e.1 = true) :
    hear known (devices.map (fun e => .deviceDisconnected e.2)) =
      some (fun id => known id && !decide (id ∈ devices.map Prod.fst)) := by
  induction devices generalizing known with
  | nil => simp [hear]
  | cons e devices ih =>
    simp only [List.map_cons,List.nodup_cons] at distinct
    have own := keyed e List.mem_cons_self
    have told : tell known (.deviceDisconnected e.2) = some (Function.update known e.1 false) := by
      rw [tell,own,present e List.mem_cons_self]
      rfl
    rw [List.map_cons,hear_cons told,ih (fun e' member => keyed e' (List.mem_cons_of_mem _ member)) distinct.2]
    · congr 1
      funext id
      by_cases here : id = e.1
      · simp [here]
      · rw [Function.update_of_ne here]
        congr 2
        simp only [List.map_cons,List.mem_cons,here,false_or]
    · intro e' member
      have other : e'.1 ≠ e.1 := by
        intro same
        exact distinct.1 (List.mem_map.mpr ⟨e',member,same⟩)
      rw [Function.update_of_ne other]
      exact present e' (List.mem_cons_of_mem _ member)

theorem mem_lacking (order : Order (DeviceId × DeviceInfo)) (cache other : Cache) (id : DeviceId) :
    id ∈ ((order.arrange (pairs cache)).filter (fun e => (other.lookup e.1).isNone)).map Prod.fst ↔
      knownOf cache id = true ∧ knownOf other id = false := by
  rw [List.mem_map]
  constructor
  · rintro ⟨⟨k,d⟩,member,rfl⟩
    obtain ⟨inCache,lacking⟩ := List.mem_filter.mp member
    have found := mem_pairs.mp ((order.perm _).mem_iff.mp inCache)
    exact ⟨by simp [knownOf,found],by simpa [knownOf] using lacking⟩
  · rintro ⟨known,lacking⟩
    obtain ⟨d,found⟩ := Option.isSome_iff_exists.mp known
    refine ⟨(id,d),List.mem_filter.mpr ⟨(order.perm _).mem_iff.mpr (mem_pairs.mpr found),?_⟩,rfl⟩
    simpa [knownOf] using lacking

section Refresh
variable (arrive leave : Order (DeviceId × DeviceInfo)) (found : List DeviceInfo) {cache : Cache}

/-- After a refresh the cache is what was found, with the descriptions as they were found. -/
theorem lookup_refresh (id : DeviceId) :
    (refreshAndDiff arrive leave found cache).1.lookup id = (collect found).lookup id := by
  have order := (arrive.perm (pairs (collect found))).map Prod.fst
  rw [refreshAndDiff]
  simp only
  cases listed : (collect found).lookup id with
  | some d =>
    refine lookup_insertAll_of_mem (order.nodup_iff.mpr (pairs_nodup _)) ?_
    exact (arrive.perm _).mem_iff.mpr (mem_pairs.mpr listed)
  | none =>
    rw [lookup_insertAll_of_not_mem,lookup_retain,Option.filter_eq_none_iff]
    · intro d _
      simp [listed]
    · intro member
      obtain ⟨⟨k,d⟩,inPairs,rfl⟩ := List.mem_map.mp (order.mem_iff.mp member)
      rw [mem_pairs.mp inPairs] at listed
      cases listed

theorem known_refresh (id : DeviceId) :
    knownOf (refreshAndDiff arrive leave found cache).1 id = knownOf (collect found) id := by
  rw [knownOf,lookup_refresh,knownOf]

theorem all_refresh {P : DeviceId × DeviceInfo → Prop} (new : ∀ d ∈ found, P (d.deviceId,d)) :
    ∀ e ∈ pairs (refreshAndDiff arrive leave found cache).1, P e := by
  rintro ⟨id,d⟩ member
  rw [mem_pairs,lookup_refresh] at member
  exact all_collect new (id,d) (mem_pairs.mpr member)

/-- An event is about a device that was found or one of the cache. -/
theorem told_refresh {P : DeviceId × DeviceInfo → Prop} (new : ∀ d ∈ found, P (d.deviceId,d))
    (old : ∀ e ∈ pairs cache, P e) :
    ∀ event ∈ (refreshAndDiff arrive leave found cache).2,
      ∃ e, P e ∧ (event = .deviceConnected e.2 ∨ event = .deviceDisconnected e.2) := by
  intro event member
  rcases List.mem_append.mp member with connect | disconnect
  · obtain ⟨e,chosen,rfl⟩ := List.mem_map.mp connect
    exact ⟨e,all_collect new e ((arrive.perm _).mem_iff.mp (List.mem_filter.mp chosen).1),.inl rfl⟩
  · obtain ⟨e,chosen,rfl⟩ := List.mem_map.mp disconnect
    exact ⟨e,old e ((leave.perm _).mem_iff.mp (List.mem_filter.mp chosen).1),.inr rfl⟩

/-- The events of a refresh are in turn, and lead from what the cache was to what it is. -/
theorem hear_refresh (keyed : Keyed (pairs cache)) : hear (knownOf cache) (refreshAndDiff arrive leave found cache).2 =
    some (knownOf (refreshAndDiff arrive leave found cache).1) := by
  have distinct (order : Order (DeviceId × DeviceInfo)) (m : Cache) (p : DeviceId × DeviceInfo → Bool) :
      (((order.arrange (pairs m)).filter p).map Prod.fst).Nodup := by
    apply List.Nodup.sublist (List.filter_sublist.map Prod.fst)
    exact ((order.perm _).map Prod.fst).nodup_iff.mpr (pairs_nodup m)
  let arrived := (arrive.arrange (pairs (collect found))).filter (fun e => (cache.lookup e.1).isNone)
  have connects : hear (knownOf cache) (arrived.map (fun e => .deviceConnected e.2)) =
      some (fun id => knownOf cache id || decide (id ∈ arrived.map Prod.fst)) := by
    apply hear_connects
    · intro e member
      exact all_collect (P := fun e => e.2.deviceId = e.1) (fun _ _ => rfl) e
          ((arrive.perm _).mem_iff.mp (List.mem_filter.mp member).1)
    · exact distinct arrive _ _
    · intro e member
      simpa [knownOf] using (List.mem_filter.mp member).2
  show hear (knownOf cache) (arrived.map _ ++ _) = _
  rw [hear_append connects,hear_disconnects]
  · congr 1
    funext id
    have left := mem_lacking leave cache (collect found) id
    have came := mem_lacking arrive (collect found) cache id
    rw [known_refresh,Bool.eq_iff_iff,Bool.and_eq_true,Bool.or_eq_true,Bool.not_eq_true',decide_eq_true_eq,
      decide_eq_false_iff_not,
      came,left]
    cases knownOf cache id <;> cases knownOf (collect found) id <;> simp
  · intro e member
    exact keyed e ((leave.perm _).mem_iff.mp (List.mem_filter.mp member).1)
  · exact distinct leave _ _
  · intro e member
    have inCache := mem_pairs.mp ((leave.perm _).mem_iff.mp (List.mem_filter.mp member).1)
    simp [knownOf,inCache]

end Refresh

/-! ### Runs -/

variable {host : Host} {platform : Platform} {w w' : World}

/-- The cache is what an enumeration would list, with its descriptions. -/
def Current (host : Host) (w : World) : Prop :=
  (∀ id, knownOf w.cache id = true ↔ ∃ d ∈ visible host w.api, d.deviceId = id) ∧
    ∀ id d, w.cache.lookup id = some d → d ∈ visible host w.api

theorem current_of_collect (same : ∀ id, w.cache.lookup id = (collect (visible host w.api)).lookup id) :
    Current host w := by
  constructor
  · intro id
    rw [knownOf,same]
    exact known_collect _ id
  · intro id d found
    rw [same] at found
    exact all_collect (P := fun e => e.2 ∈ visible host w.api) (fun _ member => member) (id,d) (mem_pairs.mpr found)

/-- A refresh is still to come, or the last chance of one was missed: an enumeration failed, a refresh could not be
    posted, or a change came before the monitor listened (on Windows it refreshes when it begins to, on macOS not). -/
def Owed (w : World) : Prop := w.missed = true ∨ 0 < w.posts ∨ ∃ n ∈ w.notices, shouldRefreshDeviceChange n = true

/-- A description under its identifier, of which nothing is shown that is to be hidden. -/
def Shown (host : Host) (e : DeviceId × DeviceInfo) : Prop :=
  e.2.deviceId = e.1 ∧ ∃ info, pruneDeviceInfo host.lib info = some e.2

structure Tracks (host : Host) (w : World) : Prop where
  heard : hear (knownOf w.seeded) w.events = some (knownOf w.cache)
  shown : ∀ e ∈ pairs w.cache, Shown host e
  told : ∀ event ∈ w.events, ∃ e, Shown host e ∧ (event = .deviceConnected e.2 ∨ event = .deviceDisconnected e.2)
  current : Owed w ∨ Current host w

theorem visible_shown (host : Host) (api : HidApi) : ∀ d ∈ visible host api, Shown host (d.deviceId,d) := by
  intro d member
  obtain ⟨info,_,pruned⟩ := List.mem_filterMap.mp member
  exact ⟨rfl,info,pruned⟩

theorem tracks_start (host : Host) (api : HidApi) (listed : Bool) : Tracks host (start host api listed) := by
  have nothing : ∀ event ∈ ([] : List IpcResponse),
      ∃ e, Shown host e ∧ (event = .deviceConnected e.2 ∨ event = .deviceDisconnected e.2) := by
    intro event member
    cases member
  cases listed with
  | true => exact ⟨rfl,all_collect (visible_shown host api),nothing,.inr (current_of_collect fun _ => rfl)⟩
  | false =>
    refine ⟨rfl,?_,nothing,.inl (.inl rfl)⟩
    rintro ⟨id,d⟩ member
    have found := mem_pairs.mp member
    rw [show (start host api false).cache = ∅ from rfl,lookup_empty] at found
    cases found

/-- A refresh pays what was owed, unless the enumeration fails. -/
theorem tracks_refresh (arrive leave : Order (DeviceId × DeviceInfo)) (listed : Bool)
    (heard : hear (knownOf w.seeded) w.events = some (knownOf w.cache)) (shown : ∀ e ∈ pairs w.cache, Shown host e)
    (told : ∀ event ∈ w.events, ∃ e, Shown host e ∧ (event = .deviceConnected e.2 ∨ event = .deviceDisconnected e.2)) :
    Tracks host (refresh host arrive leave listed w) := by
  cases listed with
  | false => exact ⟨heard,shown,told,.inl (.inl rfl)⟩
  | true =>
    have new := visible_shown host w.api
    refine ⟨?_,all_refresh arrive leave _ new,?_,.inr ?_⟩
    · show hear (knownOf w.seeded) (w.events ++ _) = _
      rw [hear_append heard]
      exact hear_refresh arrive leave _ (fun e member => (shown e member).1)
    · intro event member
      rcases List.mem_append.mp member with before | now
      · exact told event before
      · exact told_refresh arrive leave _ new shown event now
    · exact current_of_collect fun id => lookup_refresh arrive leave _ id

theorem tracks_step {a : Action} (tracks : Tracks host w) (stepped : step host platform w a = some w') :
    Tracks host w' := by
  obtain ⟨heard,shown,told,current⟩ := tracks
  cases a with
  | change api arrival =>
    simp only [step,Option.some.injEq] at stepped
    subst stepped
    split
    · refine ⟨heard,shown,told,.inl (.inr (.inr ?_))⟩
      cases arrival
      · exact ⟨dbtDeviceRemoveComplete,by simp,rfl⟩
      · exact ⟨dbtDeviceArrival,by simp,rfl⟩
    · exact ⟨heard,shown,told,.inl (.inl rfl)⟩
  | notice wparam =>
    simp only [step,Option.ite_none_right_eq_some,Option.some.injEq] at stepped
    obtain ⟨_,rfl⟩ := stepped
    refine ⟨heard,shown,told,?_⟩
    rcases current with (missed | posted | ⟨n,member,wanted⟩) | current
    · exact .inl (.inl missed)
    · exact .inl (.inr (.inl posted))
    · exact .inl (.inr (.inr ⟨n,List.mem_append_left _ member,wanted⟩))
    · exact .inr current
  | register arrive leave listed =>
    simp only [step] at stepped
    split at stepped
    · cases stepped
    · cases platform with
      | windows =>
        cases stepped
        exact tracks_refresh arrive leave listed heard shown told
      | macos =>
        cases stepped
        exact ⟨heard,shown,told,current⟩
  | dispatch posted =>
    simp only [step] at stepped
    split at stepped
    · next wparam rest notices =>
      cases stepped
      split
      · split
        · exact ⟨heard,shown,told,.inl (.inr (.inl (Nat.succ_pos _)))⟩
        · exact ⟨heard,shown,told,.inl (.inl rfl)⟩
      · next unwanted =>
        -- the notice that is dropped asked for no refresh
        refine ⟨heard,shown,told,?_⟩
        rcases current with (missed | posted | ⟨n,member,wanted⟩) | current
        · exact .inl (.inl missed)
        · exact .inl (.inr (.inl posted))
        · rw [notices,List.mem_cons] at member
          rcases member with rfl | member
          · exact absurd wanted unwanted
          · exact .inl (.inr (.inr ⟨n,member,wanted⟩))
        · exact .inr current
    · cases stepped
  | process arrive leave listed =>
    simp only [step] at stepped
    split at stepped
    · cases stepped
      exact tracks_refresh arrive leave listed heard shown told
    · cases stepped
  | callback arrive leave listed =>
    simp only [step] at stepped
    split at stepped
    · cases stepped
      exact tracks_refresh arrive leave listed heard shown told
    · cases stepped

theorem tracks_reachable (reachable : Reachable host platform w) : Tracks host w := by
  obtain ⟨api,listed,trace,executed⟩ := reachable
  apply exec_invariant (I := Tracks host) _ (tracks_start host api listed) executed
  exact fun w a w' tracks stepped => tracks_step tracks stepped

/-- Every device that is announced was unknown and every one that is taken back was known, none of them is one to hide,
    and where no refresh is owed or missed the cache holds the devices that an enumeration lists, as it lists them. -/
theorem monitor_keeps_track (reachable : Reachable host platform w) :
    hear (knownOf w.seeded) w.events = some (knownOf w.cache) ∧
      (∀ event ∈ w.events, ∃ d info, pruneDeviceInfo host.lib info = some d ∧
        (event = .deviceConnected d ∨ event = .deviceDisconnected d)) ∧
      (w.missed = false → w.notices = [] → w.posts = 0 → Current host w) := by
  obtain ⟨heard,_,told,current⟩ := tracks_reachable reachable
  refine ⟨heard,?_,?_⟩
  · intro event member
    obtain ⟨e,⟨_,info,pruned⟩,announced⟩ := told event member
    exact ⟨e.2,info,pruned,announced⟩
  · intro kept drained served
    rcases current with (missed | posted | ⟨n,member,_⟩) | current
    · rw [kept] at missed
      cases missed
    · omega
    · rw [drained] at member
      cases member
    · exact current

/-- Off Linux a path is its own identity. -/
def plainHost : Host := { Hotplug.twoNodes with resolveLinuxSyspath := fun _ => none }

def noDevices : HidApi where
  deviceList := []
  rawReportDescriptor _ := []
  onePath := by decide

def oneDevice : HidApi where
  deviceList := [⟨⟨"one",⟨0,0x046d,0xc216,none,none,none⟩⟩,0xff00,1⟩]
  rawReportDescriptor _ := [1]
  onePath := by decide

def asListed (α : Type) : Order α := ⟨id,fun _ => List.Perm.refl _⟩

/-- A device is plugged in after the monitor began to listen. -/
def plugged : List Action :=
  [.register (asListed _) (asListed _) true,.change oneDevice true,.dispatch true,.process (asListed _) (asListed _) true]

theorem plugged_device_is_known :
    ∃ w : World, Reachable plainHost .windows w ∧ w.events.length = 1 ∧ Current plainHost w := by
  obtain ⟨w,executed,facts⟩ := Option.map_eq_some_iff.mp (by decide :
    (exec (step plainHost .windows) (start plainHost noDevices true) plugged).map
      (fun w => (w.missed,w.notices,w.posts,w.events.length)) = some (false,[],0,1))
  simp only [Prod.mk.injEq] at facts
  obtain ⟨kept,drained,served,announced⟩ := facts
  have reachable : Reachable plainHost .windows w := ⟨noDevices,true,plugged,executed⟩
  exact ⟨w,reachable,announced,(monitor_keeps_track reachable).2.2 kept drained served⟩

end FFWebHid.HotplugRefreshes
