import FFWebHid.WriteLogs
import FFWebHid.SettingsKeys

/-! The one-time move of the add-on's old storage: device records and grants from the local area into the database,
settings to their keys of today. The background does it at its start, and may be stopped at any point of it. -/

namespace FFWebHid.StorageMigration
open FFWebHid.Maps FFWebHid.SettingsKeys FFWebHid.WriteLogs

/-- What the language makes of a stored value or a text; a key is a value that the database takes for one. -/
structure Readings (α κ : Type) where
  /-- The items, if it is an array. -/
  array : α → Option (List α)
  /-- `Object.entries`, which fails for null. -/
  entries : α → Option (List (String × α))
  distinct : ∀ value fields, entries value = some fields → (fields.map Prod.fst).Nodup
  /-- `Number`, unless it is no number. -/
  number : α → Option κ
  numberOfText : String → Option κ
  key : α → Option κ
  decodeURIComponent : String → Option String
  /-- Whether a value is the schema version of today, and that value. -/
  isCurrent : α → Bool
  storageSchemaVersion : α
  current : isCurrent storageSchemaVersion = true

variable {α κ : Type}

/-- A device record: the number first, over which the fields of the old one are spread. -/
structure Record (α κ : Type) where
  deviceId : Option κ
  fields : List (String × α)
  deriving DecidableEq

/-- The local area and the two stores of the database that are written. -/
structure Storage (α κ : Type) where
  localArea : LocalArea α
  deviceInfo : HashMap κ (Record α κ)
  origins : HashMap (String × κ) Unit

/-- A transaction of the database or a call of the local area; each happens whole or not at all. -/
inductive Op (α κ : Type) where
  | putDevice (key : κ) (record : Record α κ)
  | putOrigins (pairs : List (String × κ))
  | setLocal (patch : List (String × α))
  | removeLocal (keys : List String)
  deriving DecidableEq

def Op.perform [DecidableEq κ] (s : Storage α κ) : Op α κ → Storage α κ
  | .putDevice key record => { s with deviceInfo := s.deviceInfo.insert key record }
  | .putOrigins pairs => { s with origins := pairs.foldl (fun m pair => m.insert pair ()) s.origins }
  | .setLocal patch => { s with localArea := patch.foldl (fun m entry => m.insert entry.1 entry.2) s.localArea }
  | .removeLocal keys => { s with localArea := eraseAll s.localArea keys }

def versionKey : String := "meta :: storage :: version"

def startsWith (text beginning : String) : Bool := beginning.toList.isPrefixOf text.toList

/-- `text.slice(beginning.length)`. -/
def sliceAfter (text beginning : String) : String := String.ofList (text.toList.drop beginning.length)

/-- `Object.entries` of the local area. -/
def allEntries (raw : LocalArea α) : List (String × α) := raw.entries.map (fun e => (e.1,e.2))

section Plan
variable (r : Readings α κ)

/-- The record's key is its own `deviceId` where the old record had one. -/
def recordOp (entry : String × α) : Option (Op α κ) :=
  let deviceId := r.numberOfText (sliceAfter entry.1 "deviceInfo:")
  let fields := (r.entries entry.2).getD []
  let key := match fields.find? (·.1 = "deviceId") with
    | some own => r.key own.2
    | none => deviceId
  key.map (fun key => .putDevice key ⟨deviceId,fields⟩)

def isDeviceInfoEntry (entry : String × α) : Bool := startsWith entry.1 "deviceInfo:"

/-- The transactions, where nothing stands for an exception, and the keys that are done with. -/
def migrateDeviceInfoEntries (all : List (String × α)) : List (Option (Op α κ)) × List String :=
  let found := all.filter isDeviceInfoEntry
  (found.map (recordOp r),found.map Prod.fst)

def isKnownKey (key : String) : Bool :=
  startsWith key "deviceInfo:" || startsWith key "site:" || startsWith key "settings :: " || startsWith key "meta :: " ||
    settingNames.contains key

def originEntry (entry : String × α) : Option (String × List α) :=
  if isKnownKey entry.1 then none else (r.array entry.2).map (fun items => (entry.1,items))

/-- One transaction for the items of an origin; the first one that is no number ends it with an exception. -/
def originOps (entry : String × List α) : List (Option (Op α κ)) :=
  let origin := (r.decodeURIComponent entry.1).getD entry.1
  let numbers := (entry.2.map r.number).takeWhile Option.isSome
  some (.putOrigins (numbers.reduceOption.map (fun deviceId => (origin,deviceId)))) ::
    (if numbers.length < entry.2.length then [none] else [])

def migrateOriginEntries (all : List (String × α)) : List (Option (Op α κ)) × List String :=
  let found := all.filterMap (originEntry r)
  (found.flatMap (originOps r),found.map Prod.fst)

def isSiteEntry (entry : String × α) : Bool := startsWith entry.1 "site:"

def sitePatch (entry : String × α) : Option (List (String × α)) :=
  (r.entries entry.2).map (fun fields =>
    fields.map (fun field => (siteSettingKey (sliceAfter entry.1 "site:") field.1,field.2)))

/-- An entry without fields to go through ends the migration with an exception. -/
def migrateSiteEntries (all : List (String × α)) : Option (List (String × α) × List String) :=
  let found := all.filter isSiteEntry
  if found.all (fun entry => (sitePatch r entry).isSome) then
    some (found.flatMap (fun entry => (sitePatch r entry).getD []),found.map Prod.fst)
  else none

omit r in
def migrateGlobalEntries (raw : LocalArea α) : List (String × α) × List String :=
  let found := settingNames.filterMap (fun name => (raw.lookup name).map (fun value => (name,value)))
  (found.map (fun entry => (globalSettingKey entry.1,entry.2)),found.map Prod.fst)

/-- The database first, then all settings in one call, then the old keys. -/
def migrateLegacyStorage (raw : LocalArea α) : List (Option (Op α κ)) :=
  let all := allEntries raw
  let devices := migrateDeviceInfoEntries r all
  let origins := migrateOriginEntries r all
  devices.1 ++ origins.1 ++
    match migrateSiteEntries r all with
    | none => [none]
    | some site =>
      let globals := migrateGlobalEntries raw
      let patch := site.1 ++ globals.1
      let keysToRemove := devices.2 ++ origins.2 ++ (site.2 ++ globals.2)
      (if patch.isEmpty then [] else [some (.setLocal patch)]) ++
        (if keysToRemove.isEmpty then [] else [some (.removeLocal keysToRemove)])

def setVersion : Option (Op α κ) := some (.setLocal [(versionKey,r.storageSchemaVersion)])

/-- What a start has to do. -/
def ensureStorageSchemaVersion (raw : LocalArea α) : List (Option (Op α κ)) :=
  match raw.lookup versionKey with
  | some stored => if r.isCurrent stored then [] else [setVersion r]
  | none => migrateLegacyStorage r raw ++ [setVersion r]

end Plan

/-- An exception ends a run. -/
def run [DecidableEq κ] : List (Option (Op α κ)) → Storage α κ → Storage α κ
  | [], s => s
  | none :: _, s => s
  | some op :: rest, s => run rest (op.perform s)

/-- A start of the background that is stopped after so many steps. -/
def interrupted [DecidableEq κ] (r : Readings α κ) (s : Storage α κ) (cut : Nat) : Storage α κ :=
  run ((ensureStorageSchemaVersion r s.localArea).take cut) s

/-- One that is not. -/
def started [DecidableEq κ] (r : Readings α κ) (s : Storage α κ) : Storage α κ :=
  run (ensureStorageSchemaVersion r s.localArea) s

/-! ### The storage as one store of locations -/

inductive Location (κ : Type) where
  | setting (key : String)
  | device (key : κ)
  | origin (origin : String) (key : κ)
  deriving DecidableEq

inductive Content (α κ : Type) where
  | value (value : α)
  | record (record : Record α κ)
  | allowed

def view [DecidableEq κ] (s : Storage α κ) : Store (Location κ) (Content α κ)
  | .setting key => (s.localArea.lookup key).map .value
  | .device key => (s.deviceInfo.lookup key).map .record
  | .origin origin key => (s.origins.lookup (origin,key)).map (fun _ => .allowed)

def Op.writes : Op α κ → List (Write (Location κ) (Content α κ))
  | .putDevice key record => [(.device key,some (.record record))]
  | .putOrigins pairs => pairs.map (fun pair => (.origin pair.1 pair.2,some .allowed))
  | .setLocal patch => patch.map (fun entry => (.setting entry.1,some (.value entry.2)))
  | .removeLocal keys => keys.map (fun key => (.setting key,none))

section View
variable [DecidableEq κ]

theorem view_insert (s : Storage α κ) (key : String) (value : α) :
    view { s with localArea := s.localArea.insert key value } = write (view s) (.setting key,some (.value value)) := by
  funext location
  cases location with
  | setting other =>
    by_cases same : other = key
    · subst same
      simp [view,write]
    · simp [view,write,same]
  | device other => simp [view,write]
  | origin origin other => simp [view,write]

theorem view_erase (s : Storage α κ) (key : String) :
    view { s with localArea := s.localArea.erase key } = write (view s) (.setting key,none) := by
  funext location
  cases location with
  | setting other =>
    by_cases same : other = key
    · subst same
      simp [view,write]
    · simp [view,write,same]
  | device other => simp [view,write]
  | origin origin other => simp [view,write]

theorem view_grant (s : Storage α κ) (pair : String × κ) :
    view { s with origins := s.origins.insert pair () } = write (view s) (.origin pair.1 pair.2,some .allowed) := by
  funext location
  cases location with
  | setting other => simp [view,write]
  | device other => simp [view,write]
  | origin origin other =>
    by_cases same : (origin,other) = pair
    · subst same
      simp [view,write]
    · have apart : ¬(origin = pair.1 ∧ other = pair.2) := fun both => same (Prod.ext both.1 both.2)
      simp [view,write,same,apart]

/-- What an operation does is what it writes. -/
theorem view_perform (op : Op α κ) (s : Storage α κ) : view (op.perform s) = apply op.writes (view s) := by
  cases op with
  | putDevice key record =>
    funext location
    cases location with
    | setting other => simp [Op.perform,Op.writes,apply,view,write]
    | device other =>
      by_cases same : other = key
      · subst same
        simp [Op.perform,Op.writes,apply,view,write]
      · simp [Op.perform,Op.writes,apply,view,write,same]
    | origin origin other => simp [Op.perform,Op.writes,apply,view,write]
  | putOrigins pairs =>
    induction pairs generalizing s with
    | nil => rfl
    | cons pair pairs ih =>
      have first := ih { s with origins := s.origins.insert pair () }
      rw [view_grant] at first
      exact first
  | setLocal patch =>
    induction patch generalizing s with
    | nil => rfl
    | cons entry patch ih =>
      have first := ih { s with localArea := s.localArea.insert entry.1 entry.2 }
      rw [view_insert] at first
      exact first
  | removeLocal keys =>
    induction keys generalizing s with
    | nil => rfl
    | cons key keys ih =>
      have first := ih { s with localArea := s.localArea.erase key }
      rw [view_erase] at first
      exact first

/-- The operations that a run comes to. -/
def performed : List (Option (Op α κ)) → List (Op α κ)
  | some op :: rest => op :: performed rest
  | _ => []

def log (steps : List (Option (Op α κ))) : List (Write (Location κ) (Content α κ)) :=
  (performed steps).flatMap Op.writes

theorem view_run (steps : List (Option (Op α κ))) (s : Storage α κ) : view (run steps s) =
    apply (log steps) (view s) := by
  induction steps generalizing s with
  | nil => rfl
  | cons step rest ih =>
    cases step with
    | none => rfl
    | some op =>
      have later := ih (op.perform s)
      rw [view_perform,← apply_append] at later
      exact later

omit [DecidableEq κ] in
theorem performed_take (steps : List (Option (Op α κ))) (cut : Nat) :
    performed (steps.take cut) <+: performed steps := by
  induction steps generalizing cut with
  | nil => simp [performed]
  | cons step rest ih =>
    cases cut with
    | zero => exact List.nil_prefix
    | succ cut =>
      cases step with
      | none => exact List.nil_prefix
      | some op =>
        rw [List.take_succ_cons,performed,performed]
        exact List.prefix_cons_inj op |>.mpr (ih cut)

/-- A run after a part of it leaves what the run alone leaves. -/
theorem view_run_take (steps : List (Option (Op α κ))) (cut : Nat) (s : Storage α κ) :
    view (run steps (run (steps.take cut) s)) = view (run steps s) := by
  rw [view_run,view_run,view_run]
  apply apply_redo
  intro w member
  obtain ⟨op,early,written⟩ := List.mem_flatMap.mp member
  obtain ⟨late,same⟩ := performed_take steps cut
  apply List.mem_map_of_mem
  apply List.mem_flatMap.mpr
  exact ⟨op,by rw [← same]; exact List.mem_append_left _ early,written⟩

end View

section Legacy
variable (r : Readings α κ)

/-- The keys the migration writes to. -/
def isToday (key : String) : Bool := startsWith key "settings :: "

theorem isToday_key {key : String} (today : isToday key = true) : ∃ rest, key.toList = "settings :: ".toList ++ rest := by
  obtain ⟨rest,same⟩ := List.isPrefixOf_iff_prefix.mp today
  exact ⟨rest,same.symm⟩

theorem today_known {key : String} (today : isToday key = true) : isKnownKey key = true := by
  unfold isToday at today
  simp [isKnownKey,today]

theorem today_plain {key : String} (today : isToday key = true) :
    startsWith key "deviceInfo:" = false ∧ startsWith key "site:" = false ∧ key ∉ settingNames ∧ key ≠ versionKey := by
  obtain ⟨rest,text⟩ := isToday_key today
  refine ⟨?_,?_,?_,?_⟩
  · simp [startsWith,text,List.isPrefixOf]
  · simp [startsWith,text,List.isPrefixOf]
  · intro member
    have spaced := settingNames_unspaced key member
    simp [Unspaced,text] at spaced
  · rintro rfl
    simp [versionKey] at text

/-- What is inserted under another key does not show among the entries a test picks. -/
theorem filterMap_insert {β : Type} (f : String × α → Option β) {key : String} (ignored : ∀ value, f (key,value) = none)
    (raw : LocalArea α) (value : α) : (allEntries (raw.insert key value)).filterMap f = (allEntries raw).filterMap f := by
  have erased : ∀ entries : List (Sigma fun _ : String => α),
      ((List.kerase key entries).map (fun e => (e.1,e.2))).filterMap f =
          (entries.map (fun e => (e.1,e.2))).filterMap f := by
    intro entries
    induction entries with
    | nil => rfl
    | cons e entries ih =>
      by_cases same : e.1 = key
      · rw [List.kerase_cons_eq same.symm]
        obtain ⟨k,v⟩ := e
        cases same
        simp [ignored]
      · rw [List.kerase_cons_ne (Ne.symm same),List.map_cons,List.map_cons,List.filterMap_cons,List.filterMap_cons,ih]
  rw [allEntries,AList.entries_insert,List.map_cons,List.filterMap_cons,ignored]
  exact erased raw.entries

theorem filter_insert {p : String × α → Bool} {key : String} (ignored : ∀ value, p (key,value) = false)
    (raw : LocalArea α) (value : α) : (allEntries (raw.insert key value)).filter p = (allEntries raw).filter p := by
  rw [← List.filterMap_eq_filter]
  exact filterMap_insert _ (by simp [ignored]) raw value

/-- The keys that are done with once everything is moved. -/
def legacyKeys (raw : LocalArea α) : List String :=
  (migrateDeviceInfoEntries (κ := κ) r (allEntries raw)).2 ++ (migrateOriginEntries (κ := κ) r (allEntries raw)).2 ++
    (((allEntries raw).filter isSiteEntry).map Prod.fst ++ (migrateGlobalEntries raw).2)

/-- What there is to do, and that it has to be done, is read from the local area. -/
structure SameTask (raw raw' : LocalArea α) : Prop where
  task : migrateLegacyStorage (κ := κ) r raw' = migrateLegacyStorage r raw
  version : raw'.lookup versionKey = raw.lookup versionKey
  keys : legacyKeys (κ := κ) r raw' = legacyKeys (κ := κ) r raw

theorem SameTask.refl (raw : LocalArea α) : SameTask (κ := κ) r raw raw := ⟨rfl,rfl,rfl⟩

theorem SameTask.trans {raw raw' raw'' : LocalArea α} (first : SameTask (κ := κ) r raw raw')
    (second : SameTask (κ := κ) r raw' raw'') : SameTask (κ := κ) r raw raw'' :=
  ⟨second.task.trans first.task,second.version.trans first.version,second.keys.trans first.keys⟩

/-- Settings of today are no part of what is to be migrated. -/
theorem SameTask.insert {key : String} (today : isToday key = true) (raw : LocalArea α) (value : α) :
    SameTask (κ := κ) r raw (raw.insert key value) := by
  obtain ⟨noInfo,noSite,noName,noVersion⟩ := today_plain today
  have infos := filter_insert (p := isDeviceInfoEntry) (fun _ => noInfo) raw value
  have sites := filter_insert (p := isSiteEntry) (fun _ => noSite) raw value
  have origins := filterMap_insert (originEntry r)
    (fun v => show originEntry r (key,v) = none by simp [originEntry,today_known today]) raw value
  have names : migrateGlobalEntries (raw.insert key value) = migrateGlobalEntries raw := by
    have found : settingNames.filterMap (fun name => ((raw.insert key value).lookup name).map (fun v => (name,v))) =
        settingNames.filterMap (fun name => (raw.lookup name).map (fun v => (name,v))) := by
      apply List.filterMap_congr
      intro name member
      have other : name ≠ key := by
        rintro rfl
        exact noName member
      rw [AList.lookup_insert_ne other]
    simp only [migrateGlobalEntries,found]
  have devices : migrateDeviceInfoEntries r (allEntries (raw.insert key value)) =
      migrateDeviceInfoEntries r (allEntries raw) := by
    simp only [migrateDeviceInfoEntries,infos]
  have grants : migrateOriginEntries r (allEntries (raw.insert key value)) =
      migrateOriginEntries r (allEntries raw) := by
    simp only [migrateOriginEntries,origins]
  have overrides : migrateSiteEntries r (allEntries (raw.insert key value)) =
      migrateSiteEntries r (allEntries raw) := by
    simp only [migrateSiteEntries,sites]
  constructor
  · simp only [migrateLegacyStorage]
    rw [devices,grants,overrides,names]
  · exact AList.lookup_insert_ne (Ne.symm noVersion)
  · simp only [legacyKeys]
    rw [devices,grants,sites,names]

/-- The operations before the old keys are removed. -/
def KeepsLegacy : Op α κ → Prop
  | .setLocal patch => ∀ entry ∈ patch, isToday entry.1 = true
  | .removeLocal _ => False
  | _ => True

theorem keeps_task [DecidableEq κ] {op : Op α κ} (keeps : KeepsLegacy op) (s : Storage α κ) :
    SameTask (κ := κ) r s.localArea (op.perform s).localArea := by
  cases op with
  | putDevice key record => exact .refl r _
  | putOrigins pairs => exact .refl r _
  | removeLocal keys => exact keeps.elim
  | setLocal patch =>
    induction patch generalizing s with
    | nil => exact .refl r _
    | cons entry patch ih =>
      have later := ih { s with localArea := s.localArea.insert entry.1 entry.2 }
        (fun e member => keeps e (List.mem_cons_of_mem _ member))
      exact (SameTask.insert r (keeps entry List.mem_cons_self) s.localArea entry.2).trans r later

theorem run_task [DecidableEq κ] {steps : List (Option (Op α κ))} (keeps : ∀ op, some op ∈ steps → KeepsLegacy op)
    (s : Storage α κ) : SameTask (κ := κ) r s.localArea (run steps s).localArea := by
  induction steps generalizing s with
  | nil => exact .refl r _
  | cons step rest ih =>
    cases step with
    | none => exact .refl r _
    | some op =>
      exact (keeps_task r (keeps op List.mem_cons_self) s).trans r
        (ih (fun o member => keeps o (List.mem_cons_of_mem _ member)) (op.perform s))

theorem mem_allEntries {raw : LocalArea α} {key : String} {value : α} :
    (key,value) ∈ allEntries raw ↔ raw.lookup key = some value := by
  rw [lookup_eq_some,allEntries,List.mem_map]
  constructor
  · rintro ⟨e,member,same⟩
    cases same
    exact member
  · intro member
    exact ⟨_,member,rfl⟩

theorem mem_filter_keys {p : String → Bool} {raw : LocalArea α} {key : String} :
    key ∈ ((allEntries raw).filter (fun entry => p entry.1)).map Prod.fst ↔
      ∃ value, raw.lookup key = some value ∧ p key = true := by
  simp only [List.mem_map,List.mem_filter]
  constructor
  · rintro ⟨⟨k,v⟩,⟨member,picked⟩,rfl⟩
    exact ⟨v,mem_allEntries.mp member,picked⟩
  · rintro ⟨v,found,picked⟩
    exact ⟨(key,v),⟨mem_allEntries.mpr found,picked⟩,rfl⟩

theorem originEntry_eq {entry : String × α} {found : String × List α} (picked : originEntry r entry = some found) :
    isKnownKey entry.1 = false ∧ r.array entry.2 = some found.2 ∧ found.1 = entry.1 := by
  unfold originEntry at picked
  by_cases known : isKnownKey entry.1 = true
  · simp [known] at picked
  · rw [if_neg known] at picked
    obtain ⟨items,array,rfl⟩ := Option.map_eq_some_iff.mp picked
    exact ⟨by simpa using known,array,rfl⟩

theorem lookup_removed {raw : LocalArea α} {keys : List String} {key : String} {value : α}
    (found : (eraseAll raw keys).lookup key = some value) : raw.lookup key = some value ∧ key ∉ keys := by
  rw [lookup_eraseAll] at found
  by_cases removed : key ∈ keys
  · simp [removed] at found
  · rw [if_neg removed] at found
    exact ⟨found,removed⟩

theorem filter_removed {raw : LocalArea α} {keys : List String} {p : String × α → Bool}
    (listed : ((allEntries raw).filter p).map Prod.fst ⊆ keys) : (allEntries (eraseAll raw keys)).filter p = [] := by
  apply List.filter_eq_nil_iff.mpr
  rintro ⟨key,value⟩ member picked
  obtain ⟨before,remains⟩ := lookup_removed (mem_allEntries.mp member)
  apply remains
  apply listed
  exact List.mem_map.mpr ⟨(key,value),List.mem_filter.mpr ⟨mem_allEntries.mpr before,picked⟩,rfl⟩

theorem origins_removed {raw : LocalArea α} {keys : List String}
    (listed : ((allEntries raw).filterMap (originEntry r)).map Prod.fst ⊆ keys) :
    (allEntries (eraseAll raw keys)).filterMap (originEntry r) = [] := by
  apply List.filterMap_eq_nil_iff.mpr
  rintro ⟨key,value⟩ member
  obtain ⟨before,remains⟩ := lookup_removed (mem_allEntries.mp member)
  cases picked : originEntry r (key,value) with
  | none => rfl
  | some found =>
    exfalso
    apply remains
    apply listed
    refine List.mem_map.mpr ⟨found,?_,(originEntry_eq r picked).2.2⟩
    exact List.mem_filterMap.mpr ⟨(key,value),mem_allEntries.mpr before,picked⟩

theorem globals_removed {raw : LocalArea α} {keys : List String} (listed : (migrateGlobalEntries raw).2 ⊆ keys) :
    migrateGlobalEntries (eraseAll raw keys) = ([],[]) := by
  have found : settingNames.filterMap (fun name =>
      ((eraseAll raw keys).lookup name).map (fun value => (name,value))) = [] := by
    apply List.filterMap_eq_nil_iff.mpr
    intro name member
    cases stored : (eraseAll raw keys).lookup name with
    | none => rfl
    | some value =>
      obtain ⟨before,remains⟩ := lookup_removed stored
      exfalso
      apply remains
      apply listed
      refine List.mem_map.mpr ⟨(name,value),?_,rfl⟩
      exact List.mem_filterMap.mpr ⟨name,member,by rw [before]; rfl⟩
  simp only [migrateGlobalEntries,found,List.map_nil]

/-- Nothing is left that the migration would take for old. -/
theorem migrate_removed (raw : LocalArea α) :
    migrateLegacyStorage (κ := κ) r (eraseAll raw (legacyKeys (κ := κ) r raw)) = [] := by
  have infos : (allEntries (eraseAll raw (legacyKeys (κ := κ) r raw))).filter isDeviceInfoEntry = [] :=
    filter_removed fun _ listed => List.mem_append_left _ (List.mem_append_left _ listed)
  have origins : (allEntries (eraseAll raw (legacyKeys (κ := κ) r raw))).filterMap (originEntry r) = [] :=
    origins_removed r fun _ listed => List.mem_append_left _ (List.mem_append_right _ listed)
  have sites : (allEntries (eraseAll raw (legacyKeys (κ := κ) r raw))).filter isSiteEntry = [] :=
    filter_removed fun _ listed => List.mem_append_right _ (List.mem_append_left _ listed)
  have names : migrateGlobalEntries (eraseAll raw (legacyKeys (κ := κ) r raw)) = ([],[]) :=
    globals_removed fun _ listed => List.mem_append_right _ (List.mem_append_right _ listed)
  simp [migrateLegacyStorage,migrateDeviceInfoEntries,migrateOriginEntries,migrateSiteEntries,infos,sites,origins,names]

/-- Everything that is put somewhere. -/
def puts (raw : LocalArea α) : List (Option (Op α κ)) :=
  (migrateDeviceInfoEntries r (allEntries raw)).1 ++ (migrateOriginEntries r (allEntries raw)).1 ++
    match migrateSiteEntries r (allEntries raw) with
    | none => [none]
    | some site =>
      let patch := site.1 ++ (migrateGlobalEntries raw).1
      if patch.isEmpty then [] else [some (.setLocal patch)]

/-- The old keys. -/
def removal (raw : LocalArea α) : List (Option (Op α κ)) :=
  match migrateSiteEntries r (allEntries raw) with
  | none => []
  | some _ =>
    if (legacyKeys (κ := κ) r raw).isEmpty then [] else [some (.removeLocal (legacyKeys (κ := κ) r raw))]

theorem migrate_split (raw : LocalArea α) : migrateLegacyStorage (κ := κ) r raw = puts r raw ++ removal r raw := by
  simp only [migrateLegacyStorage,puts,removal]
  cases site : migrateSiteEntries r (allEntries raw) with
  | none => simp
  | some found =>
    have keys : found.2 = ((allEntries raw).filter isSiteEntry).map Prod.fst := by
      unfold migrateSiteEntries at site
      simp only at site
      split at site
      · cases site
        rfl
      · cases site
    simp only [keys,legacyKeys,List.append_assoc]

theorem siteSettingKey_today (origin name : String) : isToday (siteSettingKey origin name) = true := by
  simp [isToday,startsWith,siteSettingKey,List.isPrefixOf]

theorem globalSettingKey_today (name : String) : isToday (globalSettingKey name) = true := by
  simp [isToday,startsWith,globalSettingKey,List.isPrefixOf]

theorem patch_today {raw : LocalArea α} {site : List (String × α) × List String}
    (found : migrateSiteEntries r (allEntries raw) = some site) :
    ∀ entry ∈ site.1 ++ (migrateGlobalEntries raw).1, isToday entry.1 = true := by
  intro entry member
  rcases List.mem_append.mp member with ofSite | ofGlobal
  · unfold migrateSiteEntries at found
    simp only at found
    split at found
    · cases found
      obtain ⟨source,_,patched⟩ := List.mem_flatMap.mp ofSite
      cases fields : r.entries source.2 with
      | none => simp [sitePatch,fields] at patched
      | some own =>
        simp only [sitePatch,fields,Option.map_some,Option.getD_some,List.mem_map] at patched
        obtain ⟨field,_,rfl⟩ := patched
        exact siteSettingKey_today _ _
    · cases found
  · obtain ⟨named,_,rfl⟩ := List.mem_map.mp ofGlobal
    exact globalSettingKey_today _

theorem puts_keep (raw : LocalArea α) : ∀ op, some op ∈ puts (κ := κ) r raw → KeepsLegacy op := by
  intro op member
  rcases List.mem_append.mp member with early | patch
  · rcases List.mem_append.mp early with device | origin
    · obtain ⟨entry,_,made⟩ := List.mem_map.mp device
      obtain ⟨key,_,rfl⟩ := Option.map_eq_some_iff.mp made
      trivial
    · obtain ⟨entry,_,made⟩ := List.mem_flatMap.mp origin
      unfold originOps at made
      simp only [List.mem_cons,Option.some.injEq] at made
      rcases made with rfl | other
      · trivial
      · split at other <;> simp at other
  · cases site : migrateSiteEntries r (allEntries raw) with
    | none => simp [site] at patch
    | some found =>
      simp only [site] at patch
      split at patch
      · simp at patch
      · simp only [List.mem_singleton,Option.some.injEq] at patch
        subst patch
        exact patch_today r site

end Legacy

section Interruptions
variable [DecidableEq κ] (r : Readings α κ)

theorem run_stops {first : List (Option (Op α κ))} (fails : none ∈ first) (second : List (Option (Op α κ)))
    (s : Storage α κ) : run (first ++ second) s = run first s := by
  induction first generalizing s with
  | nil => simp at fails
  | cons step rest ih =>
    cases step with
    | none => rfl
    | some op => exact ih (by simpa using fails) (op.perform s)

theorem run_through {first : List (Option (Op α κ))} (whole : none ∉ first) (second : List (Option (Op α κ)))
    (s : Storage α κ) : run (first ++ second) s = run second (run first s) := by
  induction first generalizing s with
  | nil => rfl
  | cons step rest ih =>
    cases step with
    | none => simp at whole
    | some op => exact ih (by simpa using whole) (op.perform s)

omit [DecidableEq κ] in
theorem steps_unversioned {raw : LocalArea α} (unset : raw.lookup versionKey = none) :
    ensureStorageSchemaVersion (κ := κ) r raw = puts r raw ++ (removal r raw ++ [setVersion r]) := by
  simp only [ensureStorageSchemaVersion,unset,migrate_split,List.append_assoc]

omit [DecidableEq κ] in
theorem removal_cases (raw : LocalArea α) :
    removal (κ := κ) r raw = [] ∨ removal r raw = [some (.removeLocal (legacyKeys (κ := κ) r raw))] := by
  unfold removal
  split
  · exact .inl rfl
  · split
    · exact .inl rfl
    · exact .inr rfl

/-- A storage of today's version is left alone. -/
theorem started_current {s : Storage α κ} (stored : α) (version : s.localArea.lookup versionKey = some stored)
    (current : r.isCurrent stored = true) : started r s = s := by
  simp [started,ensureStorageSchemaVersion,version,current,run]

/-- A run that comes to its end has set the version. -/
theorem ended_current {first : List (Option (Op α κ))} (whole : none ∉ first) (s : Storage α κ) :
    started r (run (first ++ [setVersion r]) s) = run (first ++ [setVersion r]) s := by
  rw [run_through whole]
  apply started_current r r.storageSchemaVersion _ r.current
  exact AList.lookup_insert _

/-- Stopped before the old keys are removed, it has everything still to do. -/
theorem started_early {s : Storage α κ} (unset : s.localArea.lookup versionKey = none) {cut : Nat}
    (early : cut ≤ (puts (κ := κ) r s.localArea).length) :
    view (started r (interrupted r s cut)) = view (started r s) := by
  have steps := steps_unversioned (κ := κ) r unset
  have taken : (ensureStorageSchemaVersion r s.localArea).take cut = (puts (κ := κ) r s.localArea).take cut := by
    rw [steps,List.take_append_of_le_length early]
  have task : SameTask (κ := κ) r s.localArea (interrupted r s cut).localArea := by
    rw [interrupted,taken]
    apply run_task
    intro op member
    exact puts_keep r s.localArea op (List.mem_of_mem_take member)
  have again : ensureStorageSchemaVersion (κ := κ) r (interrupted r s cut).localArea =
      ensureStorageSchemaVersion r s.localArea := by
    simp only [ensureStorageSchemaVersion,task.task,task.version]
  rw [started,again]
  exact view_run_take _ cut s

/-- Stopped once the old keys are gone, it has only the version left to set. -/
theorem started_removed {s : Storage α κ} (unset : s.localArea.lookup versionKey = none)
    (whole : none ∉ puts (κ := κ) r s.localArea)
    (removes : removal (κ := κ) r s.localArea = [some (.removeLocal (legacyKeys (κ := κ) r s.localArea))]) :
    started r (run (puts r s.localArea ++ removal r s.localArea) s) = started r s := by
  have steps := steps_unversioned (κ := κ) r unset
  have task := run_task r (puts_keep (κ := κ) r s.localArea) s
  have removed : (run (puts r s.localArea ++ removal r s.localArea) s).localArea =
      eraseAll (run (puts r s.localArea) s).localArea (legacyKeys (κ := κ) r (run (puts r s.localArea) s).localArea) := by
    rw [run_through whole,removes,task.keys]
    rfl
  have unsetStill : (run (puts r s.localArea ++ removal r s.localArea) s).localArea.lookup versionKey = none := by
    rw [removed,lookup_eraseAll,task.version,unset]
    simp
  have left : ensureStorageSchemaVersion (κ := κ) r (run (puts r s.localArea ++ removal r s.localArea) s).localArea =
      [setVersion r] := by
    simp only [ensureStorageSchemaVersion,unsetStill]
    rw [removed,migrate_removed,List.nil_append]
  have through : none ∉ puts (κ := κ) r s.localArea ++ removal r s.localArea := by
    rw [removes]
    simpa using whole
  rw [started,left,started,steps,← List.append_assoc,run_through through]

theorem started_late {s : Storage α κ} (unset : s.localArea.lookup versionKey = none) {cut : Nat}
    (late : (puts (κ := κ) r s.localArea).length < cut) :
    view (started r (interrupted r s cut)) = view (started r s) := by
  have steps := steps_unversioned (κ := κ) r unset
  have taken : (ensureStorageSchemaVersion r s.localArea).take cut = puts r s.localArea ++
      (removal r s.localArea ++ [setVersion r]).take (cut - (puts (κ := κ) r s.localArea).length) := by
    rw [steps,List.take_append,List.take_of_length_le (by omega)]
  by_cases fails : none ∈ puts (κ := κ) r s.localArea
  · have stopped : interrupted r s cut = interrupted r s (puts (κ := κ) r s.localArea).length := by
      rw [interrupted,taken,run_stops fails,interrupted,steps,List.take_left]
    rw [stopped]
    exact started_early r unset (Nat.le_refl _)
  · obtain ⟨rest,more⟩ : ∃ rest, cut - (puts (κ := κ) r s.localArea).length = rest + 1 :=
      ⟨cut - (puts (κ := κ) r s.localArea).length - 1,by omega⟩
    have ends (first : List (Option (Op α κ))) (through : none ∉ first)
        (all : ensureStorageSchemaVersion r s.localArea = first ++ [setVersion r])
        (cutAll : (ensureStorageSchemaVersion r s.localArea).take cut = first ++ [setVersion r]) :
        view (started r (interrupted r s cut)) = view (started r s) := by
      rw [interrupted,cutAll,ended_current r through,started,all]
    rcases removal_cases (κ := κ) r s.localArea with nothing | removes
    · apply ends _ fails
      · rw [steps,nothing,List.nil_append]
      · rw [taken,nothing,more]
        simp
    · cases rest with
      | zero =>
        have stopped : interrupted r s cut = run (puts r s.localArea ++ removal r s.localArea) s := by
          rw [interrupted,taken,more,removes]
          rfl
        rw [stopped,started_removed r unset fails removes]
      | succ rest =>
        apply ends (puts r s.localArea ++ removal r s.localArea)
        · rw [removes]
          simpa using fails
        · rw [steps,List.append_assoc]
        · rw [taken,more,removes]
          simp

theorem started_interrupted (cut : Nat) (s : Storage α κ) :
    view (started r (interrupted r s cut)) = view (started r s) := by
  cases version : s.localArea.lookup versionKey with
  | none =>
    by_cases early : cut ≤ (puts (κ := κ) r s.localArea).length
    · exact started_early r version early
    · exact started_late r version (by omega)
  | some stored =>
    by_cases current : r.isCurrent stored = true
    · have same : interrupted r s cut = s := by
        simp [interrupted,ensureStorageSchemaVersion,version,current,run]
      rw [same]
    · have steps : ensureStorageSchemaVersion (κ := κ) r s.localArea = [setVersion r] := by
        simp [ensureStorageSchemaVersion,version,current]
      cases cut with
      | zero => rfl
      | succ cut =>
        have through : interrupted r s (cut + 1) = run ([] ++ [setVersion r]) s := by
          rw [interrupted,steps]
          simp
        rw [through,ended_current r (by simp),started,steps]
        rfl

/-- However often a start is interrupted, and at whatever point each time, the storage of the start that comes to its
    end is that of a start which was never interrupted. -/
theorem migration_survives_interruptions (cuts : List Nat) (s : Storage α κ) :
    view (started r (cuts.foldl (interrupted r) s)) = view (started r s) := by
  induction cuts generalizing s with
  | nil => rfl
  | cons cut cuts ih =>
    rw [List.foldl_cons,ih]
    exact started_interrupted r cut s

end Interruptions

end FFWebHid.StorageMigration
