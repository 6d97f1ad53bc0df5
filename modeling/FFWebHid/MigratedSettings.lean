import Mathlib.Data.List.Induction
import Mathlib.Data.List.ReduceOption
import FFWebHid.StorageMigration

/-! What the add-on reads after the migration: its settings, its sites' settings and its grants are those of before, and
of the old entries nothing is left. -/

namespace FFWebHid.MigratedSettings
open FFWebHid.Maps FFWebHid.SettingsKeys FFWebHid.WriteLogs FFWebHid.StorageMigration

variable {α κ : Type} [DecidableEq κ] (r : Readings α κ)

/-- A storage from before the migration, whose values raise no exception. -/
structure Migratable (r : Readings α κ) (s : Storage α κ) : Prop where
  unset : s.localArea.lookup versionKey = none
  whole : none ∉ puts (κ := κ) r s.localArea

omit [DecidableEq κ] in
theorem log_append {first : List (Option (Op α κ))} (whole : none ∉ first) (second : List (Option (Op α κ))) :
    log (first ++ second) = log first ++ log second := by
  induction first with
  | nil => rfl
  | cons step rest ih =>
    cases step with
    | none => simp at whole
    | some op =>
      have later := ih (by simpa using whole)
      simp only [log,List.cons_append,performed,List.flatMap_cons,List.append_assoc] at later ⊢
      rw [later]

omit [DecidableEq κ] in
theorem mem_log {steps : List (Option (Op α κ))} {w : Write (Location κ) (Content α κ)} (member : w ∈ log steps) :
    ∃ op, some op ∈ steps ∧ w ∈ op.writes := by
  obtain ⟨op,listed,written⟩ := List.mem_flatMap.mp member
  refine ⟨op,?_,written⟩
  induction steps with
  | nil => simp [performed] at listed
  | cons step rest ih =>
    cases step with
    | none => simp [performed] at listed
    | some first =>
      rcases List.mem_cons.mp listed with rfl | later
      · exact List.mem_cons_self
      · exact List.mem_cons_of_mem _ (ih (List.mem_flatMap.mpr ⟨op,later,written⟩) later)

omit [DecidableEq κ] in
/-- Without an exception everything that is listed is done. -/
theorem log_mem {steps : List (Option (Op α κ))} (whole : none ∉ steps) {op : Op α κ} (listed : some op ∈ steps)
    {w : Write (Location κ) (Content α κ)} (written : w ∈ op.writes) : w ∈ log steps := by
  obtain ⟨first,rest,rfl⟩ := List.append_of_mem listed
  have wholeFirst : none ∉ first := fun found => whole (List.mem_append_left _ found)
  rw [log_append wholeFirst]
  apply List.mem_append_right
  simp only [log,performed,List.flatMap_cons]
  exact List.mem_append_left _ written

/-- The transactions of the database. -/
def dbSteps (raw : LocalArea α) : List (Option (Op α κ)) :=
  (migrateDeviceInfoEntries r (allEntries raw)).1 ++ (migrateOriginEntries r (allEntries raw)).1

/-- The settings that are written. -/
def patch (raw : LocalArea α) : List (String × α) :=
  ((migrateSiteEntries r (allEntries raw)).map Prod.fst).getD [] ++ (migrateGlobalEntries raw).1

def patchLog (raw : LocalArea α) : List (Write (Location κ) (Content α κ)) :=
  (patch r raw).map (fun entry => (.setting entry.1,some (.value entry.2)))

def removalLog (raw : LocalArea α) : List (Write (Location κ) (Content α κ)) :=
  (legacyKeys (κ := κ) r raw).map (fun key => (.setting key,none))

theorem view_started {s : Storage α κ} (old : Migratable r s) :
    view (started r s) = apply (log (dbSteps r s.localArea) ++ patchLog r s.localArea ++ removalLog r s.localArea ++
      [(.setting versionKey,some (.value r.storageSchemaVersion))]) (view s) := by
  have ⟨unset,whole⟩ := old
  have wholeDb : none ∉ dbSteps (κ := κ) r s.localArea := by
    intro found
    exact whole (List.mem_append_left _ found)
  cases site : migrateSiteEntries r (allEntries s.localArea) with
  | none =>
    exfalso
    apply whole
    apply List.mem_append_right
    simp [site]
  | some found =>
    have putsLog : log (puts (κ := κ) r s.localArea) = log (dbSteps r s.localArea) ++ patchLog r s.localArea := by
      have split : puts (κ := κ) r s.localArea = dbSteps r s.localArea ++
          (if (patch r s.localArea).isEmpty then [] else [some (.setLocal (patch r s.localArea))]) := by
        simp [puts,dbSteps,patch,site]
      rw [split,log_append wholeDb]
      by_cases empty : (patch r s.localArea).isEmpty = true
      · have none : patch r s.localArea = [] := by simpa using empty
        simp [none,log,performed,patchLog]
      · rw [if_neg empty]
        simp [log,performed,Op.writes,patchLog]
    have removes : log (removal (κ := κ) r s.localArea) = removalLog r s.localArea := by
      have split : removal (κ := κ) r s.localArea = if (legacyKeys (κ := κ) r s.localArea).isEmpty then [] else
          [some (.removeLocal (legacyKeys (κ := κ) r s.localArea))] := by
        simp [removal,site]
      rw [split]
      by_cases empty : (legacyKeys (κ := κ) r s.localArea).isEmpty = true
      · have none : legacyKeys (κ := κ) r s.localArea = [] := by simpa using empty
        simp [none,log,performed,removalLog]
      · rw [if_neg empty]
        simp [log,performed,Op.writes,removalLog]
    have wholeRemoval : none ∉ removal (κ := κ) r s.localArea := by
      rcases removal_cases (κ := κ) r s.localArea with nothing | removes
      · simp [nothing]
      · simp [removes]
    rw [started,view_run,steps_unversioned r unset,log_append whole,putsLog,log_append wholeRemoval,removes]
    simp [log,performed,setVersion,Op.writes]

omit [DecidableEq κ] in
theorem db_setting {raw : LocalArea α} {key : String} :
    (.setting key : Location κ) ∉ (log (dbSteps r raw)).map Prod.fst := by
  intro named
  obtain ⟨w,member,location⟩ := List.mem_map.mp named
  obtain ⟨op,listed,written⟩ := mem_log member
  rcases List.mem_append.mp listed with device | origin
  · obtain ⟨entry,_,made⟩ := List.mem_map.mp device
    obtain ⟨k,_,rfl⟩ := Option.map_eq_some_iff.mp made
    simp only [Op.writes,List.mem_singleton] at written
    subst written
    cases location
  · obtain ⟨entry,_,made⟩ := List.mem_flatMap.mp origin
    simp only [originOps,List.mem_cons,Option.some.injEq] at made
    rcases made with rfl | other
    · obtain ⟨pair,_,rfl⟩ := List.mem_map.mp written
      cases location
    · split at other <;> simp at other

/-- A setting that is neither old nor the version is what the patch makes of it. -/
theorem setting_after {s : Storage α κ} (old : Migratable r s) {key : String} (version : key ≠ versionKey)
    (kept : key ∉ legacyKeys (κ := κ) r s.localArea) :
    view (started r s) (.setting key) = apply (patchLog r s.localArea) (view s) (.setting key) := by
  have unversioned : (.setting key : Location κ) ∉
      [((.setting versionKey : Location κ),some (Content.value (κ := κ) r.storageSchemaVersion))].map Prod.fst := by
    simpa using version
  have unremoved : (.setting key : Location κ) ∉ (removalLog (κ := κ) r s.localArea).map Prod.fst := by
    simpa [removalLog] using kept
  rw [view_started r old,apply_append,apply_other unversioned,apply_append,apply_other unremoved,apply_append]
  by_cases patched : (.setting key : Location κ) ∈ (patchLog (κ := κ) r s.localArea).map Prod.fst
  · exact apply_named patched _ _
  · rw [apply_other patched,apply_other patched,apply_other (db_setting r)]

omit [DecidableEq κ] in
/-- An old key is stored, and is that of a device, an origin, a site or a setting. -/
theorem mem_legacyKeys {raw : LocalArea α} {key : String} (legacy : key ∈ legacyKeys (κ := κ) r raw) :
    (∃ value, raw.lookup key = some value) ∧ (startsWith key "deviceInfo:" = true ∨ isKnownKey key = false ∨
      startsWith key "site:" = true ∨ key ∈ settingNames) := by
  rcases List.mem_append.mp legacy with early | late
  · rcases List.mem_append.mp early with device | origin
    · obtain ⟨value,stored,picked⟩ := (mem_filter_keys (p := fun key => startsWith key "deviceInfo:")).mp device
      exact ⟨⟨value,stored⟩,.inl picked⟩
    · obtain ⟨found,member,rfl⟩ := List.mem_map.mp origin
      obtain ⟨⟨key,value⟩,inArea,picked⟩ := List.mem_filterMap.mp member
      obtain ⟨unknown,_,same⟩ := originEntry_eq r picked
      rw [same]
      exact ⟨⟨value,mem_allEntries.mp inArea⟩,.inr (.inl unknown)⟩
  · rcases List.mem_append.mp late with site | name
    · obtain ⟨value,stored,picked⟩ := (mem_filter_keys (p := fun key => startsWith key "site:")).mp site
      exact ⟨⟨value,stored⟩,.inr (.inr (.inl picked))⟩
    · obtain ⟨entry,member,rfl⟩ := List.mem_map.mp name
      obtain ⟨setting,listed,found⟩ := List.mem_filterMap.mp member
      obtain ⟨value,stored,rfl⟩ := Option.map_eq_some_iff.mp found
      exact ⟨⟨value,stored⟩,.inr (.inr (.inr listed))⟩

omit [DecidableEq κ] in
theorem legacy_not_today {raw : LocalArea α} {key : String} (legacy : key ∈ legacyKeys (κ := κ) r raw) :
    isToday key = false := by
  by_contra today
  have today : isToday key = true := by simpa using today
  obtain ⟨noInfo,noSite,noName,_⟩ := today_plain today
  rcases (mem_legacyKeys r legacy).2 with device | unknown | site | name
  · rw [noInfo] at device
    cases device
  · rw [today_known today] at unknown
    cases unknown
  · rw [noSite] at site
    cases site
  · exact noName name

omit [DecidableEq κ] in
/-- Where an entry of the patch comes from. -/
theorem mem_patch {raw : LocalArea α} {entry : String × α} (member : entry ∈ patch r raw) :
    (∃ key value fields field, raw.lookup key = some value ∧ startsWith key "site:" = true ∧
      r.entries value = some fields ∧ field ∈ fields ∧
          entry = (siteSettingKey (sliceAfter key "site:") field.1,field.2)) ∨
    ∃ name ∈ settingNames, ∃ value, raw.lookup name = some value ∧ entry = (globalSettingKey name,value) := by
  rcases List.mem_append.mp member with site | named
  · left
    unfold migrateSiteEntries at site
    simp only at site
    split at site
    · obtain ⟨⟨key,value⟩,listed,patched⟩ := List.mem_flatMap.mp site
      obtain ⟨inArea,picked⟩ := List.mem_filter.mp listed
      cases fields : r.entries value with
      | none => simp [sitePatch,fields] at patched
      | some own =>
        simp only [sitePatch,fields,Option.map_some,Option.getD_some,List.mem_map] at patched
        obtain ⟨field,ofFields,rfl⟩ := patched
        exact ⟨key,value,own,field,mem_allEntries.mp inArea,picked,fields,ofFields,rfl⟩
    · simp at site
  · right
    obtain ⟨⟨name,value⟩,listed,rfl⟩ := List.mem_map.mp named
    obtain ⟨setting,known,found⟩ := List.mem_filterMap.mp listed
    obtain ⟨v,stored,same⟩ := Option.map_eq_some_iff.mp found
    cases same
    exact ⟨name,known,value,stored,rfl⟩

omit [DecidableEq κ] in
theorem global_mem_patch {raw : LocalArea α} {name : String} {value : α} (known : name ∈ settingNames)
    (stored : raw.lookup name = some value) : (globalSettingKey name,value) ∈ patch r raw := by
  apply List.mem_append_right
  apply List.mem_map.mpr
  exact ⟨(name,value),List.mem_filterMap.mpr ⟨name,known,by rw [stored]; rfl⟩,rfl⟩

omit [DecidableEq κ] in
theorem startsWith_append (beginning rest : String) : startsWith (beginning ++ rest) beginning = true := by
  rw [startsWith,List.isPrefixOf_iff_prefix,String.toList_append]
  exact List.prefix_append _ _

theorem sliceAfter_append (beginning rest : String) : sliceAfter (beginning ++ rest) beginning = rest := by
  have behind : (beginning ++ rest).toList.drop beginning.length = rest.toList := by
    rw [String.toList_append]
    exact List.drop_left
  rw [sliceAfter,behind,String.ofList_toList]

omit [DecidableEq κ] in
theorem site_mem_patch {s : Storage α κ} (old : Migratable r s) {origin : String} {value : α} {fields : List (String × α)}
    {field : String × α} (stored : s.localArea.lookup ("site:" ++ origin) = some value)
        (own : r.entries value = some fields)
    (listed : field ∈ fields) : (siteSettingKey origin field.1,field.2) ∈ patch r s.localArea := by
  apply List.mem_append_left
  cases site : migrateSiteEntries r (allEntries s.localArea) with
  | none =>
    exfalso
    apply old.whole
    apply List.mem_append_right
    simp [site]
  | some found =>
    unfold migrateSiteEntries at site
    simp only at site
    split at site
    · cases site
      apply List.mem_flatMap.mpr
      refine ⟨("site:" ++ origin,value),List.mem_filter.mpr ⟨mem_allEntries.mpr stored,startsWith_append _ _⟩,?_⟩
      simp only [sitePatch,own,Option.map_some,Option.getD_some,sliceAfter_append]
      exact List.mem_map.mpr ⟨field,listed,rfl⟩
    · cases site

/-- What the patch leaves at a setting, if all its entries for it agree. -/
theorem patched {raw : LocalArea α} {key : String} {value : α} {v : Store (Location κ) (Content α κ)}
    (only : ∀ entry ∈ patch r raw, entry.1 = key → entry.2 = value) (named : (key,value) ∈ patch r raw) :
    apply (patchLog r raw) v (.setting key) = some (.value value) := by
  apply apply_only
  · intro w member location
    obtain ⟨entry,listed,rfl⟩ := List.mem_map.mp member
    cases location
    rw [only entry listed rfl]
  · exact List.mem_map.mpr ⟨_,List.mem_map.mpr ⟨_,named,rfl⟩,rfl⟩

theorem unpatched {raw : LocalArea α} {key : String} {v : Store (Location κ) (Content α κ)}
    (unnamed : ∀ entry ∈ patch r raw, entry.1 ≠ key) : apply (patchLog r raw) v (.setting key) = v (.setting key) := by
  apply apply_other
  intro found
  obtain ⟨w,member,location⟩ := List.mem_map.mp found
  obtain ⟨entry,listed,rfl⟩ := List.mem_map.mp member
  cases location
  exact unnamed entry listed rfl

theorem site_ne_global {origin name setting : String} (unspaced : Unspaced setting) :
    siteSettingKey origin name ≠ globalSettingKey setting := by
  intro same
  have text := congrArg String.toList same
  simp only [siteSettingKey,globalSettingKey,String.toList_append,List.append_assoc,List.append_cancel_left_eq] at text
  apply unspaced
  rw [← text]
  simp

theorem global_injective {name other : String} (same : globalSettingKey name = globalSettingKey other) :
    name = other := by
  simpa [globalSettingKey] using same

/-- A site's key of today has no other reading: it has no more blanks than those around its colons. -/
theorem site_injective {origin name other setting : String} (first : Unspaced origin) (second : Unspaced name)
    (same : siteSettingKey other setting = siteSettingKey origin name) : other = origin ∧ setting = name := by
  have text := congrArg (fun key => key.toList.count ' ') same
  simp only [siteSettingKey,String.toList_append,List.count_append] at text
  have none : origin.toList.count ' ' = 0 ∧ name.toList.count ' ' = 0 :=
    ⟨List.count_eq_zero.mpr first,List.count_eq_zero.mpr second⟩
  have noOrigin : Unspaced other := List.count_eq_zero.mp (by omega)
  have noName : Unspaced setting := List.count_eq_zero.mp (by omega)
  have parsed := parse_site noOrigin noName
  rw [same,parse_site first second] at parsed
  cases parsed
  exact ⟨rfl,rfl⟩

theorem lookup_of_view {s : Storage α κ} {key : String} {found : Option α}
    (seen : view s (.setting key) = found.map .value) : s.localArea.lookup key = found := by
  have injective : Function.Injective (Option.map (Content.value (α := α) (κ := κ))) :=
    Option.map_injective (fun _ _ same => by cases same; rfl)
  exact injective seen

/-- A global setting is the old one, and where there was none what it was. -/
theorem global_after {s : Storage α κ} (old : Migratable r s) {name : String} (known : name ∈ settingNames) :
    (started r s).localArea.lookup (globalSettingKey name) =
      (s.localArea.lookup name <|> s.localArea.lookup (globalSettingKey name)) := by
  have unspaced := settingNames_unspaced name known
  have today := globalSettingKey_today name
  have kept : globalSettingKey name ∉ legacyKeys (κ := κ) r s.localArea := by
    intro legacy
    rw [legacy_not_today r legacy] at today
    cases today
  apply lookup_of_view
  rw [setting_after r old (today_plain today).2.2.2 kept]
  cases stored : s.localArea.lookup name with
  | some value =>
    apply patched r _ (global_mem_patch r known stored)
    intro entry member same
    rcases mem_patch r member with ⟨_,_,_,_,_,_,_,_,rfl⟩ | ⟨other,_,v,found,rfl⟩
    · exact absurd same (site_ne_global unspaced)
    · cases global_injective same
      rw [stored] at found
      cases found
      rfl
  | none =>
    apply unpatched
    intro entry member same
    rcases mem_patch r member with ⟨_,_,_,_,_,_,_,_,rfl⟩ | ⟨other,_,v,found,rfl⟩
    · exact absurd same (site_ne_global unspaced)
    · cases global_injective same
      rw [stored] at found
      cases found

/-- The setting that an old entry of a site has. -/
def oldSiteSetting (raw : LocalArea α) (origin name : String) : Option α :=
  (raw.lookup ("site:" ++ origin)).bind (fun value =>
    (((r.entries value).getD []).find? (·.1 = name)).map Prod.snd)

theorem site_key {key : String} (ofSite : startsWith key "site:" = true) : key = "site:" ++ sliceAfter key "site:" := by
  obtain ⟨rest,text⟩ := List.isPrefixOf_iff_prefix.mp ofSite
  have whole : key = "site:" ++ String.ofList rest := by
    apply String.toList_injective
    rw [String.toList_append,String.toList_ofList (l := rest)]
    exact text.symm
  rw [whole,sliceAfter_append]

/-- What a site overrides is what its old entry says, and what it overrode where the old one does not say. -/
theorem site_after {s : Storage α κ} (old : Migratable r s) {origin name : String} (unspacedOrigin : Unspaced origin)
    (unspaced : Unspaced name) :
    (started r s).localArea.lookup (siteSettingKey origin name) =
      (oldSiteSetting r s.localArea origin name <|> s.localArea.lookup (siteSettingKey origin name)) := by
  have today := siteSettingKey_today origin name
  have kept : siteSettingKey origin name ∉ legacyKeys (κ := κ) r s.localArea := by
    intro legacy
    rw [legacy_not_today r legacy] at today
    cases today
  have source {entry : String × α} (member : entry ∈ patch r s.localArea) (same : entry.1 = siteSettingKey origin name) :
      ∃ value fields, s.localArea.lookup ("site:" ++ origin) = some value ∧ r.entries value = some fields ∧
        (name,entry.2) ∈ fields := by
    rcases mem_patch r member with ⟨key,value,fields,field,stored,ofSite,own,listed,rfl⟩ | ⟨other,known,_,_,rfl⟩
    · obtain ⟨sameOrigin,sameName⟩ := site_injective unspacedOrigin unspaced same
      rw [site_key ofSite,sameOrigin] at stored
      refine ⟨value,fields,stored,own,?_⟩
      rw [← sameName]
      exact listed
    · exact absurd same.symm (site_ne_global (settingNames_unspaced other known))
  apply lookup_of_view
  rw [setting_after r old (today_plain today).2.2.2 kept]
  cases found : oldSiteSetting r s.localArea origin name with
  | some value =>
    obtain ⟨entry,stored,picked⟩ := Option.bind_eq_some_iff.mp found
    obtain ⟨field,first,rfl⟩ := Option.map_eq_some_iff.mp picked
    have named : field.1 = name := by simpa using List.find?_some first
    cases own : r.entries entry with
    | none => simp [own] at first
    | some fields =>
      rw [own] at first
      have listed : field ∈ fields := List.mem_of_find?_eq_some first
      apply patched
      · intro other member same
        obtain ⟨value,found,stored',own',also⟩ := source member same
        rw [stored] at stored'
        cases stored'
        rw [own] at own'
        cases own'
        have distinct := r.distinct entry fields own
        have same := List.inj_on_of_nodup_map distinct also listed named.symm
        have second := congrArg Prod.snd same
        exact second
      · rw [← named]
        exact site_mem_patch r old stored own listed
  | none =>
    apply unpatched
    intro entry member same
    obtain ⟨value,fields,stored,own,listed⟩ := source member same
    have nothing : fields.find? (·.1 = name) = none := by
      simpa [oldSiteSetting,stored,own] using found
    have other := List.find?_eq_none.mp nothing _ listed
    simp at other

omit [DecidableEq κ] in
/-- Where a grant that is written comes from. -/
theorem mem_grants {raw : LocalArea α} {origin : String} {key : κ} {content : Option (Content α κ)}
    (member : (.origin origin key,content) ∈ log (dbSteps r raw)) :
    content = some .allowed ∧ ∃ name items, ∃ item ∈ items, (∃ value, raw.lookup name = some value ∧
      originEntry r (name,value) = some (name,items)) ∧ origin = (r.decodeURIComponent name).getD name ∧
      r.number item = some key := by
  obtain ⟨op,listed,written⟩ := mem_log member
  rcases List.mem_append.mp listed with device | grants
  · obtain ⟨entry,_,made⟩ := List.mem_map.mp device
    obtain ⟨_,_,rfl⟩ := Option.map_eq_some_iff.mp made
    simp [Op.writes] at written
  · obtain ⟨⟨name,items⟩,found,made⟩ := List.mem_flatMap.mp grants
    obtain ⟨⟨stored,value⟩,inArea,picked⟩ := List.mem_filterMap.mp found
    obtain ⟨_,_,same⟩ := originEntry_eq r picked
    simp only at same
    subst same
    simp only [originOps,List.mem_cons,Option.some.injEq] at made
    rcases made with rfl | other
    · obtain ⟨⟨o,k⟩,numbers,same⟩ := List.mem_map.mp written
      obtain ⟨number,taken,both⟩ := List.mem_map.mp numbers
      cases same
      cases both
      have inNumbers := (List.takeWhile_prefix _).subset (List.reduceOption_mem_iff.mp taken)
      obtain ⟨item,listed,number⟩ := List.mem_map.mp inNumbers
      exact ⟨rfl,name,items,item,listed,⟨value,mem_allEntries.mp inArea,picked⟩,rfl,number⟩
    · split at other <;> simp at other

omit [DecidableEq κ] in
theorem grant_mem {s : Storage α κ} (old : Migratable r s) {name : String} {value item : α} {items : List α} {key : κ}
    (stored : s.localArea.lookup name = some value) (picked : originEntry r (name,value) = some (name,items))
    (listed : item ∈ items) (number : r.number item = some key) :
    (.origin ((r.decodeURIComponent name).getD name) key,some .allowed) ∈ log (dbSteps r s.localArea) := by
  have wholeDb : none ∉ dbSteps (κ := κ) r s.localArea := by
    intro found
    exact old.whole (List.mem_append_left _ found)
  have inGrants {op : Option (Op α κ)} (made : op ∈ originOps r (name,items)) : op ∈ dbSteps r s.localArea := by
    apply List.mem_append_right
    apply List.mem_flatMap.mpr
    exact ⟨(name,items),List.mem_filterMap.mpr ⟨(name,value),mem_allEntries.mpr stored,picked⟩,made⟩
  have all : (items.map r.number).takeWhile Option.isSome = items.map r.number := by
    apply List.IsPrefix.eq_of_length_le (List.takeWhile_prefix _)
    by_contra short
    rw [List.length_map] at short
    apply wholeDb
    apply inGrants
    simp only [originOps]
    rw [if_pos (by omega)]
    simp
  apply log_mem wholeDb (inGrants List.mem_cons_self)
  rw [all]
  apply List.mem_map.mpr
  refine ⟨((r.decodeURIComponent name).getD name,key),List.mem_map.mpr ⟨key,?_,rfl⟩,rfl⟩
  exact List.reduceOption_mem_iff.mpr (List.mem_map.mpr ⟨item,listed,number⟩)

/-- Past the transactions nothing is done to the database. -/
theorem database_after {s : Storage α κ} (old : Migratable r s) (location : Location κ)
    (database : ∀ key, location ≠ .setting key) :
    view (started r s) location = apply (log (dbSteps r s.localArea)) (view s) location := by
  have noVersion : location ∉
      [((.setting versionKey : Location κ),some (Content.value (κ := κ) r.storageSchemaVersion))].map Prod.fst := by
    simpa using database versionKey
  have noRemoval : location ∉ (removalLog (κ := κ) r s.localArea).map Prod.fst := by
    intro found
    obtain ⟨w,member,rfl⟩ := List.mem_map.mp found
    obtain ⟨key,_,rfl⟩ := List.mem_map.mp member
    exact database key rfl
  have noPatch : location ∉ (patchLog (κ := κ) r s.localArea).map Prod.fst := by
    intro found
    obtain ⟨w,member,rfl⟩ := List.mem_map.mp found
    obtain ⟨entry,_,rfl⟩ := List.mem_map.mp member
    exact database entry.1 rfl
  rw [view_started r old,apply_append,apply_other noVersion,apply_append,apply_other noRemoval,apply_append,
    apply_other noPatch]

/-- An old entry that allows an origin the device of that number. -/
def OldGrant (raw : LocalArea α) (origin : String) (key : κ) : Prop :=
  ∃ name value items, ∃ item ∈ items, raw.lookup name = some value ∧ originEntry r (name,value) = some (name,items) ∧
    origin = (r.decodeURIComponent name).getD name ∧ r.number item = some key

theorem grant_after {s : Storage α κ} (old : Migratable r s) (origin : String) (key : κ) :
    (started r s).origins.lookup (origin,key) = some () ↔
      s.origins.lookup (origin,key) = some () ∨ OldGrant r s.localArea origin key := by
  have after := database_after r old (.origin origin key) (by simp)
  have seen (storage : Storage α κ) : storage.origins.lookup (origin,key) = some () ↔
      view storage (.origin origin key) = some .allowed := by
    simp only [view,Option.map_eq_some_iff,and_true]
    constructor
    · intro found
      exact ⟨(),found⟩
    · rintro ⟨_,found⟩
      exact found
  rw [seen,seen,after]
  by_cases named : (.origin origin key : Location κ) ∈ (log (dbSteps r s.localArea)).map Prod.fst
  · have allowed : apply (log (dbSteps r s.localArea)) (view s) (.origin origin key) = some .allowed := by
      apply apply_only _ named
      rintro ⟨_,content⟩ member location
      cases location
      exact (mem_grants r member).1
    simp only [allowed,true_iff]
    obtain ⟨⟨_,content⟩,member,location⟩ := List.mem_map.mp named
    cases location
    obtain ⟨_,name,items,item,listed,⟨value,stored,picked⟩,decoded,number⟩ := mem_grants r member
    exact .inr ⟨name,value,items,item,listed,stored,picked,decoded,number⟩
  · rw [apply_other named]
    constructor
    · exact .inl
    · rintro (before | ⟨name,value,items,item,listed,stored,picked,rfl,number⟩)
      · exact before
      · exact absurd (List.mem_map.mpr ⟨_,grant_mem r old stored picked listed number,rfl⟩) named

/-- The record that an old entry makes for a key. -/
def recordFor (key : κ) (entry : String × α) : Option (Record α κ) :=
  match recordOp r entry with
  | some (.putDevice own record) => if own = key then some record else none
  | _ => none

/-- The last one of the old entries counts. -/
def oldRecord (raw : LocalArea α) (key : κ) : Option (Record α κ) :=
  ((allEntries raw).filter isDeviceInfoEntry).reverse.findSome? (recordFor r key)

theorem records_log {found : List (String × α)} (whole : none ∉ found.map (recordOp r)) (key : κ)
    (v : Store (Location κ) (Content α κ)) : apply (log (found.map (recordOp r))) v (.device key) =
      ((found.reverse.findSome? (recordFor r key)).map .record <|> v (.device key)) := by
  induction found using List.reverseRecOn with
  | nil => rfl
  | append_singleton early entry ih =>
    rw [List.map_append,List.mem_append,not_or] at whole
    rw [List.map_append,log_append whole.1,apply_append,List.reverse_append,List.findSome?_append]
    cases made : recordOp r entry with
    | none => simp [made] at whole
    | some op =>
      obtain ⟨own,record,rfl⟩ : ∃ own record, op = .putDevice own record := by
        obtain ⟨own,_,rfl⟩ := Option.map_eq_some_iff.mp made
        exact ⟨own,_,rfl⟩
      have last : log ([entry].map (recordOp r)) = [(.device own,some (.record record))] := by
        simp [log,performed,made,Op.writes]
      have mine : recordFor r key entry = if own = key then some record else none := by
        simp [recordFor,made]
      rw [last,apply_cons,apply_nil]
      by_cases same : own = key
      · simp [mine,same,write]
      · have other : ¬key = own := fun eq => same eq.symm
        have earlier := ih whole.1
        simpa [mine,same,other,write] using earlier

theorem record_after {s : Storage α κ} (old : Migratable r s) (key : κ) :
    (started r s).deviceInfo.lookup key = (oldRecord r s.localArea key <|> s.deviceInfo.lookup key) := by
  have after := database_after r old (.device key) (by simp)
  have whole : none ∉ ((allEntries s.localArea).filter isDeviceInfoEntry).map (recordOp r) := by
    intro found
    exact old.whole (List.mem_append_left _ (List.mem_append_left _ found))
  have noGrant : (.device key : Location κ) ∉ (log (migrateOriginEntries r (allEntries s.localArea)).1).map Prod.fst := by
    intro named
    obtain ⟨w,member,location⟩ := List.mem_map.mp named
    obtain ⟨op,listed,written⟩ := mem_log member
    obtain ⟨entry,_,made⟩ := List.mem_flatMap.mp listed
    simp only [originOps,List.mem_cons,Option.some.injEq] at made
    rcases made with rfl | other
    · obtain ⟨pair,_,rfl⟩ := List.mem_map.mp written
      cases location
    · split at other <;> simp at other
  rw [dbSteps,log_append (by exact whole),apply_append,apply_other noGrant] at after
  have found := after.trans (records_log r whole key _)
  have injective : Function.Injective (Option.map (Content.record (α := α) (κ := κ))) :=
    Option.map_injective (fun _ _ same => by cases same; rfl)
  apply injective
  refine Eq.trans found ?_
  rw [oldRecord]
  cases List.findSome? (recordFor r key) ((allEntries s.localArea).filter isDeviceInfoEntry).reverse with
  | some record => rfl
  | none => rfl

/-! ### The whole -/

/-- An old entry, of a site or of a global setting, says what is to stand at the key. -/
def OldSetting (raw : LocalArea α) (key : String) : Prop :=
  (∃ origin name, oldSiteSetting r raw origin name ≠ none ∧ key = siteSettingKey origin name) ∨
    ∃ name ∈ settingNames, raw.lookup name ≠ none ∧ key = globalSettingKey name

omit [DecidableEq κ] in
theorem oldSetting_of_patch {raw : LocalArea α} {entry : String × α} (member : entry ∈ patch r raw) :
    OldSetting r raw entry.1 := by
  rcases mem_patch r member with ⟨key,value,fields,field,stored,ofSite,own,among,rfl⟩ | ⟨name,known,value,stored,rfl⟩
  · refine .inl ⟨sliceAfter key "site:",field.1,?_,rfl⟩
    rw [oldSiteSetting,← site_key ofSite,stored,Option.bind_some,own,Option.getD_some]
    intro none
    exact List.find?_eq_none.mp (Option.map_eq_none_iff.mp none) field among (decide_eq_true rfl)
  · exact .inr ⟨name,known,by rw [stored]; exact Option.some_ne_none value,rfl⟩

/-- What a migration makes of a storage: what is read from the new one is what the old one said, over what was there of
    today's form already. -/
structure Kept (r : Readings α κ) (s t : Storage α κ) : Prop where
  globals : ∀ globalDefaults, loadGlobalSettings globalDefaults t.localArea = settingNames.map (fun name =>
    (name,(s.localArea.lookup name <|> s.localArea.lookup (globalSettingKey name)).getD (globalDefaults name)))
  sites : ∀ origin, Unspaced origin → loadSiteSettings t.localArea origin = siteSettingNames.filterMap (fun name =>
    (oldSiteSetting r s.localArea origin name <|> s.localArea.lookup (siteSettingKey origin name)).map (name,·))
  grants : ∀ origin key, t.origins.lookup (origin,key) = some () ↔
    s.origins.lookup (origin,key) = some () ∨ OldGrant r s.localArea origin key
  records : ∀ key, t.deviceInfo.lookup key = (oldRecord r s.localArea key <|> s.deviceInfo.lookup key)
  version : t.localArea.lookup versionKey = some r.storageSchemaVersion
  gone : ∀ key ∈ legacyKeys (κ := κ) r s.localArea, t.localArea.lookup key = none
  others : ∀ key ∉ legacyKeys (κ := κ) r s.localArea, ¬ OldSetting r s.localArea key → key ≠ versionKey →
    t.localArea.lookup key = s.localArea.lookup key

theorem version_after {s : Storage α κ} (old : Migratable r s) :
    (started r s).localArea.lookup versionKey = some r.storageSchemaVersion := by
  apply lookup_of_view
  rw [view_started r old,apply_append]
  simp [apply,write]

/-- The version's key is not among the old ones. -/
theorem gone_after {s : Storage α κ} (old : Migratable r s) {key : String}
    (legacy : key ∈ legacyKeys (κ := κ) r s.localArea)
    (version : key ≠ versionKey) : (started r s).localArea.lookup key = none := by
  have unversioned : (.setting key : Location κ) ∉
      [((.setting versionKey : Location κ),some (Content.value (κ := κ) r.storageSchemaVersion))].map Prod.fst := by
    simpa using version
  apply lookup_of_view
  rw [view_started r old,apply_append,apply_other unversioned,apply_append]
  apply apply_only
  · intro w member location
    obtain ⟨other,_,rfl⟩ := List.mem_map.mp member
    rfl
  · exact List.mem_map.mpr ⟨_,List.mem_map.mpr ⟨key,legacy,rfl⟩,rfl⟩

omit [DecidableEq κ] in
theorem version_not_legacy {s : Storage α κ} (unset : s.localArea.lookup versionKey = none) :
    versionKey ∉ legacyKeys (κ := κ) r s.localArea := by
  intro legacy
  obtain ⟨value,stored⟩ := (mem_legacyKeys r legacy).1
  rw [unset] at stored
  cases stored

/-- Whatever the old storage held, if no value of it raises an exception, the add-on reads from the new one what it
    read from the old. -/
theorem migration_keeps_meaning {s : Storage α κ} (old : Migratable r s) : Kept r s (started r s) where
  globals := by
    intro globalDefaults
    apply List.map_congr_left
    intro name known
    rw [global_after r old known]
  sites := by
    intro origin unspaced
    apply List.filterMap_congr
    intro name known
    have listed : name ∈ settingNames := (List.mem_filter.mp known).1
    rw [site_after r old unspaced (settingNames_unspaced name listed)]
  grants := grant_after r old
  records := record_after r old
  version := version_after r old
  gone := by
    intro key legacy
    apply gone_after r old legacy
    rintro rfl
    exact version_not_legacy r old.unset legacy
  others := by
    intro key kept unsaid version
    have other : apply (patchLog r s.localArea) (view s) (.setting key) = view s (.setting key) := by
      apply unpatched
      rintro entry member rfl
      exact unsaid (oldSetting_of_patch r member)
    apply lookup_of_view
    rw [setting_after r old version kept,other]
    rfl

/-- Stored values of the old versions: numbers, lists of them and objects of them. -/
inductive Stored where
  | number (n : Nat)
  | array (items : List Nat)
  | object (fields : List (String × Nat))
  deriving DecidableEq,Repr

def Stored.fields : Stored → List (String × Stored)
  | .number _ => []
  | .array items => items.zipIdx.map (fun item => (toString item.2,.number item.1))
  | .object fields => fields.map (fun field => (field.1,.number field.2))

def storedReadings : Readings Stored Nat where
  array := fun
    | .array items => some (items.map .number)
    | _ => none
  entries value := if (value.fields.map Prod.fst).Nodup then some value.fields else none
  distinct := by
    intro value fields own
    split at own
    · cases own
      assumption
    · cases own
  number := fun
    | .number n => some n
    | _ => none
  numberOfText text := if text.toList.all Char.isDigit then
    some (text.toList.foldl (fun n c => n * 10 + (c.toNat - '0'.toNat)) 0) else none
  key := fun
    | .number n => some n
    | _ => none
  decodeURIComponent text := if '%' ∈ text.toList then none else some text
  isCurrent value := value = .number 1
  storageSchemaVersion := .number 1
  current := by decide

def oldStorage : Storage Stored Nat where
  localArea := [("useWorker",.number 0),("site:https://a.example",.object [("logLevel",2)]),
    ("deviceInfo:7",.object [("vendorId",4660)]),("https://a.example",.array [7])].foldl
      (fun area entry => area.insert entry.1 entry.2) ∅
  deviceInfo := ∅
  origins := ∅

theorem old_settings_kept : Kept storedReadings oldStorage (started storedReadings oldStorage) :=
  migration_keeps_meaning storedReadings ⟨by decide +kernel,by decide +kernel⟩

end FFWebHid.MigratedSettings
