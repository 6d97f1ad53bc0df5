import FFWebHid.Maps

/-! The keys of the settings in the local storage area and the settings read through them. -/

namespace FFWebHid.SettingsKeys
open FFWebHid.Maps

section Split

/-- `text.split(separator)` of a text with at least one character, after `done` in the current part; `skip` counts the
    characters of a separator that are still to be passed over. -/
def splitAt (separator : List Char) : Nat → List Char → List Char → List (List Char)
  | _, done, [] => [done.reverse]
  | skip + 1, done, _ :: rest => splitAt separator skip done rest
  | 0, done, c :: rest =>
    if separator.isPrefixOf (c :: rest) then done.reverse :: splitAt separator (separator.length - 1) [] rest
    else splitAt separator 0 (c :: done) rest

def split (text separator : String) : List String :=
  (splitAt separator.toList 0 [] text.toList).map String.ofList

variable {first : Char} {separator : List Char}

theorem splitAt_skip (separator skipped rest done : List Char) :
    splitAt separator skipped.length done (skipped ++ rest) = splitAt separator 0 done rest := by
  induction skipped with
  | nil => rfl
  | cons c skipped ih => simpa [splitAt] using ih

/-- A part in which the separator's first character does not occur is passed whole. -/
theorem splitAt_free {part : List Char} (free : first ∉ part) (done rest : List Char) :
    splitAt (first :: separator) 0 done (part ++ rest) = splitAt (first :: separator) 0 (part.reverse ++ done) rest := by
  induction part generalizing done with
  | nil => rfl
  | cons c part ih =>
    simp only [List.mem_cons,not_or] at free
    have other : (first :: separator).isPrefixOf (c :: (part ++ rest)) = false := by
      simp [List.isPrefixOf,free.1]
    rw [List.cons_append,splitAt,other]
    simpa using ih free.2 (c :: done)

theorem splitAt_separator (done rest : List Char) :
    splitAt (first :: separator) 0 done (first :: separator ++ rest) =
      done.reverse :: splitAt (first :: separator) 0 [] rest := by
  have here : (first :: separator).isPrefixOf (first :: (separator ++ rest)) = true := by
    rw [List.isPrefixOf_iff_prefix,← List.cons_append]
    exact List.prefix_append _ _
  rw [List.cons_append,splitAt,here,if_pos rfl]
  simpa using splitAt_skip (first :: separator) separator rest []

theorem splitAt_last {part : List Char} (free : first ∉ part) :
    splitAt (first :: separator) 0 [] part = [part] := by
  have whole : splitAt (first :: separator) 0 [] (part ++ []) = splitAt (first :: separator) 0 (part.reverse ++ []) [] :=
    splitAt_free free [] []
  simpa [splitAt] using whole

theorem splitAt_part {part : List Char} (free : first ∉ part) (rest : List Char) :
    splitAt (first :: separator) 0 [] (part ++ (first :: separator ++ rest)) =
      part :: splitAt (first :: separator) 0 [] rest := by
  rw [splitAt_free free,splitAt_separator]
  simp

end Split

def settingNames : List String :=
  ["dataPlane","logLevel","daemonAsNmHost","hidePageAction","devicePickerMode","workerPolyfillEnabled",
    "workerSpawnMode","useWorker","allowActivationlessRequestDevice"]

/-- The settings a site can override. -/
def siteSettingNames : List String := settingNames.filter (fun n => n != "daemonAsNmHost" && n != "hidePageAction")

def globalSettingKey (name : String) : String := "settings :: " ++ name
def siteSettingKey (origin name : String) : String := "settings :: " ++ origin ++ " :: " ++ name

inductive SettingsKey where
  | global (name : String)
  | site (origin name : String)
  deriving DecidableEq,Repr

def parseSettingsKey (key : String) : Option SettingsKey :=
  match split key " :: " with
  | [scope,name] => if scope = "settings" then some (.global name) else none
  | [scope,origin,name] => if scope = "settings" then some (.site origin name) else none
  | _ => none

/-- Neither the names of settings nor origins have blanks. -/
def Unspaced (text : String) : Prop := ' ' ∉ text.toList

instance (text : String) : Decidable (Unspaced text) := inferInstanceAs (Decidable (¬_))

theorem settingNames_unspaced : ∀ name ∈ settingNames, Unspaced name := by decide

theorem split_site {origin name : String} (unspacedOrigin : Unspaced origin) (unspaced : Unspaced name) :
    split (siteSettingKey origin name) " :: " = ["settings",origin,name] := by
  have separator : " :: ".toList = ' ' :: [':',':',' '] := by decide
  have text : (siteSettingKey origin name).toList =
      "settings".toList ++ (' ' :: [':',':',' '] ++ (origin.toList ++ (' ' :: [':',':',' '] ++ name.toList))) := by
    simp [siteSettingKey]
  rw [split,separator,text,splitAt_part (by decide),splitAt_part unspacedOrigin,splitAt_last unspaced]
  simp

theorem parse_site {origin name : String} (unspacedOrigin : Unspaced origin) (unspaced : Unspaced name) :
    parseSettingsKey (siteSettingKey origin name) = some (.site origin name) := by
  rw [parseSettingsKey,split_site unspacedOrigin unspaced]
  rfl

/-! ### Reading -/

section Load
variable {α : Type} (globalDefaults : String → α)

/-- `browser.storage.local`, as far as its settings go. -/
abbrev LocalArea (α : Type) := HashMap String α

def loadGlobalSettings (raw : LocalArea α) : List (String × α) :=
  settingNames.map (fun name => (name,(raw.lookup (globalSettingKey name)).getD (globalDefaults name)))

def loadSiteSettings (raw : LocalArea α) (origin : String) : List (String × α) :=
  siteSettingNames.filterMap (fun name => (raw.lookup (siteSettingKey origin name)).map (fun value => (name,value)))

end Load

end FFWebHid.SettingsKeys
