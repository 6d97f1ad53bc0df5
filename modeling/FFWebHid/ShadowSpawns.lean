import FFWebHid.Maps
import FFWebHid.Runs

/-! The worker bundle at a page's own URL. A page arms a spawn before it starts its worker, and the background answers
the script request that follows with the bundle; a redirect carries the answer on to the next URL. -/

namespace FFWebHid.ShadowSpawns
open FFWebHid.Maps FFWebHid.Runs

abbrev Url := List Char

/-- A tab and a document; the source joins them with a colon. -/
abbrev ArmKey := Nat × Url

def stripFragment (u : Url) : Url := u.takeWhile (· ≠ '#')

def sameUrlModuloFragment (a b : Url) : Bool := stripFragment a == stripFragment b

/-- The fields of a request for a script that the handlers read. -/
structure Details where
  requestId : Nat
  tabId : Option Nat
  documentUrl : Option Url
  url : Url
  deriving DecidableEq,Repr

structure Arm where
  count : Nat
  armedAt : Nat
  deriving DecidableEq,Repr

/-- Where the filter of a response stands: not begun, waiting for the bundle, answered with it, given the bundle in
    front, or left alone. The destination is the one that the filter saw. -/
inductive Phase where
  | untouched
  | waiting (dest : Option String)
  | served (dest : Option String)
  | prefixed (dest : Option String)
  | passed
  deriving DecidableEq,Repr

/-- A record of `scriptDest` with its filter. `armed` says that an arm was pending, `parent` is the script whose redirect
    named the URL, and `requestedAt` when the request came. -/
structure Script where
  details : Details
  dest : Option String := none
  shadow : Bool
  phase : Phase := .untouched
  armed : Bool := false
  parent : Option Nat := none
  requestedAt : Nat
  deriving DecidableEq,Repr

/-- The background. `scripts` are all records that were made, `scriptDest` has the place of the one of each request, and
    `shadowRedirectTargets` the script that was redirected there. `armings` and `spent` are what was armed and when, and
    what was taken back or used; `redirects` are the redirects that were followed. -/
structure World where
  now : Nat := 0
  shadowArms : HashMap ArmKey Arm := ∅
  scriptDest : HashMap Nat Nat := ∅
  shadowRedirectTargets : HashMap Url Nat := ∅
  scripts : List Script := []
  armings : List (ArmKey × Nat) := []
  spent : List ArmKey := []
  redirects : List (Nat × Url) := []

namespace World
variable (w : World)

def armShadowSpawn (tabId : Nat) (url : Url) : World :=
  if url = [] then w
  else
    let key : ArmKey := (tabId,stripFragment url)
    let count := ((w.shadowArms.lookup key).map Arm.count).getD 0
    { w with shadowArms := w.shadowArms.insert key ⟨count + 1,w.now⟩,armings := (key,w.now) :: w.armings }

/-- One arm less, where there is one. -/
def disarm (key : ArmKey) : World :=
  match w.shadowArms.lookup key with
  | none => w
  | some arm =>
    { w with
      shadowArms := if arm.count ≤ 1 then w.shadowArms.erase key else w.shadowArms.insert key ⟨arm.count - 1,arm.armedAt⟩
      spent := key :: w.spent }

def unarmShadowSpawn (tabId : Nat) (url : Url) : World := if url = [] then w else w.disarm (tabId,stripFragment url)

def armKey (details : Details) : Option ArmKey :=
  match details.tabId,details.documentUrl with
  | some tabId,some documentUrl => some (tabId,stripFragment documentUrl)
  | _,_ => none

def hasShadowArm (details : Details) : World × Bool :=
  match armKey details with
  | none => (w,false)
  | some key =>
    match w.shadowArms.lookup key with
    | none => (w,false)
    | some arm => if arm.armedAt + 3000 < w.now then ({ w with shadowArms := w.shadowArms.erase key },false) else (w,true)

def consumeShadowArm (details : Details) : World :=
  match armKey details with
  | none => w
  | some key => w.disarm key

def record (script : Script) : World :=
  { w with scripts := w.scripts ++ [script],scriptDest := w.scriptDest.insert script.details.requestId w.scripts.length }

def handleShadowUrl (details : Details) (armed : Bool) (parent : Option Nat) : World :=
  w.record { details := details,shadow := true,armed := armed,parent := parent,requestedAt := w.now }

/-- `wanted` is whether workers of the origin get the bundle. -/
def handleInjection (details : Details) (wanted : Bool) : World :=
  if wanted then w.record { details := details,shadow := false,requestedAt := w.now } else w

def onBeforeRequest (details : Details) (wanted : Bool) : World :=
  let urlKey := stripFragment details.url
  match w.shadowRedirectTargets.lookup urlKey with
  | some parent =>
    { w with shadowRedirectTargets := w.shadowRedirectTargets.erase urlKey }.handleShadowUrl details false (some parent)
  | none =>
    if details.documentUrl.any (sameUrlModuloFragment details.url) then
      match w.hasShadowArm details with
      | (w,true) => w.handleShadowUrl details true none
      | (w,false) => w.handleInjection details wanted
    else w.handleInjection details wanted

def withScript (n : Nat) (script : Script) : World := { w with scripts := w.scripts.set n script }

/-- The destination that the request shows, if any; an empty one is none. -/
def onBeforeSendHeaders (n : Nat) (script : Script) (secFetchDest : Option String) : World :=
  w.withScript n { script with dest := secFetchDest.filter (· ≠ "") }

def onBeforeRedirect (n : Nat) (script : Script) (url redirectUrl : Url) : World :=
  if script.shadow = false ∨ redirectUrl = [] ∨ stripFragment redirectUrl = stripFragment url then w
  else
    { w with
      scriptDest := w.scriptDest.erase script.details.requestId
      shadowRedirectTargets := w.shadowRedirectTargets.insert (stripFragment redirectUrl) n
      redirects := (n,stripFragment redirectUrl) :: w.redirects }

def forget (requestId : Nat) : World := { w with scriptDest := w.scriptDest.erase requestId }

end World

def forWorker (dest : Option String) : Bool := dest.all (· == "worker")

inductive Action where
  | clock (now : Nat)
  | arm (tabId : Nat) (url : Url)
  | unarm (tabId : Nat) (url : Url)
  | beforeRequest (details : Details) (wanted : Bool)
  | beforeSendHeaders (requestId : Nat) (secFetchDest : Option String)
  | beforeRedirect (requestId : Nat) (url redirectUrl : Url)
  | errorOccurred (requestId : Nat)
  /-- The filter of a shadow URL starts. -/
  | onstart (n : Nat)
  /-- The bundle is there for it. -/
  | bundle (n : Nat)
  /-- The filter of another script has its first chunk; the bundle may be missing. -/
  | firstChunk (n : Nat) (bundle : Bool)
  | onstop (n : Nat)
  deriving DecidableEq,Repr

def step (w : World) : Action → Option World
  | .clock now => some { w with now := now }
  | .arm tabId url => some (w.armShadowSpawn tabId url)
  | .unarm tabId url => some (w.unarmShadowSpawn tabId url)
  | .beforeRequest details wanted => some (w.onBeforeRequest details wanted)
  | .beforeSendHeaders requestId secFetchDest =>
    match w.scriptDest.lookup requestId with
    | none => some w
    | some n => (w.scripts[n]?).map (fun script => w.onBeforeSendHeaders n script secFetchDest)
  | .beforeRedirect requestId url redirectUrl =>
    match w.scriptDest.lookup requestId with
    | none => some w
    | some n => (w.scripts[n]?).map (fun script => w.onBeforeRedirect n script url redirectUrl)
  | .errorOccurred requestId => some (w.forget requestId)
  | .onstart n =>
    match w.scripts[n]? with
    | none => none
    | some script =>
      if script.shadow = true ∧ script.phase = .untouched then
        if forWorker script.dest then
          some ((w.consumeShadowArm script.details).withScript n { script with phase := .waiting script.dest })
        else some ((w.withScript n { script with phase := .passed }).forget script.details.requestId)
      else none
  | .bundle n =>
    match w.scripts[n]? with
    | none => none
    | some script =>
      match script.phase with
      | .waiting dest => some ((w.withScript n { script with phase := .served dest }).forget script.details.requestId)
      | _ => none
  | .firstChunk n bundle =>
    match w.scripts[n]? with
    | none => none
    | some script =>
      if script.shadow = false ∧ script.phase = .untouched then
        some (w.withScript n
          { script with phase := if bundle && forWorker script.dest then .prefixed script.dest else .passed })
      else none
  | .onstop n => (w.scripts[n]?).map (fun script => w.forget script.details.requestId)

/-! ### Where a script comes from -/

/-- An arming of the script's tab and document not long before its request, which was for the document's URL. -/
def World.ArmedFor (w : World) (script : Script) : Prop :=
  ∃ tabId documentUrl time, script.details.tabId = some tabId ∧ script.details.documentUrl = some documentUrl ∧
    stripFragment script.details.url = stripFragment documentUrl ∧ ((tabId,stripFragment documentUrl),time) ∈ w.armings ∧
      script.requestedAt ≤ time + 3000

/-- A script that an arming let through, or one at the URL where such a script was redirected. -/
inductive World.Rooted (w : World) : Nat → Prop
  | armed {n : Nat} {script : Script} (there : w.scripts[n]? = some script) (armed : w.ArmedFor script) : w.Rooted n
  | redirected {n m : Nat} {script : Script} (there : w.scripts[n]? = some script) (parent : script.parent = some m)
      (redirect : (m,stripFragment script.details.url) ∈ w.redirects) (root : w.Rooted m) : w.Rooted n

/-- The parts of a script that its request fixes. -/
structure Same (before after : Script) : Prop where
  details : after.details = before.details
  shadow : after.shadow = before.shadow
  armed : after.armed = before.armed
  parent : after.parent = before.parent
  requestedAt : after.requestedAt = before.requestedAt

theorem Same.refl (script : Script) : Same script script := ⟨rfl,rfl,rfl,rfl,rfl⟩

/-- What a filter does fits the destination it saw. -/
def Fits (script : Script) : Prop :=
  match script.phase with
  | .waiting dest | .served dest => script.shadow = true ∧ forWorker dest = true
  | .prefixed dest => script.shadow = false ∧ forWorker dest = true
  | _ => True

/-- A script that a request has just made. -/
structure Made (w : World) (script : Script) : Prop where
  phase : script.phase = .untouched
  now : script.requestedAt = w.now
  root : script.shadow = true →
    (∃ tabId documentUrl arm, script.details.tabId = some tabId ∧ script.details.documentUrl = some documentUrl ∧
      stripFragment script.details.url = stripFragment documentUrl ∧
        w.shadowArms.lookup (tabId,stripFragment documentUrl) = some arm ∧ w.now ≤ arm.armedAt + 3000) ∨
    ∃ m, script.parent = some m ∧ w.shadowRedirectTargets.lookup (stripFragment script.details.url) = some m

/-- What an action does, a case for each branch. -/
inductive Stepped (w : World) : Action → World → Prop where
  | clock (now : Nat) : Stepped w (.clock now) { w with now := now }
  | arm (tabId : Nat) (url : Url) : Stepped w (.arm tabId url) (w.armShadowSpawn tabId url)
  | unnamed (tabId : Nat) : Stepped w (.unarm tabId []) w
  | unarm (tabId : Nat) {url : Url} (named : url ≠ []) :
    Stepped w (.unarm tabId url) (w.disarm (tabId,stripFragment url))
  | beforeRequest (details : Details) (wanted : Bool) :
    Stepped w (.beforeRequest details wanted) (w.onBeforeRequest details wanted)
  | unrecorded {requestId : Nat} (secFetchDest : Option String) (unknown : w.scriptDest.lookup requestId = none) :
    Stepped w (.beforeSendHeaders requestId secFetchDest) w
  | beforeSendHeaders {requestId n : Nat} {script : Script} (secFetchDest : Option String)
      (record : w.scriptDest.lookup requestId = some n) (there : w.scripts[n]? = some script) :
    Stepped w (.beforeSendHeaders requestId secFetchDest) (w.onBeforeSendHeaders n script secFetchDest)
  | unfollowed (requestId : Nat) (url redirectUrl : Url) : Stepped w (.beforeRedirect requestId url redirectUrl) w
  | followed {requestId n : Nat} {script : Script} {url redirectUrl : Url}
      (record : w.scriptDest.lookup requestId = some n) (there : w.scripts[n]? = some script)
      (shadow : script.shadow = true) (away : stripFragment redirectUrl ≠ stripFragment url) :
    Stepped w (.beforeRedirect requestId url redirectUrl)
      { w with
        scriptDest := w.scriptDest.erase script.details.requestId
        shadowRedirectTargets := w.shadowRedirectTargets.insert (stripFragment redirectUrl) n
        redirects := (n,stripFragment redirectUrl) :: w.redirects }
  | errorOccurred (requestId : Nat) : Stepped w (.errorOccurred requestId) (w.forget requestId)
  | consumed {n : Nat} {script : Script} (there : w.scripts[n]? = some script) (shadow : script.shadow = true)
      (fresh : script.phase = .untouched) (worker : forWorker script.dest = true) :
    Stepped w (.onstart n)
      ((w.consumeShadowArm script.details).withScript n { script with phase := .waiting script.dest })
  | passed {n : Nat} {script : Script} (there : w.scripts[n]? = some script) (shadow : script.shadow = true)
      (fresh : script.phase = .untouched) (other : forWorker script.dest = false) :
    Stepped w (.onstart n) ((w.withScript n { script with phase := .passed }).forget script.details.requestId)
  | bundle {n : Nat} {script : Script} {dest : Option String} (there : w.scripts[n]? = some script)
      (waiting : script.phase = .waiting dest) :
    Stepped w (.bundle n) ((w.withScript n { script with phase := .served dest }).forget script.details.requestId)
  | firstChunk {n : Nat} {script : Script} (bundle : Bool) (there : w.scripts[n]? = some script)
      (plain : script.shadow = false) (fresh : script.phase = .untouched) :
    Stepped w (.firstChunk n bundle) (w.withScript n
      { script with phase := if bundle && forWorker script.dest then .prefixed script.dest else .passed })
  | onstop {n : Nat} {script : Script} (there : w.scripts[n]? = some script) :
    Stepped w (.onstop n) (w.forget script.details.requestId)

section Steps
variable {w w' : World} {a : Action} {details : Details}

theorem step_cases (stepped : step w a = some w') : Stepped w a w' := by
  cases a with
  | clock now =>
    cases stepped
    exact .clock now
  | arm tabId url =>
    cases stepped
    exact .arm tabId url
  | unarm tabId url =>
    cases stepped
    unfold World.unarmShadowSpawn
    split
    · next unnamed =>
      subst unnamed
      exact .unnamed tabId
    · next named => exact .unarm tabId named
  | beforeRequest details wanted =>
    cases stepped
    exact .beforeRequest details wanted
  | beforeSendHeaders requestId secFetchDest =>
    simp only [step] at stepped
    split at stepped
    · next unknown =>
      cases stepped
      exact .unrecorded secFetchDest unknown
    · next n record =>
      obtain ⟨script,there,rfl⟩ := Option.map_eq_some_iff.mp stepped
      exact .beforeSendHeaders secFetchDest record there
  | beforeRedirect requestId url redirectUrl =>
    simp only [step] at stepped
    split at stepped
    · cases stepped
      exact .unfollowed requestId url redirectUrl
    · next n record =>
      obtain ⟨script,there,rfl⟩ := Option.map_eq_some_iff.mp stepped
      unfold World.onBeforeRedirect
      split
      · exact .unfollowed requestId url redirectUrl
      · next followed =>
        simp only [not_or,Bool.not_eq_false] at followed
        exact .followed record there followed.1 followed.2.2
  | errorOccurred requestId =>
    cases stepped
    exact .errorOccurred requestId
  | onstart n =>
    simp only [step] at stepped
    split at stepped
    · cases stepped
    · next script there =>
      split at stepped
      · next fresh =>
        split at stepped
        · next worker =>
          cases stepped
          exact .consumed there fresh.1 fresh.2 worker
        · next other =>
          cases stepped
          exact .passed there fresh.1 fresh.2 (Bool.eq_false_iff.mpr other)
      · cases stepped
  | bundle n =>
    simp only [step] at stepped
    split at stepped
    · cases stepped
    · next script there =>
      split at stepped
      · next dest waiting =>
        cases stepped
        exact .bundle there waiting
      · cases stepped
  | firstChunk n bundle =>
    simp only [step] at stepped
    split at stepped
    · cases stepped
    · next script there =>
      split at stepped
      · next fresh =>
        cases stepped
        exact .firstChunk bundle there fresh.1 fresh.2
      · cases stepped
  | onstop n =>
    obtain ⟨script,there,rfl⟩ := Option.map_eq_some_iff.mp stepped
    exact .onstop there

theorem hasShadowArm_true (has : (w.hasShadowArm details).2 = true) :
    (w.hasShadowArm details).1 = w ∧ ∃ tabId documentUrl arm, details.tabId = some tabId ∧
      details.documentUrl = some documentUrl ∧ w.shadowArms.lookup (tabId,stripFragment documentUrl) = some arm ∧
        w.now ≤ arm.armedAt + 3000 := by
  unfold World.hasShadowArm World.armKey at has ⊢
  cases tab : details.tabId with
  | none => simp [tab] at has
  | some tabId =>
    cases document : details.documentUrl with
    | none => simp [tab,document] at has
    | some documentUrl =>
      simp only [tab,document] at has ⊢
      cases found : w.shadowArms.lookup (tabId,stripFragment documentUrl) with
      | none => simp [found] at has
      | some arm =>
        simp only [found] at has ⊢
        split at has
        · cases has
        · next recent =>
          rw [if_neg recent]
          exact ⟨rfl,tabId,documentUrl,arm,rfl,rfl,found,by omega⟩

/-- A look for an arm takes away an old one at most. -/
theorem hasShadowArm_frame (w : World) (details : Details) : ∃ arms,
    (w.hasShadowArm details).1 = { w with shadowArms := arms } ∧
    (arms = w.shadowArms ∨ ∃ key, arms = w.shadowArms.erase key) := by
  unfold World.hasShadowArm
  split
  · exact ⟨_,rfl,.inl rfl⟩
  split
  · exact ⟨_,rfl,.inl rfl⟩
  split
  · exact ⟨_,rfl,.inr ⟨_,rfl⟩⟩
  · exact ⟨_,rfl,.inl rfl⟩

theorem disarm_frame (key : ArmKey) : ∃ arms spent, w.disarm key = { w with shadowArms := arms,spent := spent } := by
  unfold World.disarm
  split
  · exact ⟨_,_,rfl⟩
  · exact ⟨_,_,rfl⟩

/-- A filter that starts uses an arm where its script has a tab and a document. -/
theorem consume_cases (w : World) (details : Details) :
    w.consumeShadowArm details = w ∨ ∃ key, w.consumeShadowArm details = w.disarm key := by
  unfold World.consumeShadowArm
  split
  · exact .inl rfl
  · next key _ => exact .inr ⟨key,rfl⟩

theorem disarm_scripts (key : ArmKey) : (w.disarm key).scripts = w.scripts := by
  obtain ⟨arms,spent,same⟩ := disarm_frame (w := w) key
  rw [same]

/-- A request is for the target of a redirect, or for the page's own URL with an arm not long ago; of any other the
    bundle is at most put in front. -/
theorem onBeforeRequest_cases (w : World) (details : Details) (wanted : Bool) :
    (∃ parent, w.shadowRedirectTargets.lookup (stripFragment details.url) = some parent ∧
      w.onBeforeRequest details wanted =
        { w with shadowRedirectTargets := w.shadowRedirectTargets.erase (stripFragment details.url) }.handleShadowUrl
          details false (some parent)) ∨
    (∃ tabId documentUrl arm, details.tabId = some tabId ∧ details.documentUrl = some documentUrl ∧
      stripFragment details.url = stripFragment documentUrl ∧
      w.shadowArms.lookup (tabId,stripFragment documentUrl) = some arm ∧ w.now ≤ arm.armedAt + 3000 ∧
      w.onBeforeRequest details wanted = w.handleShadowUrl details true none) ∨
    ∃ arms, (arms = w.shadowArms ∨ ∃ key, arms = w.shadowArms.erase key) ∧
      w.onBeforeRequest details wanted = { w with shadowArms := arms }.handleInjection details wanted := by
  unfold World.onBeforeRequest
  simp only
  split
  · next parent found => exact .inl ⟨parent,found,rfl⟩
  right
  split
  · next own =>
    split
    · next v found =>
      obtain ⟨same,tabId,documentUrl,arm,tab,document,there,recent⟩ := hasShadowArm_true (congrArg Prod.snd found)
      rw [found] at same
      cases same
      refine .inl ⟨tabId,documentUrl,arm,tab,document,?_,there,recent,rfl⟩
      simpa [document,sameUrlModuloFragment] using own
    · next v found =>
      obtain ⟨arms,same,fewer⟩ := hasShadowArm_frame w details
      rw [found] at same
      cases same
      exact .inr ⟨arms,fewer,rfl⟩
  · exact .inr ⟨w.shadowArms,.inl rfl,rfl⟩

/-- A request makes one script or none. -/
theorem onBeforeRequest_scripts (w : World) (details : Details) (wanted : Bool) :
    (w.onBeforeRequest details wanted).scripts = w.scripts ∨
      ∃ script, Made w script ∧ (w.onBeforeRequest details wanted).scripts = w.scripts ++ [script] := by
  rcases onBeforeRequest_cases w details wanted with ⟨parent,found,same⟩ |
    ⟨tabId,documentUrl,arm,tab,document,own,there,recent,same⟩ | ⟨arms,_,same⟩
  · right
    rw [same]
    exact ⟨_,⟨rfl,rfl,fun _ => .inr ⟨parent,rfl,found⟩⟩,rfl⟩
  · right
    rw [same]
    exact ⟨_,⟨rfl,rfl,fun _ => .inl ⟨tabId,documentUrl,arm,tab,document,own,there,recent⟩⟩,rfl⟩
  · rw [same]
    unfold World.handleInjection
    split
    · right
      refine ⟨_,⟨rfl,rfl,?_⟩,rfl⟩
      intro shadow
      cases shadow
    · exact .inl rfl

/-- The scripts are the ones before, with what their filters saw and did. -/
def Kept (before after : List Script) : Prop :=
  before.length = after.length ∧ ∀ (n : Nat) script, after[n]? = some script →
    ∃ old, before[n]? = some old ∧ Same old script ∧ (Fits old → Fits script)

theorem Kept.refl (scripts : List Script) : Kept scripts scripts := ⟨rfl,fun _ script there => ⟨script,there,.refl _,id⟩⟩

theorem Kept.set {scripts : List Script} {n : Nat} {old script : Script} (there : scripts[n]? = some old)
    (same : Same old script) (fits : Fits old → Fits script) : Kept scripts (scripts.set n script) := by
  refine ⟨List.length_set.symm,?_⟩
  intro k found' found
  rcases getElem?_set_cases there found with ⟨rfl,rfl⟩ | ⟨_,elsewhere⟩
  · exact ⟨old,there,same,fits⟩
  · exact ⟨found',elsewhere,.refl _,id⟩

/-- A step changes no script's origin, and makes one at most, as a request comes. -/
theorem scripts_step (stepped : step w a = some w') :
    Kept w.scripts w'.scripts ∨ ∃ script, Made w script ∧ w'.scripts = w.scripts ++ [script] := by
  have still (same : w'.scripts = w.scripts) : Kept w.scripts w'.scripts ∨
      ∃ script, Made w script ∧ w'.scripts = w.scripts ++ [script] := .inl (same ▸ Kept.refl _)
  cases step_cases stepped with
  | arm tabId url =>
    apply still
    unfold World.armShadowSpawn
    split <;> rfl
  | unarm tabId named => exact still (disarm_scripts _)
  | beforeRequest details wanted =>
    rcases onBeforeRequest_scripts w details wanted with same | made
    · exact still same
    · exact .inr made
  | beforeSendHeaders secFetchDest record there => exact .inl (Kept.set there ⟨rfl,rfl,rfl,rfl,rfl⟩ id)
  | consumed there shadow fresh worker =>
    next n script =>
    have same : (w.consumeShadowArm script.details).scripts = w.scripts := by
      rcases consume_cases w script.details with same | ⟨key,same⟩
      · rw [same]
      · rw [same,disarm_scripts]
    left
    show Kept w.scripts ((w.consumeShadowArm script.details).scripts.set n _)
    rw [same]
    exact Kept.set there ⟨rfl,rfl,rfl,rfl,rfl⟩ (fun _ => ⟨shadow,worker⟩)
  | passed there shadow fresh other => exact .inl (Kept.set there ⟨rfl,rfl,rfl,rfl,rfl⟩ (fun _ => trivial))
  | bundle there waiting =>
    refine .inl (Kept.set there ⟨rfl,rfl,rfl,rfl,rfl⟩ ?_)
    intro fits
    simpa [Fits,waiting] using fits
  | firstChunk bundle there plain fresh =>
    refine .inl (Kept.set there ⟨rfl,rfl,rfl,rfl,rfl⟩ ?_)
    intro _
    split
    · next worker => exact ⟨plain,(Bool.and_eq_true_iff.mp worker).2⟩
    · trivial
  | _ => exact still rfl

/-- How the arms and the redirects go on. -/
structure Logs (w w' : World) : Prop where
  armings : ∀ x ∈ w.armings, x ∈ w'.armings
  redirects : ∀ x ∈ w.redirects, x ∈ w'.redirects
  arms : ∀ key arm, w'.shadowArms.lookup key = some arm →
    (∃ old, w.shadowArms.lookup key = some old ∧ old.armedAt = arm.armedAt) ∨ (key,arm.armedAt) ∈ w'.armings
  targets : ∀ url m, w'.shadowRedirectTargets.lookup url = some m →
    w.shadowRedirectTargets.lookup url = some m ∨ (m,url) ∈ w'.redirects
  redirected : ∀ m url, (m,url) ∈ w'.redirects →
    (m,url) ∈ w.redirects ∨ ∃ script, w.scripts[m]? = some script ∧ script.shadow = true

/-- Where nothing is armed and nothing redirected. -/
theorem Logs.still (armings : w'.armings = w.armings) (redirects : w'.redirects = w.redirects)
    (arms : ∀ key arm, w'.shadowArms.lookup key = some arm →
      ∃ old, w.shadowArms.lookup key = some old ∧ old.armedAt = arm.armedAt)
    (targets : ∀ url m, w'.shadowRedirectTargets.lookup url = some m → w.shadowRedirectTargets.lookup url = some m) :
    Logs w w' := by
  refine ⟨?_,?_,fun key arm found => .inl (arms key arm found),fun url m found => .inl (targets url m found),?_⟩
  · rw [armings]
    exact fun _ member => member
  · rw [redirects]
    exact fun _ member => member
  · rw [redirects]
    exact fun _ _ member => .inl member

theorem disarm_arms (key : ArmKey) {other : ArmKey} {arm : Arm}
    (found : (w.disarm key).shadowArms.lookup other = some arm) :
    ∃ old, w.shadowArms.lookup other = some old ∧ old.armedAt = arm.armedAt := by
  unfold World.disarm at found
  split at found
  · exact ⟨arm,found,rfl⟩
  · next own there =>
    simp only at found
    split at found
    · exact ⟨arm,lookup_of_erase found,rfl⟩
    · rw [lookup_insert_eq] at found
      split at found
      · next same =>
        cases found
        exact ⟨own,same ▸ there,rfl⟩
      · exact ⟨arm,found,rfl⟩

theorem disarm_logs (key : ArmKey) : Logs w (w.disarm key) := by
  obtain ⟨arms,spent,same⟩ := disarm_frame (w := w) key
  apply Logs.still
  · rw [same]
  · rw [same]
  · exact fun _ _ found => disarm_arms key found
  · rw [same]
    exact fun _ _ found => found

theorem Logs.refl (w : World) : Logs w w :=
  Logs.still rfl rfl (fun _ arm found => ⟨arm,found,rfl⟩) (fun _ _ found => found)

/-- Only the scripts, their records and the clock differ. -/
theorem Logs.elsewhere {v : World} (logs : Logs w v) (armings : w'.armings = v.armings)
    (redirects : w'.redirects = v.redirects)
    (arms : w'.shadowArms = v.shadowArms) (targets : w'.shadowRedirectTargets = v.shadowRedirectTargets) : Logs w w' := by
  refine ⟨?_,?_,?_,?_,?_⟩
  · rw [armings]
    exact logs.armings
  · rw [redirects]
    exact logs.redirects
  · rw [arms,armings]
    exact logs.arms
  · rw [targets,redirects]
    exact logs.targets
  · rw [redirects]
    exact logs.redirected

theorem onBeforeRequest_logs {wanted : Bool} : Logs w (w.onBeforeRequest details wanted) := by
  rcases onBeforeRequest_cases w details wanted with ⟨parent,_,same⟩ | ⟨_,_,_,_,_,_,_,_,same⟩ | ⟨arms,fewer,same⟩
  · rw [same]
    exact Logs.still rfl rfl (fun _ arm found => ⟨arm,found,rfl⟩) (fun _ _ found => lookup_of_erase found)
  · rw [same]
    exact (Logs.refl w).elsewhere rfl rfl rfl rfl
  · have looked : Logs w { w with shadowArms := arms } := by
      refine Logs.still rfl rfl ?_ (fun _ _ found => found)
      intro key arm found
      rcases fewer with rfl | ⟨old,rfl⟩
      · exact ⟨arm,found,rfl⟩
      · exact ⟨arm,lookup_of_erase found,rfl⟩
    rw [same]
    unfold World.handleInjection
    split
    · exact looked.elsewhere rfl rfl rfl rfl
    · exact looked

theorem arm_logs (tabId : Nat) (url : Url) : Logs w (w.armShadowSpawn tabId url) := by
  unfold World.armShadowSpawn
  split
  · exact .refl w
  · refine ⟨fun _ member => List.mem_cons_of_mem _ member,fun _ member => member,?_,fun _ _ found => .inl found,
      fun _ _ member => .inl member⟩
    intro key arm found
    rw [lookup_insert_eq] at found
    split at found
    · next same =>
      cases found
      rw [same]
      exact .inr List.mem_cons_self
    · exact .inl ⟨arm,found,rfl⟩

theorem consume_logs (details : Details) : Logs w (w.consumeShadowArm details) := by
  rcases consume_cases w details with same | ⟨key,same⟩
  · rw [same]
    exact .refl w
  · rw [same]
    exact disarm_logs key

/-- A shadow script's redirect is followed to the URL that it names. -/
theorem redirect_logs {n : Nat} {script : Script} {target : Url} (there : w.scripts[n]? = some script)
    (shadow : script.shadow = true) (armings : w'.armings = w.armings) (arms : w'.shadowArms = w.shadowArms)
    (targets : w'.shadowRedirectTargets = w.shadowRedirectTargets.insert target n)
    (redirects : w'.redirects = (n,target) :: w.redirects) : Logs w w' := by
  refine ⟨?_,?_,?_,?_,?_⟩
  · rw [armings]
    exact fun _ member => member
  · rw [redirects]
    exact fun _ member => List.mem_cons_of_mem _ member
  · rw [arms]
    exact fun _ arm found => .inl ⟨arm,found,rfl⟩
  · intro url m found
    rw [targets,lookup_insert_eq] at found
    split at found
    · next same =>
      cases found
      rw [same,redirects]
      exact .inr List.mem_cons_self
    · exact .inl found
  · intro m url member
    rw [redirects] at member
    rcases List.mem_cons.mp member with new | old
    · cases new
      exact .inr ⟨script,there,shadow⟩
    · exact .inl old

theorem logs_step (stepped : step w a = some w') : Logs w w' := by
  cases step_cases stepped with
  | arm tabId url => exact arm_logs tabId url
  | unnamed | unrecorded | unfollowed => exact .refl w
  | unarm tabId named => exact disarm_logs _
  | beforeRequest details wanted => exact onBeforeRequest_logs
  | followed record there shadow away => exact redirect_logs there shadow rfl rfl rfl rfl
  | consumed there shadow fresh worker => exact (consume_logs _).elsewhere rfl rfl rfl rfl
  | _ => exact (Logs.refl w).elsewhere rfl rfl rfl rfl

structure Traced (w : World) : Prop where
  arms : ∀ key arm, w.shadowArms.lookup key = some arm → (key,arm.armedAt) ∈ w.armings
  targets : ∀ url m, w.shadowRedirectTargets.lookup url = some m → (m,url) ∈ w.redirects
  redirects : ∀ m url, (m,url) ∈ w.redirects → ∃ script, w.scripts[m]? = some script ∧ script.shadow = true
  shadows : ∀ (n : Nat) script, w.scripts[n]? = some script → script.shadow = true → w.ArmedFor script ∨
    ∃ m, m < n ∧ script.parent = some m ∧ (m,stripFragment script.details.url) ∈ w.redirects
  fits : ∀ (n : Nat) script, w.scripts[n]? = some script → Fits script

theorem ArmedFor.kept {before after : Script} (armed : w.ArmedFor before) (logs : Logs w w') (same : Same before after) :
    w'.ArmedFor after := by
  obtain ⟨tabId,documentUrl,time,tab,document,url,member,recent⟩ := armed
  refine ⟨tabId,documentUrl,time,?_,?_,?_,logs.armings _ member,?_⟩
  · rw [same.details]
    exact tab
  · rw [same.details]
    exact document
  · rw [same.details]
    exact url
  · rw [same.requestedAt]
    exact recent

/-- A script that was there keeps what let it through. -/
theorem Traced.kept (traced : Traced w) (logs : Logs w w') {n : Nat} {before after : Script}
    (there : w.scripts[n]? = some before) (same : Same before after) (shadow : after.shadow = true) :
    w'.ArmedFor after ∨ ∃ m, m < n ∧ after.parent = some m ∧ (m,stripFragment after.details.url) ∈ w'.redirects := by
  rcases traced.shadows n before there (same.shadow ▸ shadow) with armed | ⟨m,earlier,parent,member⟩
  · exact .inl (ArmedFor.kept armed logs same)
  · right
    refine ⟨m,earlier,same.parent.trans parent,?_⟩
    rw [same.details]
    exact logs.redirects _ member

/-- A script that was just made has an arm, or a redirect that named its URL. -/
theorem Traced.made (traced : Traced w) (logs : Logs w w') {script : Script} (made : Made w script)
    (shadow : script.shadow = true) :
    w'.ArmedFor script ∨
      ∃ m, m < w.scripts.length ∧ script.parent = some m ∧ (m,stripFragment script.details.url) ∈ w'.redirects := by
  rcases made.root shadow with ⟨tabId,documentUrl,arm,tab,document,url,found,recent⟩ | ⟨m,parent,found⟩
  · left
    refine ⟨tabId,documentUrl,arm.armedAt,tab,document,url,logs.armings _ (traced.arms _ arm found),?_⟩
    rw [made.now]
    exact recent
  · right
    have member := traced.targets _ m found
    obtain ⟨redirecting,there,_⟩ := traced.redirects m _ member
    exact ⟨m,(List.getElem?_eq_some_iff.mp there).1,parent,logs.redirects _ member⟩

theorem Traced.step (traced : Traced w) (stepped : step w a = some w') : Traced w' := by
  have logs := logs_step stepped
  have there : ∀ (m : Nat) script, w.scripts[m]? = some script →
      ∃ after, w'.scripts[m]? = some after ∧ Same script after := by
    intro m script found
    rcases scripts_step stepped with ⟨length,kept⟩ | ⟨new,_,scripts⟩
    · have inside : m < w'.scripts.length := length ▸ (List.getElem?_eq_some_iff.mp found).1
      obtain ⟨old,found',same,_⟩ := kept m _ (List.getElem?_eq_getElem inside)
      rw [found] at found'
      cases found'
      exact ⟨_,List.getElem?_eq_getElem inside,same⟩
    · refine ⟨script,?_,.refl _⟩
      rw [scripts,List.getElem?_append_left (List.getElem?_eq_some_iff.mp found).1]
      exact found
  -- a script is one from before or the new one
  have split : ∀ (n : Nat) script, w'.scripts[n]? = some script →
      (∃ old, w.scripts[n]? = some old ∧ Same old script ∧ (Fits old → Fits script)) ∨ n = w.scripts.length ∧
          Made w script := by
    intro n script found
    rcases scripts_step stepped with ⟨_,kept⟩ | ⟨new,made,scripts⟩
    · exact .inl (kept n script found)
    · rw [scripts] at found
      rcases getElem?_snoc found with old | ⟨here,rfl⟩
      · exact .inl ⟨script,old,.refl _,id⟩
      · exact .inr ⟨here,made⟩
  refine ⟨?_,?_,?_,?_,?_⟩
  · intro key arm found
    rcases logs.arms key arm found with ⟨old,before,time⟩ | new
    · rw [← time]
      exact logs.armings _ (traced.arms key old before)
    · exact new
  · intro url m found
    rcases logs.targets url m found with before | new
    · exact logs.redirects _ (traced.targets url m before)
    · exact new
  · intro m url member
    have before : ∃ script, w.scripts[m]? = some script ∧ script.shadow = true := by
      rcases logs.redirected m url member with old | new
      · exact traced.redirects m url old
      · exact new
    obtain ⟨script,found,shadow⟩ := before
    obtain ⟨after,found',same⟩ := there m script found
    exact ⟨after,found',same.shadow.trans shadow⟩
  · intro n script found shadow
    rcases split n script found with ⟨old,before,same,_⟩ | ⟨rfl,made⟩
    · exact traced.kept logs before same shadow
    · exact traced.made logs made shadow
  · intro n script found
    rcases split n script found with ⟨old,before,_,fits⟩ | ⟨_,made⟩
    · exact fits (traced.fits n old before)
    · rw [Fits,made.phase]
      trivial

/-! ### The arms -/

def World.pending (w : World) (key : ArmKey) : Nat := ((w.shadowArms.lookup key).map Arm.count).getD 0

/-- No arm is used or taken back that was not armed. -/
structure Paid (w : World) : Prop where
  positive : ∀ key arm, w.shadowArms.lookup key = some arm → 0 < arm.count
  paid : ∀ key, w.pending key + w.spent.count key ≤ (w.armings.map Prod.fst).count key

/-- Only the arms and their logs matter. -/
theorem Paid.elsewhere {v : World} (paid : Paid v) (arms : w.shadowArms = v.shadowArms) (spent : w.spent = v.spent)
    (armings : w.armings = v.armings) : Paid w := by
  refine ⟨?_,?_⟩
  · rw [arms]
    exact paid.positive
  · intro key
    rw [World.pending,arms,spent,armings]
    exact paid.paid key

theorem pending_eq {key : ArmKey} {found : Option Arm} (lookup : w.shadowArms.lookup key = found) :
    w.pending key = (found.map Arm.count).getD 0 := by
  rw [World.pending,lookup]

theorem Paid.arm (paid : Paid w) (tabId : Nat) (url : Url) : Paid (w.armShadowSpawn tabId url) := by
  unfold World.armShadowSpawn
  split
  · exact paid
  · refine ⟨?_,?_⟩
    · intro key arm found
      rw [lookup_insert_eq] at found
      split at found
      · cases found
        exact Nat.succ_pos _
      · exact paid.positive key arm found
    · intro key
      have before := paid.paid key
      by_cases here : key = (tabId,stripFragment url)
      · subst here
        rw [pending_eq (lookup_insert_eq _ _ _ _),if_pos rfl]
        simp only [List.map_cons,List.count_cons_self,Option.map_some,Option.getD_some]
        simp only [World.pending] at before
        omega
      · rw [pending_eq (lookup_insert_eq _ _ _ _),if_neg here]
        simp only [List.map_cons,List.count_cons_of_ne (Ne.symm here)]
        exact before

theorem Paid.disarm (paid : Paid w) (key : ArmKey) : Paid (w.disarm key) := by
  unfold World.disarm
  split
  · exact paid
  · next arm there =>
    have positive := paid.positive key arm there
    have arms (other : ArmKey) : (if arm.count ≤ 1 then w.shadowArms.erase key
        else w.shadowArms.insert key ⟨arm.count - 1,arm.armedAt⟩).lookup other =
          if other = key then (if arm.count ≤ 1 then none else some ⟨arm.count - 1,arm.armedAt⟩)
          else w.shadowArms.lookup other := by
      split
      · rw [lookup_erase_eq]
      · rw [lookup_insert_eq]
    refine ⟨?_,?_⟩
    · intro other found' found
      rw [arms] at found
      split at found
      · split at found
        · cases found
        · cases found
          simp only
          omega
      · exact paid.positive other found' found
    · intro other
      have before := paid.paid other
      rw [pending_eq (arms other)]
      by_cases here : other = key
      · subst here
        rw [World.pending,there] at before
        simp only [if_true,List.count_cons_self]
        simp only [Option.map_some,Option.getD_some] at before
        split <;> simp only [Option.map_none,Option.getD_none,Option.map_some,Option.getD_some] <;> omega
      · rw [if_neg here,List.count_cons_of_ne (Ne.symm here)]
        exact before

theorem Paid.consume (paid : Paid w) (details : Details) : Paid (w.consumeShadowArm details) := by
  rcases consume_cases w details with same | ⟨key,same⟩
  · rw [same]
    exact paid
  · rw [same]
    exact paid.disarm key

theorem Paid.look (paid : Paid w) {arms : HashMap ArmKey Arm}
    (fewer : arms = w.shadowArms ∨ ∃ key, arms = w.shadowArms.erase key) : Paid { w with shadowArms := arms } := by
  rcases fewer with rfl | ⟨old,rfl⟩
  · exact paid
  · refine ⟨fun key arm found => paid.positive key arm (lookup_of_erase found),?_⟩
    intro key
    have before := paid.paid key
    rw [pending_eq (lookup_erase_eq _ _ _)]
    split
    · simp only [Option.map_none,Option.getD_none]
      omega
    · exact before

theorem Paid.request (paid : Paid w) {wanted : Bool} : Paid (w.onBeforeRequest details wanted) := by
  rcases onBeforeRequest_cases w details wanted with ⟨parent,_,same⟩ | ⟨_,_,_,_,_,_,_,_,same⟩ | ⟨arms,fewer,same⟩
  · rw [same]
    exact paid.elsewhere rfl rfl rfl
  · rw [same]
    exact paid.elsewhere rfl rfl rfl
  · rw [same]
    unfold World.handleInjection
    split
    · exact (paid.look fewer).elsewhere rfl rfl rfl
    · exact paid.look fewer

theorem Paid.step (paid : Paid w) (stepped : step w a = some w') : Paid w' := by
  cases step_cases stepped with
  | arm tabId url => exact paid.arm tabId url
  | unnamed | unrecorded | unfollowed => exact paid
  | unarm tabId named => exact paid.disarm _
  | beforeRequest details wanted => exact paid.request
  | consumed there shadow fresh worker => exact (paid.consume _).elsewhere rfl rfl rfl
  | _ => exact paid.elsewhere rfl rfl rfl

end Steps

section Runs
variable {trace : List Action} {w : World}

theorem traced_run (run : exec step {} trace = some w) : Traced w := by
  apply exec_invariant (fun _ _ _ traced stepped => Traced.step traced stepped) _ run
  refine ⟨?_,?_,?_,?_,?_⟩
  · intro key arm found
    cases (lookup_empty key).symm.trans found
  · intro url m found
    cases (lookup_empty url).symm.trans found
  · intro m url member
    cases member
  · intro n script found
    cases found
  · intro n script found
    cases found

theorem paid_run (run : exec step {} trace = some w) : Paid w := by
  apply exec_invariant (fun _ _ _ paid stepped => Paid.step paid stepped) _ run
  refine ⟨?_,?_⟩
  · intro key arm found
    cases (lookup_empty key).symm.trans found
  · intro key
    rw [pending_eq (lookup_empty key)]
    exact Nat.le_refl _

/-- A redirect leads to a script before, so the chain of redirects ends at an arming. -/
theorem Traced.rooted (traced : Traced w) {n : Nat} {script : Script} (there : w.scripts[n]? = some script)
    (shadow : script.shadow = true) : w.Rooted n := by
  induction n using Nat.strongRecOn generalizing script with
  | ind n ih =>
    rcases traced.shadows n script there shadow with armed | ⟨m,earlier,parent,member⟩
    · exact .armed there armed
    · obtain ⟨redirecting,found,isShadow⟩ := traced.redirects m _ member
      exact .redirected there parent member (ih m earlier found isShadow)

/-- The bundle is put out, or in front of a script, for workers only and for requests that do not show what they are for;
    it is put out where a chain of redirects leads back to an arming of the tab and document at most three seconds before,
    and no arm is used or taken back twice. -/
theorem bundles_follow_arms (run : exec step {} trace = some w) :
    (∀ (n : Nat) script dest, w.scripts[n]? = some script → script.phase = .served dest →
      forWorker dest = true ∧ w.Rooted n) ∧
      (∀ (n : Nat) script dest, w.scripts[n]? = some script → script.phase = .prefixed dest →
        forWorker dest = true ∧ script.shadow = false) ∧
      ∀ key, w.pending key + w.spent.count key ≤ (w.armings.map Prod.fst).count key := by
  have traced := traced_run run
  refine ⟨?_,?_,(paid_run run).paid⟩
  · intro n script dest there served
    have fits := traced.fits n script there
    simp only [Fits,served] at fits
    exact ⟨fits.2,traced.rooted there fits.1⟩
  · intro n script dest there front
    have fits := traced.fits n script there
    simp only [Fits,front] at fits
    exact ⟨fits.2,fits.1⟩

def page : Url := ['/','p']
def moved : Url := ['/','q']

/-- A page arms a spawn, and the request of its worker is redirected. -/
def redirectedSpawn : List Action :=
  [.arm 1 page,.clock 5,.beforeRequest ⟨7,some 1,some page,page⟩ false,.beforeSendHeaders 7 (some "worker"),
    .beforeRedirect 7 page moved,.beforeRequest ⟨7,some 1,some page,moved⟩ false,.beforeSendHeaders 7 (some "worker"),
    .onstart 1,.bundle 1]

theorem redirected_spawn_served :
    ∃ w, exec step {} redirectedSpawn = some w ∧ forWorker (some "worker") = true ∧ w.Rooted 1 := by
  obtain ⟨w,run,facts⟩ := Option.map_eq_some_iff.mp (by decide :
    (exec step {} redirectedSpawn).map (fun w => (w.scripts[1]?).map Script.phase) =
        some (some (.served (some "worker"))))
  obtain ⟨script,there,served⟩ := Option.map_eq_some_iff.mp facts
  exact ⟨w,run,(bundles_follow_arms run).1 1 script (some "worker") there served⟩

end Runs

end FFWebHid.ShadowSpawns
