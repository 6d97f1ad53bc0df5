import FFWebHid.Runs

/-!
The picker in a window or a popup of the page action. The background page keeps one
pending request a tab, a picker page asks for "the" pending request when it loads,
and sends the result with the tab and the identifier of the request that it got.
A request is known by its tab and its identifier; which request a picker page was
opened for is recorded as a ghost.
-/
namespace FFWebHid.Pickers
open FFWebHid.Runs

section
variable {κ ν : Type} [DecidableEq κ]

/-- `Map`: its entries in order of insertion. -/
abbrev OrderedMap (κ ν : Type) := List (κ × ν)

def get (m : OrderedMap κ ν) (key : κ) : Option ν := (m.find? fun entry => entry.1 = key).map (·.2)

/-- A key that is present keeps its place. -/
def set (m : OrderedMap κ ν) (key : κ) (value : ν) : OrderedMap κ ν :=
  if m.any fun entry => entry.1 = key then m.map fun entry => if entry.1 = key then (key,value) else entry
  else m ++ [(key,value)]

def delete (m : OrderedMap κ ν) (key : κ) : OrderedMap κ ν := m.filter fun entry => entry.1 ≠ key

theorem get_delete (m : OrderedMap κ ν) (key other : κ) :
    get (delete m key) other = if other = key then none else get m other := by
  induction m with
  | nil => simp [get,delete]
  | cons entry rest ih =>
    simp only [get,delete,List.filter_cons,List.find?_cons] at ih ⊢
    by_cases here : entry.1 = key
    · by_cases same : other = key
      · simp [here,same] at ih ⊢
      · simpa [here,same,Ne.symm same] using ih
    · by_cases found : entry.1 = other
      · subst found; simp [here]
      · simpa [here,found] using ih

theorem mem_set {m : OrderedMap κ ν} {key : κ} {value : ν} {entry : κ × ν} (member : entry ∈ set m key value) :
    entry ∈ m ∨ entry = (key,value) := by
  unfold set at member
  split at member
  · obtain ⟨old,there,same⟩ := List.mem_map.mp member
    split at same
    · exact Or.inr same.symm
    · exact Or.inl (same ▸ there)
  · rcases List.mem_append.mp member with there | new
    · exact Or.inl there
    · exact Or.inr (List.mem_singleton.mp new)

end

inductive PickerMode where
  | window
  | pageAction
  deriving DecidableEq, Repr

structure DeviceFilter where
  vendorId : Option Nat := none
  productId : Option Nat := none
  usagePage : Option Nat := none
  usage : Option Nat := none
  deriving DecidableEq, Repr

structure PickerRequest where
  requestId : String
  tabId : Nat
  filters : List DeviceFilter
  exclusionFilters : List DeviceFilter
  origin : String
  mode : PickerMode
  deriving DecidableEq, Repr

/-- A picker page, from `loadPending` to `unload`; the answers to its results that
    it has not seen yet are counted. -/
structure Page where
  openedFor : PickerRequest
  loaded : Bool := false
  pendingRequest : Option PickerRequest := none
  answers : Nat := 0
  closed : Bool := false
  deriving DecidableEq, Repr

/-- The message `pickerResult`, with the page that sent it as a ghost. -/
structure PickerResult where
  requestId : String
  tabId : Option Nat
  selected : Bool
  devices : Option (List Nat)
  page : Nat
  deriving DecidableEq, Repr

/-- What the background page sends to a tab. -/
structure Delivery where
  tabId : Nat
  requestId : String
  selected : Bool
  devices : Option (List Nat)
  page : Nat
  deriving DecidableEq, Repr

structure World where
  pendingPicker : OrderedMap Nat PickerRequest := []
  shown : List PickerRequest := []
  pages : Nat → Option Page := fun _ => none
  results : List PickerResult := []
  delivered : List Delivery := []

namespace World
variable (w : World)

def handleShowPicker (request : PickerRequest) : World :=
  { w with pendingPicker := set w.pendingPicker request.tabId request, shown := request :: w.shown }

/-- The page of a request asks to forget it, and only it. -/
def handleCancelPicker (tabId : Nat) (requestId : String) : World :=
  match get w.pendingPicker tabId with
  | some request =>
    if request.requestId = requestId then { w with pendingPicker := delete w.pendingPicker tabId } else w
  | none => w

/-- The first pending request, of whatever tab. -/
def handleGetPendingPicker : Option PickerRequest := w.pendingPicker.head?.map (·.2)

/-- A result from a page that is not a picker is rejected. -/
def handlePickerResult (fromPicker : Bool) (result : PickerResult) : World :=
  if !fromPicker then w
  else
    match result.tabId.or (w.pendingPicker.head?.map (·.1)) with
    | none => w
    | some tabId =>
      { w with
        pendingPicker := delete w.pendingPicker tabId
        delivered := ⟨tabId,result.requestId,result.selected,if result.selected then result.devices else none,
          result.page⟩ :: w.delivered }

def withPage (n : Nat) (page : Page) : World := { w with pages := Function.update w.pages n (some page) }

/-- The page sends a result for the request that it works on. -/
def send (n : Nat) (request : PickerRequest) (selected : Bool) (devices : Option (List Nat)) : World :=
  { w with results := w.results ++ [⟨request.requestId,some request.tabId,selected,devices,n⟩] }

end World

inductive Action where
  | showPicker (request : PickerRequest)
  | cancelPicker (tabId : Nat) (requestId : String)
  | openPage (n : Nat) (request : PickerRequest)
  | loadPending (n : Nat)
  | connect (n : Nat) (devices : List Nat)
  | cancel (n : Nat)
  | unload (n : Nat)
  | handleResult (k : Nat)
  | strayResult (result : PickerResult)
  | answered (n : Nat)
  deriving DecidableEq, Repr

/-- The page of a request that was shown opens at any later time, and its messages
    arrive in any order. -/
def step (w : World) : Action → Option World
  | .showPicker request => some (w.handleShowPicker request)
  | .cancelPicker tabId requestId => some (w.handleCancelPicker tabId requestId)
  | .openPage n request =>
    if request ∈ w.shown ∧ w.pages n = none then some (w.withPage n { openedFor := request }) else none
  | .loadPending n => (w.pages n).bind fun page =>
    if page.loaded || page.closed then none
    else some (w.withPage n { page with loaded := true, pendingRequest := w.handleGetPendingPicker })
  | .connect n devices => (w.pages n).bind fun page =>
    if page.closed then none else page.pendingRequest.map fun request => w.send n request true (some devices)
  | .cancel n => (w.pages n).bind fun page =>
    if page.closed then none
    else match page.pendingRequest with
      | some request => some (w.send n request false none)
      | none => some (w.withPage n { page with closed := true })
  | .unload n => (w.pages n).bind fun page =>
    if page.closed then none
    else
      let closed := w.withPage n { page with closed := true }
      some (page.pendingRequest.elim closed fun request => closed.send n request false none)
  | .handleResult k => (w.results[k]?).map fun result =>
    let handled := { w with results := w.results.eraseIdx k }.handlePickerResult true result
    (w.pages result.page).elim handled fun page => handled.withPage result.page { page with answers := page.answers + 1 }
  | .strayResult result => some (w.handlePickerResult false result)
  | .answered n => (w.pages n).bind fun page =>
    if page.closed || page.answers = 0 then none
    else some (w.withPage n { page with pendingRequest := none, closed := true })

/-! ### Consent -/

/-- What the page of a request may do: it loads that request while it is pending and
    nothing afterwards; its result goes to the tab of the request with its identifier
    and removes no other pending request. A cancellation by the tab removes only what
    it names. -/
def Bound (w : World) (a : Action) (w' : World) : Prop :=
  match a with
  | .loadPending n => ∀ page, w.pages n = some page → (w'.pages n).map (·.pendingRequest) = some
      (if get w.pendingPicker page.openedFor.tabId = some page.openedFor then some page.openedFor else none)
  | .handleResult k => ∀ result page, w.results[k]? = some result → w.pages result.page = some page →
      w'.delivered = ⟨page.openedFor.tabId,page.openedFor.requestId,result.selected,
        if result.selected then result.devices else none,result.page⟩ :: w.delivered ∧
      ∀ t q, get w.pendingPicker t = some q → q ≠ page.openedFor → get w'.pendingPicker t = some q
  | .cancelPicker tabId requestId => w'.delivered = w.delivered ∧
      ∀ t q, get w.pendingPicker t = some q → t ≠ tabId ∨ q.requestId ≠ requestId → get w'.pendingPicker t = some q
  | .showPicker _ => w'.delivered = w.delivered
  | _ => w'.delivered = w.delivered ∧ w'.pendingPicker = w.pendingPicker

/-- When a picker page asks for its request, that one is pending before all others,
    or none is; and when its result is handled, its tab has no other one. -/
def apart (w : World) : Action → Bool
  | .loadPending n => (w.pages n).all fun page =>
    w.pendingPicker.head?.all fun entry => entry.2 = page.openedFor
  | .handleResult k => (w.results[k]?).all fun result => (w.pages result.page).all fun page =>
    (get w.pendingPicker page.openedFor.tabId).all fun request => request = page.openedFor
  | _ => true

/-- Requests are pending under their tabs, pages work on the requests that they were
    opened for, and so do the results on their way. -/
structure Ok (w : World) : Prop where
  keyed : ∀ entry ∈ w.pendingPicker, entry.1 = entry.2.tabId
  works : ∀ n page request, w.pages n = some page → page.pendingRequest = some request → request = page.openedFor
  sent : ∀ result ∈ w.results, ∃ page, w.pages result.page = some page ∧
    result.tabId = some page.openedFor.tabId ∧ result.requestId = page.openedFor.requestId

variable {w w' : World}

theorem Ok.init : Ok {} := ⟨by simp,by rintro n page request ⟨⟩,by simp⟩

theorem Ok.withPage (ok : Ok w) {n : Nat} {page : Page} (own : ∀ request, page.pendingRequest = some request →
    request = page.openedFor) (same : ∀ old, w.pages n = some old → page.openedFor = old.openedFor) :
    Ok (w.withPage n page) := by
  refine ⟨ok.keyed,?_,?_⟩
  · intro n' page' request there pending
    by_cases here : n' = n
    · subst here
      obtain rfl : page = page' := by simpa [World.withPage] using there
      exact own request pending
    · exact ok.works n' page' request (by simpa [World.withPage,here] using there) pending
  · intro result member
    obtain ⟨old,there,tab,id⟩ := ok.sent result member
    by_cases here : result.page = n
    · refine ⟨page,by simp [World.withPage,here],?_,?_⟩
      · rw [same old (here ▸ there)]; exact tab
      · rw [same old (here ▸ there)]; exact id
    · exact ⟨old,by simpa [World.withPage,here] using there,tab,id⟩

theorem Ok.send (ok : Ok w) {n : Nat} {page : Page} (there : w.pages n = some page) {request : PickerRequest}
    (own : request = page.openedFor) (selected : Bool) (devices : Option (List Nat)) :
    Ok (w.send n request selected devices) := by
  refine ⟨ok.keyed,ok.works,?_⟩
  intro result member
  rcases List.mem_append.mp member with before | new
  · exact ok.sent result before
  · rw [List.mem_singleton.mp new]
    exact ⟨page,there,by rw [own],by rw [own]⟩

theorem Ok.pending (ok : Ok w) {pending : OrderedMap Nat PickerRequest} {shown : List PickerRequest}
    {delivered : List Delivery} {results : List PickerResult}
    (keyed : ∀ entry ∈ pending, entry.1 = entry.2.tabId) (fewer : ∀ result ∈ results, result ∈ w.results) :
    Ok { w with pendingPicker := pending, shown := shown, delivered := delivered, results := results } :=
  ⟨keyed,ok.works,fun result member => ok.sent result (fewer result member)⟩

/-- Results on their way name the request of their page. -/
private theorem handled_eq (ok : Ok w) {k : Nat} {result : PickerResult} {page : Page}
    (there : w.results[k]? = some result) (opened : w.pages result.page = some page) :
    step w (.handleResult k) = some ({ w with
      results := w.results.eraseIdx k
      pendingPicker := delete w.pendingPicker page.openedFor.tabId
      delivered := ⟨page.openedFor.tabId,page.openedFor.requestId,result.selected,
        if result.selected then result.devices else none,result.page⟩ :: w.delivered }.withPage result.page
          { page with answers := page.answers + 1 }) := by
  obtain ⟨page',opened',tab,id⟩ := ok.sent result (List.mem_of_getElem? there)
  obtain rfl : page' = page := Option.some.inj (opened'.symm.trans opened)
  simp only [step,there,Option.map_some,opened,Option.elim_some,World.handlePickerResult,tab,Option.some_or,id,
    Bool.not_true,Bool.false_eq_true,if_false]

private theorem keyed_delete (ok : Ok w) (t : Nat) : ∀ entry ∈ delete w.pendingPicker t, entry.1 = entry.2.tabId :=
  fun entry member => ok.keyed entry (List.mem_filter.mp member).1

/-- Every step keeps the invariant when a page that loads gets its own request. -/
private theorem step_ok (ok : Ok w) {a : Action} (taken : step w a = some w')
    (loads : ∀ n, a = .loadPending n → ∀ page, w.pages n = some page →
      ∀ request, w.handleGetPendingPicker = some request → request = page.openedFor) : Ok w' := by
  cases a with
  | showPicker request =>
    cases taken
    refine ok.pending ?_ (fun _ => id)
    intro entry member
    rcases mem_set member with before | rfl
    · exact ok.keyed entry before
    · rfl
  | cancelPicker tabId requestId =>
    cases taken
    unfold World.handleCancelPicker
    split
    · split
      · exact ok.pending (keyed_delete ok tabId) (fun _ => id)
      · exact ok
    · exact ok
  | openPage n request =>
    obtain ⟨⟨_,free⟩,result⟩ := Option.ite_none_right_eq_some.mp taken
    cases result
    refine ok.withPage (by rintro q ⟨⟩) ?_
    intro old there; rw [free] at there; cases there
  | loadPending n =>
    obtain ⟨page,there,taken⟩ := Option.bind_eq_some_iff.mp taken
    obtain ⟨_,result⟩ := Option.ite_none_left_eq_some.mp taken
    cases result
    refine ok.withPage (fun request pending => loads n rfl page there request pending) ?_
    intro old there'; rw [there] at there'; cases there'; rfl
  | connect n devices =>
    obtain ⟨page,there,taken⟩ := Option.bind_eq_some_iff.mp taken
    obtain ⟨_,taken⟩ := Option.ite_none_left_eq_some.mp taken
    obtain ⟨request,pending,result⟩ := Option.map_eq_some_iff.mp taken
    cases result
    exact ok.send there (ok.works n page request there pending) _ _
  | cancel n =>
    obtain ⟨page,there,taken⟩ := Option.bind_eq_some_iff.mp taken
    obtain ⟨_,taken⟩ := Option.ite_none_left_eq_some.mp taken
    split at taken
    next request pending =>
      cases taken
      exact ok.send there (ok.works n page request there pending) _ _
    next none =>
      cases taken
      refine ok.withPage (by intro q pending; rw [none] at pending; cases pending) ?_
      intro old there'; rw [there] at there'; cases there'; rfl
  | unload n =>
    obtain ⟨page,there,taken⟩ := Option.bind_eq_some_iff.mp taken
    obtain ⟨_,taken⟩ := Option.ite_none_left_eq_some.mp taken
    have own := ok.works n page
    have closed : Ok (w.withPage n { page with closed := true }) := by
      refine ok.withPage (fun request pending => own request there pending) ?_
      intro old there'; rw [there] at there'; cases there'; rfl
    obtain rfl := Option.some.inj taken
    have sends (request : PickerRequest) (pending : page.pendingRequest = some request) :
        Ok ((w.withPage n { page with closed := true }).send n request false none) :=
      closed.send (show _ = some { page with closed := true } by simp [World.withPage]) (own request there pending) _ _
    cases pending : page.pendingRequest with
    | none => simpa [pending] using closed
    | some request => simpa [pending] using sends request pending
  | handleResult k =>
    obtain ⟨result,there,same⟩ := Option.map_eq_some_iff.mp taken
    obtain ⟨page,opened,_⟩ := ok.sent result (List.mem_of_getElem? there)
    rw [handled_eq ok there opened] at taken
    cases taken
    refine (ok.pending (keyed_delete ok _) (fun result => List.mem_of_mem_eraseIdx)).withPage ?_ ?_
    · intro request pending; exact ok.works _ page request opened pending
    · intro old there'
      rw [show w.pages result.page = some old from there'] at opened
      cases opened; rfl
  | strayResult result => cases taken; exact ok
  | answered n =>
    obtain ⟨page,there,taken⟩ := Option.bind_eq_some_iff.mp taken
    obtain ⟨_,result⟩ := Option.ite_none_left_eq_some.mp taken
    cases result
    refine ok.withPage (by rintro q ⟨⟩) ?_
    intro old there'; rw [there] at there'; cases there'; rfl

/-- What `getPendingPicker` answers is pending under its tab. -/
private theorem first_pending (ok : Ok w) {request : PickerRequest}
    (first : w.handleGetPendingPicker = some request) : get w.pendingPicker request.tabId = some request := by
  unfold World.handleGetPendingPicker at first
  cases entries : w.pendingPicker with
  | nil => rw [entries] at first; cases first
  | cons entry rest =>
    rw [entries] at first
    obtain rfl : entry.2 = request := Option.some.inj first
    have keyed := ok.keyed entry (by rw [entries]; exact List.mem_cons_self)
    simp [get,keyed]

private theorem load_bound (ok : Ok w) {n : Nat} (taken : step w (.loadPending n) = some w') :
    Bound w (.loadPending n) w' ↔ apart w (.loadPending n) = true := by
  obtain ⟨page,there,taken⟩ := Option.bind_eq_some_iff.mp taken
  obtain ⟨_,result⟩ := Option.ite_none_left_eq_some.mp taken
  cases result
  have loaded : Bound w (.loadPending n)
      (w.withPage n { page with loaded := true, pendingRequest := w.handleGetPendingPicker }) ↔
      w.handleGetPendingPicker =
        if get w.pendingPicker page.openedFor.tabId = some page.openedFor then some page.openedFor else none := by
    simp [Bound,there,World.withPage]
  rw [loaded]
  simp only [apart,there,Option.all_some]
  cases entries : w.pendingPicker with
  | nil => simp [World.handleGetPendingPicker,entries,get]
  | cons entry rest =>
    have answer : w.handleGetPendingPicker = some entry.2 := by rw [World.handleGetPendingPicker,entries]; rfl
    rw [answer,List.head?_cons,Option.all_some,decide_eq_true_eq,← entries]
    constructor
    · intro own
      split at own
      · exact Option.some.inj own
      · cases own
    · rintro own
      rw [if_pos (own ▸ first_pending ok answer),own]

private theorem handle_bound (ok : Ok w) {k : Nat} (taken : step w (.handleResult k) = some w') :
    Bound w (.handleResult k) w' ↔ apart w (.handleResult k) = true := by
  obtain ⟨result,there,_⟩ := Option.map_eq_some_iff.mp taken
  obtain ⟨page,opened,_⟩ := ok.sent result (List.mem_of_getElem? there)
  rw [handled_eq ok there opened] at taken
  cases taken
  simp only [apart,there,opened,Option.all_some]
  constructor
  · intro bound
    have kept := (bound result page there opened).2
    cases pending : get w.pendingPicker page.openedFor.tabId with
    | none => rfl
    | some request =>
      simp only [Option.all_some,decide_eq_true_eq]
      by_contra other
      have gone : get (delete w.pendingPicker page.openedFor.tabId) page.openedFor.tabId = some request :=
        kept _ request pending other
      rw [get_delete,if_pos rfl] at gone; cases gone
  · intro only result' page' there' opened'
    obtain rfl : result = result' := Option.some.inj (there.symm.trans there')
    obtain rfl : page = page' := Option.some.inj (opened.symm.trans opened')
    refine ⟨rfl,?_⟩
    intro t q pending other
    have elsewhere : t ≠ page.openedFor.tabId := by
      rintro rfl
      rw [pending,Option.all_some,decide_eq_true_eq] at only
      exact other only
    exact (get_delete _ _ _).trans ((if_neg elsewhere).trans pending)

private theorem cancel_bound {tabId : Nat} {requestId : String}
    (taken : step w (.cancelPicker tabId requestId) = some w') : Bound w (.cancelPicker tabId requestId) w' := by
  cases taken
  simp only [Bound,World.handleCancelPicker]
  cases pending : get w.pendingPicker tabId with
  | none => exact ⟨rfl,fun t q found _ => found⟩
  | some request =>
    dsimp only
    split
    next same =>
      refine ⟨rfl,?_⟩
      intro t q found other
      have elsewhere : t ≠ tabId := by
        rintro rfl
        rw [pending] at found
        cases found
        rcases other with no | no
        · exact no rfl
        · exact no same
      simp only [get_delete,if_neg elsewhere]; exact found
    · exact ⟨rfl,fun t q found _ => found⟩

/-- One step is bound to the request of its page exactly when that one is apart. -/
theorem bound_iff (ok : Ok w) {a : Action} (taken : step w a = some w') : Bound w a w' ↔ apart w a = true := by
  cases a with
  | loadPending n => exact load_bound ok taken
  | handleResult k => exact handle_bound ok taken
  | cancelPicker tabId requestId => exact iff_of_true (cancel_bound taken) rfl
  | showPicker request => cases taken; exact iff_of_true rfl rfl
  | openPage n request =>
    obtain ⟨_,result⟩ := Option.ite_none_right_eq_some.mp taken
    cases result; exact iff_of_true ⟨rfl,rfl⟩ rfl
  | strayResult result => cases taken; exact iff_of_true ⟨rfl,rfl⟩ rfl
  | connect n devices =>
    obtain ⟨page,_,taken⟩ := Option.bind_eq_some_iff.mp taken
    obtain ⟨_,taken⟩ := Option.ite_none_left_eq_some.mp taken
    obtain ⟨request,_,result⟩ := Option.map_eq_some_iff.mp taken
    cases result; exact iff_of_true ⟨rfl,rfl⟩ rfl
  | cancel n =>
    obtain ⟨page,_,taken⟩ := Option.bind_eq_some_iff.mp taken
    obtain ⟨_,taken⟩ := Option.ite_none_left_eq_some.mp taken
    split at taken <;> cases taken <;> exact iff_of_true ⟨rfl,rfl⟩ rfl
  | unload n =>
    obtain ⟨page,_,taken⟩ := Option.bind_eq_some_iff.mp taken
    obtain ⟨_,taken⟩ := Option.ite_none_left_eq_some.mp taken
    obtain rfl := Option.some.inj taken
    cases page.pendingRequest <;> exact iff_of_true ⟨rfl,rfl⟩ rfl
  | answered n =>
    obtain ⟨page,_,taken⟩ := Option.bind_eq_some_iff.mp taken
    obtain ⟨_,result⟩ := Option.ite_none_left_eq_some.mp taken
    cases result; exact iff_of_true ⟨rfl,rfl⟩ rfl

private theorem apart_loads {a : Action} (apart : apart w a = true) (n : Nat) (loads : a = .loadPending n)
    (page : Page) (there : w.pages n = some page) (request : PickerRequest)
    (first : w.handleGetPendingPicker = some request) : request = page.openedFor := by
  subst loads
  simp only [Pickers.apart,there,Option.all_some] at apart
  obtain ⟨entry,head,rfl⟩ := Option.map_eq_some_iff.mp first
  rw [head] at apart
  exact of_decide_eq_true apart

/-- On every run, the picker pages of all requests are bound to their requests
    exactly when the requests are apart at the steps of the pages. -/
theorem picker_consent_iff (trace : List Action) :
    AllSteps step Bound {} trace ↔ AllSteps step (fun w a _ => apart w a = true) {} trace := by
  constructor
  · refine allSteps_under (I := Ok) ?_ (fun w a w' ok taken => (bound_iff ok taken).mp) Ok.init
    intro w a w' ok taken bound
    exact step_ok ok taken (apart_loads ((bound_iff ok taken).mp bound))
  · refine allSteps_under (I := Ok) ?_ (fun w a w' ok taken => (bound_iff ok taken).mpr) Ok.init
    intro w a w' ok taken fine
    exact step_ok ok taken (apart_loads fine)

/-- The requests of two tabs, of different origins. -/
def firstRequest : PickerRequest := ⟨"c1f0:1",1,[],[],"https://bank.example",.window⟩
def secondRequest : PickerRequest := ⟨"97ab:4",2,[],[],"https://game.example",.window⟩

/-- Both are pending when the page that was opened for the second one loads; the user
    chooses a device in it. -/
def overlapping : List Action :=
  [.showPicker firstRequest,.openPage 0 firstRequest,.showPicker secondRequest,.openPage 1 secondRequest,
    .loadPending 1,.connect 1 [7],.handleResult 0]

/-- The device goes to the first tab, and its request is no longer pending. -/
theorem consent_goes_elsewhere : ∃ w, exec step {} overlapping = some w ∧
    (w.pages 1).map (·.openedFor) = some secondRequest ∧
    w.delivered = [⟨1,"c1f0:1",true,some [7],1⟩] ∧ w.pendingPicker = [(2,secondRequest)] ∧
    ¬ AllSteps step Bound {} overlapping := by
  obtain ⟨w,run⟩ := Option.isSome_iff_exists.mp (by decide : (exec step {} overlapping).isSome = true)
  have facts : (exec step {} overlapping).map (fun w => ((w.pages 1).map (·.openedFor),w.delivered,w.pendingPicker)) =
      some (some secondRequest,[⟨1,"c1f0:1",true,some [7],1⟩],[(2,secondRequest)]) := by decide
  rw [run] at facts
  simp only [Option.map_some,Option.some.injEq,Prod.mk.injEq] at facts
  refine ⟨w,run,facts.1,facts.2.1,facts.2.2,?_⟩
  intro bound
  obtain ⟨loading,before⟩ := Option.isSome_iff_exists.mp
    (by decide : (exec step {} (overlapping.take 4)).isSome = true)
  have pending : (exec step {} (overlapping.take 4)).map (fun w =>
      ((w.pages 1),w.pendingPicker,(step w (.loadPending 1)).bind fun w => w.pages 1)) =
      some (some { openedFor := secondRequest },[(1,firstRequest),(2,secondRequest)],
        some { openedFor := secondRequest, loaded := true, pendingRequest := some firstRequest }) := by decide
  rw [before] at pending
  simp only [Option.map_some,Option.some.injEq,Prod.mk.injEq] at pending
  obtain ⟨opened,requests,loaded⟩ := pending
  obtain ⟨w',taken,page⟩ := Option.bind_eq_some_iff.mp loaded
  have own := (show AllSteps step Bound {} (overlapping.take 4 ++ .loadPending 1 :: overlapping.drop 5) from bound).at
    before taken _ opened
  rw [page,requests] at own
  exact absurd own (by decide)

end FFWebHid.Pickers
