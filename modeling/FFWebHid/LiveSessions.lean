import FFWebHid.Maps
import FFWebHid.Runs
import FFWebHid.StateOps
import FFWebHid.Background
import FFWebHid.Bookkeeping

/-!
What one step of the background page does to the live sessions: it registers at most
one, and every other change is that it starts or completes the close of the sessions
that it collected. From this, what a live session has in every reachable state: a
frame that is not retired, and a grant unless a revocation is on its way to it.
-/
namespace FFWebHid.LiveSessions
open FFWebHid.Maps FFWebHid.Runs FFWebHid.StateOps FFWebHid.Background FFWebHid.Bookkeeping

def revocationHead : Option Revocation → List (DeviceId × Token)
  | none => []
  | some rev => (rev.tokens.take 1).map fun t => (rev.deviceId,t)

/-- The sessions that a settled request takes down: the next session of a revocation,
    or the session whose own close was accepted. -/
def settles (accepted : Bool) : Continuation → List (DeviceId × Token)
  | .cleaned _ _ _ rest => revocationHead rest
  | .closed _ d t => if accepted then [(d,t)] else []
  | _ => []

/-- The sessions whose close the step starts or completes together with one open of
    their tab. -/
def released (b : Browser) (w : World) : Action → List (DeviceId × Token)
  | .frameDestroyed frame => w.state.collectDeviceSessionsForFrame (b.tabOf frame.bridgeInstanceId) frame
  | .bridgeGone bridge => w.state.collectDeviceSessionsForBridge (b.tabOf bridge) bridge
  | .answer n response => ((w.pending.lookup n).map (settles (isOk response.s))).getD []
  | .timeout n => ((w.pending.lookup n).map (settles false)).getD []
  | .stored k =>
    match w.store.lookup k with
    | some (.revokeRemove origin d _ _) => (w.state.collectDeviceSessionsForOrigin d origin).take 1
    | _ => []
  | _ => []

/-- The sessions whose close the step starts or completes. -/
def collected (b : Browser) (w : World) : Action → List (DeviceId × Token)
  | .cleanupSession d t => [(d,t)]
  | .tabRemoved tab => w.state.collectDeviceSessionsForTab tab
  | .retryOrphans => w.state.orphanCleanup.entries.map fun entry => (entry.2,entry.1)
  | a => released b w a

/-- Every operation that was started has ended, and the daemon has answered everything. -/
def settled (w : World) : Bool := w.pending.entries.isEmpty && w.inFlight.entries.isEmpty && w.store.entries.isEmpty

/-- The step is the second lookup of an open, and registers the session. -/
structure Registers (b : Browser) (w : World) (a : Action) (k : Nat) (client : Client) (d : DeviceId) (t : Token)
    (o : Owner) : Prop where
  action : a = .stored k
  waits : ∃ r, w.store.lookup k = some (.openRecheck client d r) ∧ r.t = t
  owner : o = ⟨b.tab client,b.origin client,client.frame,client.frame.bridgeInstanceId,client.clientKey,k⟩
  allowed : (b.origin client,d) ∈ w.allowed
  active : w.state.isFrameLifetimeActive (b.tab client) client.frame = true
  nonzero : d ≠ 0
  origin : b.origin client ≠ ""

section
variable {b : Browser} {w w' : World} {d d' : DeviceId} {t t' : Token} {o : Owner}

/-! ### Live sessions under the operations -/

theorem live_congr (pending : w'.pending = w.pending) (sessions : w'.state.deviceSessions = w.state.deviceSessions) :
    Live w' d t o ↔ Live w d t o := by
  have endings : ending w' d t = ending w d t := by rw [ending,ending,pending]
  constructor
  · rintro ⟨registered,kept⟩; exact ⟨by rw [ownerOf,← sessions]; exact registered,endings ▸ kept⟩
  · rintro ⟨registered,kept⟩; exact ⟨by rw [ownerOf,sessions]; exact registered,endings ▸ kept⟩

theorem ending_sendFrame (ok : Sound b w) (c : Continuation) :
    ending (w.sendFrame c) d t = true ↔ ending w d t = true ∨ ends d t c = true := by
  simp only [ending_iff,pending_sendFrame ok]
  constructor
  · rintro ⟨n,c',⟨_,rfl⟩ | ⟨_,found⟩,here⟩
    · exact Or.inr here
    · exact Or.inl ⟨n,c',found,here⟩
  · rintro (⟨n,c',found,here⟩ | here)
    · exact ⟨n,c',Or.inr ⟨ok.pendingFresh n c' found,found⟩,here⟩
    · exact ⟨w.nextId,c,Or.inl ⟨rfl,rfl⟩,here⟩

theorem live_sendFrame (ok : Sound b w) (c : Continuation) :
    Live (w.sendFrame c) d t o ↔ Live w d t o ∧ ends d t c = false := by
  have endings := ending_sendFrame (d := d) (t := t) ok c
  constructor
  · rintro ⟨registered,kept⟩
    have neither := endings.not.mp (Bool.not_eq_true _ ▸ kept)
    exact ⟨⟨registered,Bool.eq_false_of_not_eq_true fun here => neither (Or.inl here)⟩,
      Bool.eq_false_of_not_eq_true fun here => neither (Or.inr here)⟩
  · rintro ⟨⟨registered,kept⟩,other⟩
    refine ⟨registered,Bool.eq_false_of_not_eq_true fun here => ?_⟩
    rcases endings.mp here with before | new
    · rw [kept] at before; cases before
    · rw [other] at new; cases new

/-- A cleanup takes down the session that it names. -/
theorem live_closeForCleanup (ok : Sound b w) {rest : Option Revocation} :
    Live (w.closeForCleanup d t rest) d' t' o ↔ Live w d' t' o ∧ (d',t') ≠ (d,t) := by
  rw [World.closeForCleanup,live_sendFrame ok]
  refine and_congr_right fun live => ?_
  constructor
  · rintro other ⟨rfl,rfl⟩
    have taken : ends d t (.cleaned d t (some o) rest) = true := ends_iff.mpr ⟨o,rest,rfl⟩
    rw [show w.state.deviceSessions.lookup (d,t) = some o from live.registered,taken] at other
    cases other
  · intro other
    refine Bool.eq_false_of_not_eq_true fun here => other ?_
    obtain ⟨_,_,same⟩ := ends_iff.mp here
    injection same with device token
    rw [device,token]

theorem live_closeNext {before : BgState → DeviceId × Token → BgState} (quiet : Quiet before) (ok : Sound b w)
    (key : DeviceId × Token) : Live (w.closeNext before key) d t o ↔ Live w d t o ∧ (d,t) ≠ key := by
  have updated : Sound b { w with state := before w.state key } :=
    ok.withCounts (quiet.sessions _ key) (quiet.orphans _ key) (quiet.noZero _ key ok.noZero)
  rw [World.closeNext,live_closeForCleanup updated]
  exact and_congr_left fun _ => live_congr rfl (quiet.sessions _ key)

theorem live_closeAll {before : BgState → DeviceId × Token → BgState} (quiet : Quiet before)
    (keys : List (DeviceId × Token)) (ok : Sound b w) (told : ∀ key ∈ keys, Told w key.2) :
    Live (w.closeAll before keys) d t o ↔ Live w d t o ∧ (d,t) ∉ keys := by
  induction keys generalizing w with
  | nil => simp [World.closeAll]
  | cons key rest ih =>
    have next := Sound.closeNext quiet ok (told key List.mem_cons_self)
    have later := ih next fun key' member => told key' (List.mem_cons_of_mem key member)
    rw [show w.closeAll before (key :: rest) = (w.closeNext before key).closeAll before rest from rfl,later,
      live_closeNext quiet ok,List.mem_cons,not_or,and_assoc]

theorem revokeNext_state {origin : Origin} {call : RevokeCall} {devices : List DeviceId} :
    (w.revokeNext origin call devices).state = w.state := by
  cases devices <;> rfl

theorem revokeTokens_sessions (rev : Revocation) :
    (w.revokeTokens rev).state.deviceSessions = w.state.deviceSessions := by
  obtain ⟨origin,d,tokens,devices,call⟩ := rev
  cases tokens with
  | nil => rw [World.revokeTokens,revokeNext_state]
  | cons t tokens => exact unregisterOwnerTab_sessions

theorem live_revokeNext {origin : Origin} {call : RevokeCall} {devices : List DeviceId} :
    Live (w.revokeNext origin call devices) d t o ↔ Live w d t o := by
  cases devices <;> exact live_congr rfl rfl

theorem live_revokeTokens (ok : Sound b w) {rev : Revocation} :
    Live (w.revokeTokens rev) d t o ↔ Live w d t o ∧ (d,t) ∉ revocationHead (some rev) := by
  obtain ⟨origin,d',tokens,devices,call⟩ := rev
  cases tokens with
  | nil => simp only [World.revokeTokens,live_revokeNext,revocationHead,List.take_nil,List.map_nil]; simp
  | cons t' tokens =>
    have sessions : (w.state.unregisterOwnerTab d' t').deviceSessions = w.state.deviceSessions :=
      unregisterOwnerTab_sessions
    have updated : Sound b { w with state := w.state.unregisterOwnerTab d' t' } :=
      ok.withCounts sessions unregisterOwnerTab_orphanCleanup (noZero_unregisterOwnerTab ok.noZero)
    have head : revocationHead (some ⟨origin,d',t' :: tokens,devices,call⟩) = [(d',t')] := rfl
    rw [head,List.mem_singleton,World.revokeTokens,live_closeForCleanup updated]
    exact and_congr_left fun _ => live_congr rfl sessions

/-- The settled cleanup leaves the live sessions as they were: its own was not live. -/
theorem live_cleanupDone (ok : Sound b w) {n : Nat} {own : Option Owner} {rest : Option Revocation}
    (waiting : w.pending.lookup n = some (.cleaned d t own rest)) {f : HashMap Nat NmRequest} (gone : Bool) :
    Live ({ w with pending := w.pending.erase n, inFlight := f }.cleanupDone d t own gone) d' t' o ↔
      Live w d' t' o := by
  obtain ⟨_,here,_⟩ := ok.continuations n _ waiting
  have sessions : ({ w with pending := w.pending.erase n, inFlight := f }.cleanupDone d t own gone
      ).state.deviceSessions = (w.state.dropOwned d t own).deviceSessions := by cases gone <;> rfl
  have pending : ({ w with pending := w.pending.erase n, inFlight := f }.cleanupDone d t own gone
      ).pending = w.pending.erase n := by cases gone <;> rfl
  generalize ({ w with pending := w.pending.erase n, inFlight := f }.cleanupDone d t own gone) = w'
    at sessions pending
  by_cases same : (d',t') = (d,t)
  · cases same
    constructor
    · rintro ⟨registered,_⟩
      rw [ownerOf,sessions,dropOwned_gone here] at registered
      cases registered
    · rintro ⟨registered,kept⟩
      rcases here with same | none
      · have taken : ending w d t = true :=
          ending_iff.mpr ⟨n,_,waiting,ends_iff.mpr ⟨o,rest,by rw [← same,registered]⟩⟩
        rw [kept] at taken; cases taken
      · rw [none] at registered; cases registered
  · have unchanged : ownerOf w' d' t' = ownerOf w d' t' := by
      rw [ownerOf,sessions,lookup_dropOwned,if_neg fun both => same both.1]
    have endings : ending w' d' t' = true ↔ ending w d' t' = true := by
      simp only [ending_iff,pending,lookup_erase_eq]
      constructor
      · rintro ⟨n',c,found,here⟩
        by_cases old : n' = n
        · rw [if_pos old] at found; cases found
        · rw [if_neg old] at found; exact ⟨n',c,found,here⟩
      · rintro ⟨n',c,found,here⟩
        refine ⟨n',c,?_,here⟩
        rw [if_neg]
        · exact found
        · rintro rfl
          obtain ⟨_,_,form⟩ := ends_iff.mp here
          cases Option.some.inj (waiting.symm.trans found)
          cases form
          exact same rfl
    constructor
    · rintro ⟨registered,kept⟩
      exact ⟨unchanged ▸ registered,Bool.eq_iff_iff.mpr endings ▸ kept⟩
    · rintro ⟨registered,kept⟩
      exact ⟨unchanged ▸ registered,Bool.eq_iff_iff.mpr endings ▸ kept⟩

theorem live_cleanupSettled (ok : Sound b w) {n : Nat} {own : Option Owner} {rest : Option Revocation}
    (waiting : w.pending.lookup n = some (.cleaned d t own rest)) {f : HashMap Nat NmRequest} (gone : Bool)
    (landed : Sound b { w with pending := w.pending.erase n, inFlight := f }) :
    Live ({ w with pending := w.pending.erase n, inFlight := f }.cleanupSettled d t own rest gone) d' t' o ↔
      Live w d' t' o ∧ (d',t') ∉ revocationHead rest := by
  obtain ⟨told,here,_⟩ := ok.continuations n _ waiting
  cases rest with
  | none =>
    rw [World.cleanupSettled,live_cleanupDone ok waiting gone]
    exact (and_iff_left List.not_mem_nil).symm
  | some rev => rw [World.cleanupSettled,live_revokeTokens (landed.cleanupDone told here gone),live_cleanupDone ok waiting gone]

/-- Forgetting a request that is no cleanup. -/
theorem live_forget {n : Nat} {c : Continuation} (waiting : w.pending.lookup n = some c)
    (plain : ∀ d t, ends d t c = false) {f : HashMap Nat NmRequest} :
    Live { w with pending := w.pending.erase n, inFlight := f } d t o ↔ Live w d t o := by
  have endings : ending { w with pending := w.pending.erase n, inFlight := f } d t = ending w d t := by
    rw [Bool.eq_iff_iff]
    simp only [ending_iff,lookup_erase_eq]
    constructor
    · rintro ⟨n',c',found,here⟩
      by_cases old : n' = n
      · rw [if_pos old] at found; cases found
      · rw [if_neg old] at found; exact ⟨n',c',found,here⟩
    · rintro ⟨n',c',found,here⟩
      refine ⟨n',c',?_,here⟩
      rw [if_neg]
      · exact found
      · rintro rfl
        cases Option.some.inj (waiting.symm.trans found)
        rw [plain] at here; cases here
  exact ⟨fun ⟨registered,kept⟩ => ⟨registered,endings ▸ kept⟩,fun ⟨registered,kept⟩ => ⟨registered,endings ▸ kept⟩⟩

theorem live_closeAnswered {client : Client} {response : NmResponse} (nonempty : t ≠ "") :
    Live (w.closeAnswered b client d t response) d' t' o ↔
      Live w d' t' o ∧ (d',t') ∉ settles (isOk response.s) (.closed client d t) := by
  by_cases accepted : isOk response.s = true
  · simp only [World.closeAnswered,if_pos accepted,if_neg nonempty,settles,List.mem_singleton]
    constructor
    · rintro ⟨registered,kept⟩
      have dropped := (lookup_erase_eq _ _ _).symm.trans registered
      by_cases same : (d',t') = (d,t)
      · rw [if_pos same] at dropped; cases dropped
      · rw [if_neg same] at dropped; exact ⟨⟨dropped,kept⟩,same⟩
    · rintro ⟨⟨registered,kept⟩,other⟩
      exact ⟨(lookup_erase_eq _ _ _).trans ((if_neg other).trans registered),kept⟩
  · simp [World.closeAnswered,settles,accepted]

/-- A token that an open holds occurs nowhere else. -/
theorem held_untold {k : Nat} {client : Client} {r : NmResponse}
    (held : w.store.lookup k = some (.openRecheck client d r)) : ¬ Told w r.t := by
  rintro ⟨_,free⟩
  rw [holds_iff.mpr ⟨k,client,d,r,held,rfl⟩] at free
  cases free

theorem registerDeviceSession_active {s : BgState} (active : s.isFrameLifetimeActive o.tabId o.frameKey = true) :
    s.registerDeviceSession d t o = if d = 0 ∨ t = "" ∨ o.origin = "" then none
      else some { s with deviceSessions := s.deviceSessions.insert (d,t) o } := by
  simp only [BgState.registerDeviceSession,active,if_true]

/-- The bookkeeping of an open that registers its session. -/
def registeredState (s : BgState) (d : DeviceId) (t : Token) (o : Owner) : BgState :=
  BgState.registerDeviceTab { s with deviceSessions := s.deviceSessions.insert (d,t) o } d o.tabId

/-- The second lookup of an open: it registers the session, or closes it. -/
theorem openRechecked_cases (ok : Sound b w) {k : Nat} {client : Client} {r : NmResponse}
    (held : w.store.lookup k = some (.openRecheck client d r)) {o : Owner}
    (new : o = ⟨b.tab client,b.origin client,client.frame,client.frame.bridgeInstanceId,client.clientKey,k⟩) :
    ((b.origin client,d) ∈ w.allowed ∧ w.state.isFrameLifetimeActive (b.tab client) client.frame = true ∧ d ≠ 0 ∧
      b.origin client ≠ "" ∧ { w with store := w.store.erase k }.openRechecked b client d r k =
        { w with store := w.store.erase k, state := registeredState w.state d r.t o }) ∨
    (¬ ((b.origin client,d) ∈ w.allowed ∧ w.state.isFrameLifetimeActive (b.tab client) client.frame = true ∧ d ≠ 0 ∧
      b.origin client ≠ "") ∧ { w with store := w.store.erase k }.openRechecked b client d r k =
        { w with store := w.store.erase k }.closeForCleanup d r.t none) := by
  obtain ⟨device,issued⟩ := ok.rechecks k client d r held
  have nonempty := (ok.issued d r.t issued).2
  subst new
  simp only [World.openRechecked,if_neg nonempty,device]
  by_cases passes : (b.origin client,d) ∈ w.allowed ∧ w.state.isFrameLifetimeActive (b.tab client) client.frame = true
  · have registration := registerDeviceSession_active (d := d) (t := r.t) (s := w.state)
      (o := ⟨b.tab client,b.origin client,client.frame,client.frame.bridgeInstanceId,client.clientKey,k⟩) passes.2
    rw [if_pos passes,registration]
    by_cases falsy : d = 0 ∨ r.t = "" ∨ b.origin client = ""
    · rw [if_pos falsy]
      refine Or.inr ⟨?_,rfl⟩
      rintro ⟨_,_,nonzero,origin⟩
      rcases falsy with zero | empty | empty
      · exact nonzero zero
      · exact nonempty empty
      · exact origin empty
    · rw [if_neg falsy]
      exact Or.inl ⟨passes.1,passes.2,fun zero => falsy (Or.inl zero),fun empty => falsy (Or.inr (Or.inr empty)),rfl⟩
  · rw [if_neg passes]
    exact Or.inr ⟨fun all => passes ⟨all.1,all.2.1⟩,rfl⟩

theorem live_openRechecked (ok : Sound b w) {k : Nat} {client : Client} {r : NmResponse}
    (held : w.store.lookup k = some (.openRecheck client d r)) :
    Live ({ w with store := w.store.erase k }.openRechecked b client d r k) d' t' o ↔
      Live w d' t' o ∨ Registers b w (.stored k) k client d' t' o := by
  have untold := held_untold held
  have unregistered (d : DeviceId) : ownerOf w d r.t = none := by
    cases registered : ownerOf w d r.t with
    | none => rfl
    | some o => exact absurd (ok.sessions d r.t o registered).2.1 untold
  rcases openRechecked_cases ok held rfl with ⟨allowed,active,nonzero,origin,result⟩ | ⟨refused,result⟩
  · rw [result]
    have idle : ending w d r.t = false := by
      refine Bool.eq_false_of_not_eq_true fun busy => ?_
      obtain ⟨n,c,found,here⟩ := ending_iff.mp busy
      obtain ⟨_,_,rfl⟩ := ends_iff.mp here
      exact untold (ok.continuations n _ found).1
    constructor
    · rintro ⟨registered,kept⟩
      replace registered := (lookup_insert_eq _ _ _ _).symm.trans registered
      by_cases same : (d',t') = (d,r.t)
      · rw [if_pos same] at registered
        cases same
        exact Or.inr ⟨rfl,⟨r,held,rfl⟩,(Option.some.inj registered).symm,allowed,active,nonzero,origin⟩
      · rw [if_neg same] at registered
        exact Or.inl ⟨registered,kept⟩
    · rintro (⟨registered,kept⟩ | ⟨_,⟨r',held',rfl⟩,rfl,_,_,_,_⟩)
      · refine ⟨(lookup_insert_eq _ _ _ _).trans ?_,kept⟩
        rw [if_neg]
        · exact registered
        · intro same
          cases same
          rw [unregistered] at registered; cases registered
      · cases Option.some.inj (held.symm.trans held')
        exact ⟨(lookup_insert_eq _ _ _ _).trans (if_pos rfl),idle⟩
  · have same : Live { w with store := w.store.erase k } d' t' o ↔ Live w d' t' o := live_congr rfl rfl
    rw [result,live_closeForCleanup (ok.forgetStore k),same]
    constructor
    · rintro ⟨live,_⟩; exact Or.inl live
    · rintro (live | ⟨_,⟨r',held',_⟩,_,allowed,active,nonzero,origin⟩)
      · refine ⟨live,fun same => ?_⟩
        cases same
        have registered := live.registered
        rw [unregistered] at registered; cases registered
      · cases Option.some.inj (held.symm.trans held')
        exact absurd ⟨allowed,active,nonzero,origin⟩ refused

/-- A step that registers nothing. -/
private theorem only_collects {a : Action} (same : Live w' d t o ↔ Live w d t o ∧ (d,t) ∉ collected b w a)
    (quiet : ∀ k client r, a = .stored k → w.store.lookup k ≠ some (.openRecheck client d r)) :
    Live w' d t o ↔ (Live w d t o ∧ (d,t) ∉ collected b w a) ∨ ∃ k client, Registers b w a k client d t o := by
  rw [same]
  refine ⟨Or.inl,?_⟩
  rintro (before | ⟨k,client,registers⟩)
  · exact before
  · obtain ⟨r,held,_⟩ := registers.waits
    exact absurd held (quiet k client r registers.action)

private theorem and_not_nil {p : Prop} {key : DeviceId × Token} : p ↔ p ∧ key ∉ ([] : List (DeviceId × Token)) :=
  (and_iff_left List.not_mem_nil).symm

theorem live_record (response : NmResponse) (q : NmRequest) : Live (w.record response q) d t o ↔ Live w d t o := by
  unfold World.record
  split
  · split_ifs
    · exact live_congr rfl rfl
    · exact Iff.rfl
  · exact Iff.rfl

/-- The answer to a request. -/
theorem live_settled (ok : Sound b w) {n : Nat} {q : NmRequest} {response : NmResponse}
    (flying : w.inFlight.lookup n = some q) (may : w.mayAnswer response q = true) {c : Continuation}
    (waiting : w.pending.lookup n = some c) :
    Live (({ w with inFlight := w.inFlight.erase n, pending := w.pending.erase n }.record response q).resolve
        b response c) d t o ↔ Live w d t o ∧ (d,t) ∉ settles (isOk response.s) c := by
  have landed := ok.forgetFlight n
  have request := Option.some.inj ((ok.awaited n c waiting).symm.trans flying)
  subst request
  cases c with
  | opened client d' =>
    have recorded := (live_record (d := d) (t := t) (o := o) response (.openDevice d')).trans
      (live_forget (f := w.inFlight.erase n) waiting fun _ _ => rfl)
    simp only [Continuation.request,World.resolve,World.openAnswered,settles]
    split_ifs
    · refine Iff.trans ?_ (recorded.trans and_not_nil)
      exact live_congr rfl rfl
    · exact recorded.trans and_not_nil
  | cleaned d' t' own rest => exact live_cleanupSettled ok waiting _ landed
  | closed client d' t' =>
    have nonempty (accepted : isOk response.s = true) : t' ≠ "" := by
      simp only [Continuation.request,World.mayAnswer,accepted,Bool.not_true,Bool.false_or,bne_iff_ne] at may
      exact may
    simp only [Continuation.request,World.record,World.resolve]
    by_cases accepted : isOk response.s = true
    · rw [live_closeAnswered (nonempty accepted)]
      exact and_congr_left fun _ => live_forget waiting fun _ _ => rfl
    · simp only [World.closeAnswered,settles,if_neg accepted]
      exact (live_forget waiting fun _ _ => rfl).trans and_not_nil
  | reported client op d' => exact (live_forget waiting fun _ _ => rfl).trans and_not_nil

theorem live_handleOpen {client : Client} : Live (w.handleOpen b client d') d t o ↔ Live w d t o := by
  unfold World.handleOpen
  split
  · exact Iff.rfl
  · next s registered =>
    exact (live_congr rfl rfl).trans (live_congr (w := w) rfl (registerFrameLifetime_quiet registered).2.1)

/-- The first of the sessions that a revocation collects. -/
theorem head_of_device {keys : List (DeviceId × Token)} (device : ∀ key ∈ keys, key.1 = d) (origin : Origin)
    (rest : List DeviceId) (call : RevokeCall) : revocationHead (some ⟨origin,d,keys.map Prod.snd,rest,call⟩) = keys.take 1 := by
  cases keys with
  | nil => rfl
  | cons key keys => simp [revocationHead,← device key List.mem_cons_self]

/-- One step registers at most one session; every other change to the live sessions is
    that those it collected are no longer live. -/
theorem step_live (ok : Sound b w) {a : Action} (taken : step b w a = some w') :
    Live w' d t o ↔ (Live w d t o ∧ (d,t) ∉ collected b w a) ∨ ∃ k client, Registers b w a k client d t o := by
  cases a with
  | openRequest client d' =>
    cases taken
    exact only_collects (live_handleOpen.trans and_not_nil) fun _ _ _ none => by cases none
  | closeRequest client d' t' =>
    cases taken
    refine only_collects (Iff.trans ?_ and_not_nil) fun _ _ _ none => by cases none
    unfold World.handleClose
    split_ifs
    · rw [live_sendFrame ok]; exact and_iff_left rfl
    · exact Iff.rfl
  | cleanupSession d' t' =>
    simp only [step] at taken
    split_ifs at taken with held
    cases taken
    refine only_collects ?_ fun _ _ _ none => by cases none
    rw [live_closeForCleanup (ok.name t')]
    simp only [collected,List.mem_singleton]
    exact and_congr_left fun _ => live_congr rfl rfl
  | frameDestroyed frame =>
    cases taken
    have retired : Sound b { w with state := w.state.retireFrameLifetime (b.tabOf frame.bridgeInstanceId) frame } :=
      ok.withCounts rfl rfl ok.noZero
    refine only_collects ?_ fun _ _ _ none => by cases none
    refine (live_closeAll (quiet_unregisterDeviceTab _) _ retired fun _ member => retired.collected member).trans ?_
    exact and_congr_left fun _ => live_congr rfl rfl
  | bridgeGone bridge =>
    cases taken
    have retired : Sound b { w with state := w.state.retireBridgeFrames (b.tabOf bridge) bridge } :=
      ok.withCounts rfl rfl ok.noZero
    refine only_collects ?_ fun _ _ _ none => by cases none
    refine (live_closeAll (quiet_unregisterDeviceTab _) _ retired fun _ member => retired.collected member).trans ?_
    exact and_congr_left fun _ => live_congr rfl rfl
  | tabRemoved tab =>
    cases taken
    have forgotten : Sound b { w with state := (w.state.forgetTabDevices tab).forgetTabFrames tab } :=
      ok.withCounts rfl rfl (noZero_forgetTabDevices ok.noZero)
    refine only_collects ?_ fun _ _ _ none => by cases none
    refine (live_closeAll quiet_id _ forgotten fun _ member => forgotten.collected member).trans ?_
    exact and_congr_left fun _ => live_congr rfl rfl
  | revokeRequest origin targets =>
    cases taken
    refine only_collects (Iff.trans ?_ and_not_nil) fun _ _ _ none => by cases none
    unfold World.handleRevokeDevice
    split_ifs
    · exact Iff.rfl
    · exact live_congr rfl rfl
  | retryOrphans =>
    cases taken
    refine only_collects ?_ fun _ _ _ none => by cases none
    exact live_closeAll quiet_id _ ok fun key member => (ok.orphans key.2 key.1 (mem_orphanKeys.mp member)).1
  | pair origin d' =>
    cases taken
    refine only_collects (Iff.trans ?_ and_not_nil) fun _ _ _ none => by cases none
    exact live_congr rfl rfl
  | report client op d' =>
    cases taken
    refine only_collects (Iff.trans ?_ and_not_nil) fun _ _ _ none => by cases none
    unfold World.handleReport
    split_ifs
    · rw [live_sendFrame ok]; exact and_iff_left rfl
    · exact Iff.rfl
  | answer n response =>
    simp only [step] at taken
    cases flying : w.inFlight.lookup n with
    | none => rw [flying] at taken; cases taken
    | some q =>
      rw [flying] at taken
      dsimp only at taken
      split_ifs at taken with may
      refine only_collects ?_ fun _ _ _ none => by cases none
      cases waiting : w.pending.lookup n with
      | none =>
        rw [waiting] at taken
        cases taken
        simp only [collected,released,waiting,Option.map_none,Option.getD_none]
        refine Iff.trans ?_ and_not_nil
        have gone : w.pending.erase n = w.pending := AList.ext (List.kerase_of_notMem_keys (AList.lookup_eq_none.mp waiting))
        exact (live_record response q).trans (live_congr gone rfl)
      | some c =>
        rw [waiting] at taken
        cases taken
        simp only [collected,released,waiting,Option.map_some,Option.getD_some]
        exact live_settled ok flying may waiting
  | timeout n =>
    simp only [step] at taken
    refine only_collects ?_ fun _ _ _ none => by cases none
    cases waiting : w.pending.lookup n with
    | none => rw [waiting] at taken; cases taken
    | some c =>
      rw [waiting] at taken
      cases taken
      simp only [collected,released,waiting,Option.map_some,Option.getD_some]
      cases c with
      | cleaned d' t' own rest =>
        exact live_cleanupSettled (f := w.inFlight) ok waiting false (ok.forgetPending n)
      | _ => exact (live_forget (f := w.inFlight) waiting fun _ _ => rfl).trans and_not_nil
  | stored k =>
    obtain ⟨wait,found,ran⟩ := Option.bind_eq_some_iff.mp taken
    cases wait with
    | openLookup client d' =>
      cases ran
      refine only_collects ?_ fun k' client' r same held => ?_
      · simp only [collected,released,found]
        refine Iff.trans ?_ and_not_nil
        unfold World.openLookedUp
        split_ifs
        · rw [live_sendFrame (ok.forgetStore k)]
          exact (and_iff_left rfl).trans (live_congr rfl rfl)
        · exact live_congr rfl rfl
      · cases same; cases found.symm.trans held
    | openRecheck client d' r =>
      cases ran
      simp only [collected,released,found]
      rw [live_openRechecked ok found,and_iff_left List.not_mem_nil]
      refine or_congr_right ⟨fun registers => ⟨k,client,registers⟩,?_⟩
      rintro ⟨k',client',registers⟩
      obtain rfl : k = k' := by injection registers.action
      obtain ⟨r',held,_⟩ := registers.waits
      cases found.symm.trans held
      exact registers
    | revokeGroups origin targets => cases ran
    | revokeRemove origin d' rest call =>
      cases ran
      refine only_collects ?_ fun k' client' r same held => ?_
      · simp only [collected,released,found]
        have freed : Sound b { w with store := w.store.erase k, allowed := w.allowed.erase (origin,d') } :=
          (ok.forgetStore k).withAllowed _
        have head : revocationHead (some ⟨origin,d',(w.state.collectDeviceSessionsForOrigin d' origin).map Prod.snd,rest,call⟩)
            = (w.state.collectDeviceSessionsForOrigin d' origin).take 1 := by
          exact head_of_device (fun key member => (mem_collectDeviceSessionsForOrigin.mp member).1) origin rest call
        rw [World.revokeRemoved,live_revokeTokens freed]
        refine (and_congr (live_congr rfl rfl) ?_)
        rw [← head]
      · cases same; cases found.symm.trans held
    | revokeFinish origin call =>
      cases ran
      refine only_collects ?_ fun k' client' r same held => ?_
      · simp only [collected,released,found]
        refine Iff.trans ?_ and_not_nil
        exact live_congr rfl rfl
      · cases same; cases found.symm.trans held
  | groupsRead k groups =>
    simp only [step] at taken
    split at taken <;> cases taken
    refine only_collects (Iff.trans ?_ and_not_nil) fun _ _ _ none => by cases none
    exact live_revokeNext.trans (live_congr rfl rfl)
  | storeFailed k =>
    simp only [step] at taken
    split at taken <;> cases taken
    refine only_collects (Iff.trans ?_ and_not_nil) fun _ _ _ none => by cases none
    exact live_congr rfl rfl

/-- No frame and no grant changes, and no request settles. -/
structure OnlyAdds (w w' : World) : Prop where
  frames : w'.state.frameLifetimes = w.state.frameLifetimes
  allowed : w'.allowed = w.allowed
  pending : ∀ n c, w.pending.lookup n = some c → w'.pending.lookup n = some c

theorem OnlyAdds.refl (w : World) : OnlyAdds w w := ⟨rfl,rfl,fun _ _ found => found⟩

theorem OnlyAdds.active (adds : OnlyAdds w w') (tab : TabId) (frame : FrameKey) :
    w'.state.isFrameLifetimeActive tab frame = w.state.isFrameLifetimeActive tab frame := by
  rw [BgState.isFrameLifetimeActive,BgState.isFrameLifetimeActive,adds.frames]

theorem OnlyAdds.trans {w'' : World} (first : OnlyAdds w w') (second : OnlyAdds w' w'') : OnlyAdds w w'' :=
  ⟨second.frames.trans first.frames,second.allowed.trans first.allowed,
    fun n c found => second.pending n c (first.pending n c found)⟩

/-- Nothing is sent. -/
theorem OnlyAdds.quiet (frames : w'.state.frameLifetimes = w.state.frameLifetimes) (allowed : w'.allowed = w.allowed)
    (pending : w'.pending = w.pending) : OnlyAdds w w' := ⟨frames,allowed,fun _ _ found => pending ▸ found⟩

theorem OnlyAdds.sendFrame (ok : Sound b w) (c : Continuation) : OnlyAdds w (w.sendFrame c) :=
  ⟨rfl,rfl,fun n _ found => (pending_sendFrame ok).mpr (Or.inr ⟨ok.pendingFresh n _ found,found⟩)⟩

theorem OnlyAdds.closeNext {before : BgState → DeviceId × Token → BgState} (quiet : Quiet before) (ok : Sound b w)
    (key : DeviceId × Token) : OnlyAdds w (w.closeNext before key) := by
  have updated : Sound b { w with state := before w.state key } :=
    ok.withCounts (quiet.sessions _ key) (quiet.orphans _ key) (quiet.noZero _ key ok.noZero)
  have before : OnlyAdds w { w with state := before w.state key } := .quiet (quiet.frames _ key) rfl rfl
  exact before.trans (.sendFrame updated _)

theorem OnlyAdds.closeAll {before : BgState → DeviceId × Token → BgState} (quiet : Quiet before)
    (keys : List (DeviceId × Token)) (ok : Sound b w) (told : ∀ key ∈ keys, Told w key.2) :
    OnlyAdds w (w.closeAll before keys) := by
  induction keys generalizing w with
  | nil => exact .refl w
  | cons key rest ih =>
    exact (OnlyAdds.closeNext quiet ok key).trans
      (ih (Sound.closeNext quiet ok (told key List.mem_cons_self))
        fun key' member => told key' (List.mem_cons_of_mem key member))

theorem OnlyAdds.revokeNext (w : World) (origin : Origin) (call : RevokeCall) (devices : List DeviceId) :
    OnlyAdds w (w.revokeNext origin call devices) := by
  cases devices <;> exact .quiet rfl rfl rfl

theorem OnlyAdds.revokeTokens (ok : Sound b w) (rev : Revocation) : OnlyAdds w (w.revokeTokens rev) := by
  obtain ⟨origin,d,tokens,devices,call⟩ := rev
  cases tokens with
  | nil => exact .revokeNext w origin call devices
  | cons t tokens =>
    have updated : Sound b { w with state := w.state.unregisterOwnerTab d t } :=
      ok.withCounts unregisterOwnerTab_sessions unregisterOwnerTab_orphanCleanup (noZero_unregisterOwnerTab ok.noZero)
    have before : OnlyAdds w { w with state := w.state.unregisterOwnerTab d t } :=
      .quiet unregisterOwnerTab_frameLifetimes rfl rfl
    exact before.trans (.sendFrame updated _)

theorem OnlyAdds.cleanupDone (w : World) (d : DeviceId) (t : Token) (own : Option Owner) (gone : Bool) :
    OnlyAdds w (w.cleanupDone d t own gone) := by
  cases gone <;> exact .quiet rfl rfl rfl

theorem OnlyAdds.cleanupSettled (ok : Sound b w) {own : Option Owner} {rest : Option Revocation}
    (fine : ContinuationOk b w (.cleaned d t own rest)) (gone : Bool) :
    OnlyAdds w (w.cleanupSettled d t own rest gone) := by
  cases rest with
  | none => exact .cleanupDone w d t own gone
  | some rev =>
    exact (OnlyAdds.cleanupDone w d t own gone).trans (.revokeTokens (ok.cleanupDone fine.1 fine.2.1 gone) rev)

theorem OnlyAdds.record (w : World) (response : NmResponse) (q : NmRequest) : OnlyAdds w (w.record response q) := by
  unfold World.record
  split
  · split_ifs
    · exact .quiet rfl rfl rfl
    · exact .refl w
  · exact .refl w

theorem OnlyAdds.openRechecked (ok : Sound b w) {k : Nat} {client : Client} {r : NmResponse}
    (held : w.store.lookup k = some (.openRecheck client d r)) :
    OnlyAdds w ({ w with store := w.store.erase k }.openRechecked b client d r k) := by
  rcases openRechecked_cases ok held rfl with ⟨_,_,_,_,result⟩ | ⟨_,result⟩ <;> rw [result]
  · exact .quiet rfl rfl rfl
  · have before : OnlyAdds w { w with store := w.store.erase k } := .quiet rfl rfl rfl
    exact before.trans (.sendFrame (ok.forgetStore k) _)

/-- The step settles the request. -/
def Settles (n : Nat) (a : Action) : Prop := (∃ response, a = .answer n response) ∨ a = .timeout n

/-- The frame, its bridge or its tab is gone. -/
def Retires (b : Browser) (a : Action) (tab : TabId) (frame : FrameKey) : Prop :=
  (a = .frameDestroyed frame ∧ tab = b.tabOf frame.bridgeInstanceId) ∨
  (a = .bridgeGone frame.bridgeInstanceId ∧ tab = b.tabOf frame.bridgeInstanceId) ∨ a = .tabRemoved tab

structure StepKeeps (b : Browser) (w : World) (a : Action) (w' : World) : Prop where
  frames : ∀ tab frame, w.state.isFrameLifetimeActive tab frame = true →
    w'.state.isFrameLifetimeActive tab frame = true ∨ Retires b a tab frame
  allowed : ∀ grant ∈ w.allowed, grant ∈ w'.allowed ∨
    ∃ k rest call, a = .stored k ∧ w.store.lookup k = some (.revokeRemove grant.1 grant.2 rest call)
  pending : ∀ n c, w.pending.lookup n = some c → w'.pending.lookup n = some c ∨ Settles n a
  revived : ∀ tab frame, w'.state.isFrameLifetimeActive tab frame = true →
    w.state.isFrameLifetimeActive tab frame = true ∨
      ∃ client d, a = .openRequest client d ∧ b.tab client = tab ∧ client.frame = frame
  paired : ∀ grant ∈ w'.allowed, grant ∈ w.allowed ∨ a = .pair grant.1 grant.2

theorem OnlyAdds.stepKeeps {a : Action} (adds : OnlyAdds w w') : StepKeeps b w a w' where
  frames tab frame active := Or.inl ((adds.active tab frame).trans active)
  allowed _ member := Or.inl (adds.allowed ▸ member)
  pending n c found := Or.inl (adds.pending n c found)
  revived tab frame active := Or.inl ((adds.active tab frame).symm.trans active)
  paired _ member := Or.inl (adds.allowed ▸ member)

/-- A request is settled, and then nothing but additions. -/
theorem OnlyAdds.stepSettles {a : Action} {n : Nat} {f : HashMap Nat NmRequest} (settled : Settles n a)
    (adds : OnlyAdds { w with inFlight := f, pending := w.pending.erase n } w') : StepKeeps b w a w' where
  frames tab frame active := Or.inl ((adds.active tab frame).trans active)
  allowed grant member := Or.inl (adds.allowed ▸ member)
  pending n' c found := by
    by_cases here : n' = n
    · exact Or.inr (here ▸ settled)
    · exact Or.inl (adds.pending n' c ((lookup_erase_eq _ _ _).trans ((if_neg here).trans found)))
  revived tab frame active := Or.inl ((adds.active tab frame).symm.trans active)
  paired _ member := Or.inl (adds.allowed ▸ member)

theorem registerFrameLifetime_revived {s s' : BgState} {tab tab' : TabId} {frame frame' : FrameKey}
    (registered : s.registerFrameLifetime tab frame = some s') (active : s'.isFrameLifetimeActive tab' frame' = true) :
    s.isFrameLifetimeActive tab' frame' = true ∨ tab = tab' ∧ frame = frame' := by
  unfold BgState.registerFrameLifetime at registered
  obtain ⟨uses,found,positive⟩ := isFrameLifetimeActive_iff.mp active
  split at registered <;> cases registered
  simp only [lookup_insert_eq] at found
  by_cases same : (tab',frame') = (tab,frame)
  · cases same; exact Or.inr ⟨rfl,rfl⟩
  · rw [if_neg same] at found
    exact Or.inl (isFrameLifetimeActive_iff.mpr ⟨uses,found,positive⟩)

theorem registerFrameLifetime_active {s s' : BgState} {tab tab' : TabId} {frame frame' : FrameKey}
    (registered : s.registerFrameLifetime tab frame = some s') (active : s.isFrameLifetimeActive tab' frame' = true) :
    s'.isFrameLifetimeActive tab' frame' = true := by
  unfold BgState.registerFrameLifetime at registered
  obtain ⟨uses,found,positive⟩ := isFrameLifetimeActive_iff.mp active
  split at registered <;> cases registered
  rw [isFrameLifetimeActive_iff]
  simp only [lookup_insert_eq]
  by_cases same : (tab',frame') = (tab,frame)
  · rw [if_pos same]; exact ⟨_,rfl,Nat.succ_pos _⟩
  · rw [if_neg same]; exact ⟨uses,found,positive⟩

theorem retireFrameLifetime_active {s : BgState} {tab tab' : TabId} {frame frame' : FrameKey}
    (other : (tab',frame') ≠ (tab,frame)) :
    (s.retireFrameLifetime tab frame).isFrameLifetimeActive tab' frame' = s.isFrameLifetimeActive tab' frame' := by
  simp only [BgState.isFrameLifetimeActive,BgState.retireFrameLifetime,lookup_insert_eq,if_neg other]

theorem retireBridgeFrames_active {s : BgState} {tab tab' : TabId} {bridge : String} {frame : FrameKey}
    (other : ¬ (tab' = tab ∧ frame.bridgeInstanceId = bridge)) :
    (s.retireBridgeFrames tab bridge).isFrameLifetimeActive tab' frame = s.isFrameLifetimeActive tab' frame := by
  simp only [BgState.isFrameLifetimeActive,BgState.retireBridgeFrames,lookup_mapValues,if_neg other]
  cases s.frameLifetimes.lookup (tab',frame) <;> rfl

theorem forgetTabFrames_active {s : BgState} {tab tab' : TabId} {frame : FrameKey} (other : tab' ≠ tab) :
    (s.forgetTabFrames tab).isFrameLifetimeActive tab' frame = s.isFrameLifetimeActive tab' frame := by
  simp only [BgState.isFrameLifetimeActive,BgState.forgetTabFrames,lookup_retain]
  cases s.frameLifetimes.lookup (tab',frame) <;> simp [Option.filter,other]

/-- A purge: frames are retired, then sessions are closed. -/
private theorem StepKeeps.purge {a : Action} {s : BgState} {before : BgState → DeviceId × Token → BgState}
    (quiet : Quiet before) (ok : Sound b { w with state := s }) {keys : List (DeviceId × Token)}
    (told : ∀ key ∈ keys, Told { w with state := s } key.2)
    (frames : ∀ tab frame, w.state.isFrameLifetimeActive tab frame = true →
      s.isFrameLifetimeActive tab frame = true ∨ Retires b a tab frame)
    (revived : ∀ tab frame, s.isFrameLifetimeActive tab frame = true → w.state.isFrameLifetimeActive tab frame = true) :
    StepKeeps b w a ({ w with state := s }.closeAll before keys) := by
  have adds := OnlyAdds.closeAll quiet keys ok told
  refine ⟨fun tab frame active => ?_,fun grant member => Or.inl (adds.allowed.symm ▸ member),
    fun n c found => Or.inl (adds.pending n c found),fun tab frame active => Or.inl ?_,
    fun grant member => Or.inl (adds.allowed ▸ member)⟩
  · exact (frames tab frame active).imp_left fun still => (adds.active tab frame).trans still
  · exact revived tab frame ((adds.active tab frame).symm.trans active)

theorem step_keeps (ok : Sound b w) {a : Action} (taken : step b w a = some w') : StepKeeps b w a w' := by
  cases a with
  | openRequest client d =>
    cases taken
    unfold World.handleOpen
    split
    · exact (OnlyAdds.refl w).stepKeeps
    · next s registered =>
      refine ⟨fun tab frame active => Or.inl (registerFrameLifetime_active registered active),
        fun _ member => Or.inl member,fun _ _ found => Or.inl found,fun tab frame active => ?_,fun _ member => Or.inl member⟩
      exact (registerFrameLifetime_revived registered active).imp_right fun same => ⟨client,d,rfl,same⟩
  | closeRequest client d t =>
    cases taken
    unfold World.handleClose
    split_ifs
    · exact (OnlyAdds.sendFrame ok _).stepKeeps
    · exact (OnlyAdds.refl w).stepKeeps
  | cleanupSession d t =>
    simp only [step] at taken
    split_ifs at taken with held
    cases taken
    have named : OnlyAdds w { w with known := t :: w.known } := .quiet rfl rfl rfl
    exact (named.trans (.sendFrame (ok.name t) _)).stepKeeps
  | frameDestroyed frame =>
    cases taken
    have retired : Sound b { w with state := w.state.retireFrameLifetime (b.tabOf frame.bridgeInstanceId) frame } :=
      ok.withCounts rfl rfl ok.noZero
    refine StepKeeps.purge (quiet_unregisterDeviceTab _) retired (fun _ member => retired.collected member)
      (fun tab frame' active => ?_) fun tab frame' active => ?_
    · by_cases same : (tab,frame') = (b.tabOf frame.bridgeInstanceId,frame)
      · cases same; exact Or.inr (Or.inl ⟨rfl,rfl⟩)
      · rw [retireFrameLifetime_active same]; exact Or.inl active
    · by_cases same : (tab,frame') = (b.tabOf frame.bridgeInstanceId,frame)
      · cases same
        simp [BgState.isFrameLifetimeActive,BgState.retireFrameLifetime] at active
      · rwa [retireFrameLifetime_active same] at active
  | bridgeGone bridge =>
    cases taken
    have retired : Sound b { w with state := w.state.retireBridgeFrames (b.tabOf bridge) bridge } :=
      ok.withCounts rfl rfl ok.noZero
    refine StepKeeps.purge (quiet_unregisterDeviceTab _) retired (fun _ member => retired.collected member)
      (fun tab frame active => ?_) fun tab frame active => ?_
    · by_cases same : tab = b.tabOf bridge ∧ frame.bridgeInstanceId = bridge
      · obtain ⟨rfl,rfl⟩ := same; exact Or.inr (Or.inr (Or.inl ⟨rfl,rfl⟩))
      · rw [retireBridgeFrames_active same]; exact Or.inl active
    · by_cases same : tab = b.tabOf bridge ∧ frame.bridgeInstanceId = bridge
      · simp only [BgState.isFrameLifetimeActive,BgState.retireBridgeFrames,lookup_mapValues,if_pos same] at active
        cases lifetime : w.state.frameLifetimes.lookup (tab,frame) <;> simp [lifetime] at active
      · rwa [retireBridgeFrames_active same] at active
  | tabRemoved tab =>
    cases taken
    have forgotten : Sound b { w with state := (w.state.forgetTabDevices tab).forgetTabFrames tab } :=
      ok.withCounts rfl rfl (noZero_forgetTabDevices ok.noZero)
    refine StepKeeps.purge quiet_id forgotten (fun _ member => forgotten.collected member)
      (fun tab' frame active => ?_) fun tab' frame active => ?_
    · by_cases same : tab' = tab
      · cases same; exact Or.inr (Or.inr (Or.inr rfl))
      · rw [forgetTabFrames_active same]; exact Or.inl active
    · by_cases same : tab' = tab
      · subst same
        simp only [BgState.isFrameLifetimeActive,BgState.forgetTabFrames,lookup_retain] at active
        cases lifetime : (w.state.forgetTabDevices tab').frameLifetimes.lookup (tab',frame) <;>
          simp [lifetime,Option.filter] at active
      · rwa [forgetTabFrames_active same] at active
  | revokeRequest origin targets =>
    cases taken
    unfold World.handleRevokeDevice
    split_ifs
    · exact (OnlyAdds.refl w).stepKeeps
    · have waits : OnlyAdds w (w.await (.revokeGroups origin targets)) := .quiet rfl rfl rfl
      exact waits.stepKeeps
  | retryOrphans =>
    cases taken
    exact (OnlyAdds.closeAll quiet_id _ ok
      fun key member => (ok.orphans key.2 key.1 (mem_orphanKeys.mp member)).1).stepKeeps
  | pair origin d =>
    cases taken
    refine ⟨fun _ _ active => Or.inl active,fun _ member => Or.inl (Finset.mem_insert_of_mem member),
      fun _ _ found => Or.inl found,fun _ _ active => Or.inl active,fun grant member => ?_⟩
    rcases Finset.mem_insert.mp member with rfl | before
    · exact Or.inr rfl
    · exact Or.inl before
  | report client op d =>
    cases taken
    unfold World.handleReport
    split_ifs
    · exact (OnlyAdds.sendFrame ok _).stepKeeps
    · exact (OnlyAdds.refl w).stepKeeps
  | answer n response =>
    simp only [step] at taken
    have settled : Settles n (.answer n response) := Or.inl ⟨response,rfl⟩
    cases flying : w.inFlight.lookup n with
    | none => rw [flying] at taken; cases taken
    | some q =>
      rw [flying] at taken
      dsimp only at taken
      split_ifs at taken with may
      have landed := ok.forgetFlight n
      cases waiting : w.pending.lookup n with
      | none => rw [waiting] at taken; cases taken; exact (OnlyAdds.record _ response q).stepSettles settled
      | some c =>
        rw [waiting] at taken
        cases taken
        have same := Option.some.inj ((ok.awaited n c waiting).symm.trans flying)
        subst same
        refine OnlyAdds.stepSettles (f := w.inFlight.erase n) settled ?_
        have recorded := OnlyAdds.record { w with inFlight := w.inFlight.erase n, pending := w.pending.erase n }
          response c.request
        cases c with
        | opened client d =>
          refine recorded.trans ?_
          simp only [World.resolve,World.openAnswered]
          split_ifs
          · exact .quiet rfl rfl rfl
          · exact .refl _
        | cleaned d t own rest => exact .cleanupSettled landed (ok.continuations n _ waiting) _
        | closed client d t =>
          simp only [Continuation.request,World.record,World.resolve,World.closeAnswered]
          split_ifs
          · exact .quiet rfl rfl rfl
          · exact .quiet rfl rfl rfl
          · exact .refl _
        | reported client op d => exact recorded
  | timeout n =>
    simp only [step] at taken
    have settled : Settles n (.timeout n) := Or.inr rfl
    cases waiting : w.pending.lookup n with
    | none => rw [waiting] at taken; cases taken
    | some c =>
      rw [waiting] at taken
      cases taken
      refine OnlyAdds.stepSettles (f := w.inFlight) settled ?_
      cases c with
      | cleaned d t own rest => exact .cleanupSettled (ok.forgetPending n) (ok.continuations n _ waiting) false
      | _ => exact .refl _
  | stored k =>
    obtain ⟨wait,found,ran⟩ := Option.bind_eq_some_iff.mp taken
    cases wait with
    | openLookup client d =>
      cases ran
      have freed : OnlyAdds w { w with store := w.store.erase k } := .quiet rfl rfl rfl
      unfold World.openLookedUp
      split_ifs
      · exact (freed.trans (.sendFrame (ok.forgetStore k) _)).stepKeeps
      · exact freed.stepKeeps
    | openRecheck client d r => cases ran; exact (OnlyAdds.openRechecked ok found).stepKeeps
    | revokeGroups origin targets => cases ran
    | revokeRemove origin d rest call =>
      cases ran
      have adds : OnlyAdds { w with store := w.store.erase k, allowed := w.allowed.erase (origin,d) } _ :=
        .revokeTokens ((ok.forgetStore k).withAllowed _)
          ⟨origin,d,(w.state.collectDeviceSessionsForOrigin d origin).map Prod.snd,rest,call⟩
      refine ⟨fun tab frame active => Or.inl ((adds.active tab frame).trans active),fun grant member => ?_,
        fun n c here => Or.inl (adds.pending n c here),fun tab frame active => Or.inl ((adds.active tab frame).symm.trans active),
        fun grant member => Or.inl (Finset.mem_of_mem_erase (adds.allowed ▸ member))⟩
      by_cases same : grant = (origin,d)
      · exact Or.inr ⟨k,rest,call,rfl,same ▸ found⟩
      · refine Or.inl ?_
        have kept : grant ∈ w.allowed.erase (origin,d) := Finset.mem_erase.mpr ⟨same,member⟩
        exact adds.allowed.symm ▸ kept
    | revokeFinish origin call =>
      cases ran
      have quiet : OnlyAdds w { w with store := w.store.erase k } :=
        .quiet rfl rfl rfl
      exact quiet.stepKeeps
  | groupsRead k groups =>
    simp only [step] at taken
    split at taken <;> cases taken
    have freed : OnlyAdds w { w with store := w.store.erase k } := .quiet rfl rfl rfl
    exact (freed.trans (.revokeNext _ _ _ _)).stepKeeps
  | storeFailed k =>
    simp only [step] at taken
    split at taken <;> cases taken
    have freed : OnlyAdds w { w with store := w.store.erase k } := .quiet rfl rfl rfl
    exact freed.stepKeeps

/-! ### What a live session has -/

/-- A revocation under way will close the session. -/
def Due (w : World) (d : DeviceId) (t : Token) : Prop :=
  ∃ n d' t' own rev, w.pending.lookup n = some (.cleaned d' t' own (some rev)) ∧ rev.deviceId = d ∧ t ∈ rev.tokens

/-- After the head of a revocation, its other sessions are still due. -/
theorem due_revokeTokens {rev : Revocation} (device : rev.deviceId = d) (member : t ∈ rev.tokens) :
    Due (w.revokeTokens rev) d t ∨ (d,t) ∈ revocationHead (some rev) := by
  obtain ⟨origin,d',tokens,devices,call⟩ := rev
  subst device
  cases tokens with
  | nil => exact absurd member List.not_mem_nil
  | cons t' tokens =>
    rcases List.mem_cons.mp member with rfl | later
    · exact Or.inr List.mem_cons_self
    · exact Or.inl ⟨w.nextId,d',t',_,⟨origin,d',tokens,devices,call⟩,(lookup_insert_eq _ _ _ _).trans (if_pos rfl),rfl,later⟩

/-- A session that is due stays due until the revocation collects it. -/
theorem step_due (ok : Sound b w) {a : Action} (taken : step b w a = some w') (due : Due w d t) :
    Due w' d t ∨ (d,t) ∈ collected b w a := by
  obtain ⟨n,d',t',own,rev,waiting,device,member⟩ := due
  rcases (step_keeps ok taken).pending n _ waiting with kept | ⟨response,rfl⟩ | rfl
  · exact Or.inl ⟨n,d',t',own,rev,kept,device,member⟩
  · simp only [step] at taken
    cases flying : w.inFlight.lookup n with
    | none => rw [flying] at taken; cases taken
    | some q =>
      rw [flying] at taken
      dsimp only at taken
      split_ifs at taken
      rw [waiting] at taken
      cases taken
      cases Option.some.inj ((ok.awaited n _ waiting).symm.trans flying)
      simp only [collected,released,waiting,Option.map_some,Option.getD_some,settles]
      exact due_revokeTokens device member
  · simp only [step] at taken
    rw [waiting] at taken
    cases taken
    simp only [collected,released,waiting,Option.map_some,Option.getD_some,settles]
    exact due_revokeTokens device member

/-- A live session belongs to a frame that is not retired, and its origin has the grant
    unless a revocation will close the session. -/
structure Standing (w : World) : Prop where
  active : ∀ d t o, Live w d t o → w.state.isFrameLifetimeActive o.tabId o.frameKey = true
  granted : ∀ d t o, Live w d t o → (o.origin,d) ∈ w.allowed ∨ Due w d t

theorem standing_init : Standing init := by
  have none {d : DeviceId} {t : Token} {o : Owner} (live : Live init d t o) : False := by
    have registered := live.registered
    rw [ownerOf,show init.state.deviceSessions = ∅ from rfl,AList.lookup_empty] at registered
    cases registered
  exact ⟨fun d t o live => (none live).elim,fun d t o live => (none live).elim⟩

/-- What retires the frame of a live session collects the session. -/
theorem collected_of_retires (ok : Sound b w) {a : Action} (live : Live w d t o) (retires : Retires b a o.tabId o.frameKey) :
    (d,t) ∈ collected b w a := by
  have owned := (ok.sessions d t o live.registered).2.2
  rcases retires with ⟨rfl,tab⟩ | ⟨rfl,tab⟩ | rfl
  · exact mem_collectDeviceSessionsForFrame.mpr ⟨o,live.registered,tab,rfl⟩
  · exact mem_collectDeviceSessionsForBridge.mpr ⟨o,live.registered,tab,owned.bridge⟩
  · exact mem_collectDeviceSessionsForTab.mpr ⟨o,live.registered,rfl⟩

/-- What removes the grant of a live session closes the session, now or later. -/
theorem due_of_removed (ok : Sound b w) {k : Nat} {rest : List DeviceId} {call : RevokeCall} (live : Live w d t o)
    (found : w.store.lookup k = some (.revokeRemove o.origin d rest call)) (taken : step b w (.stored k) = some w') :
    Due w' d t ∨ (d,t) ∈ collected b w (.stored k) := by
  obtain ⟨wait,found',ran⟩ := Option.bind_eq_some_iff.mp taken
  cases Option.some.inj (found.symm.trans found')
  cases ran
  have freed : Sound b { w with store := w.store.erase k, allowed := w.allowed.erase (o.origin,d) } :=
    (ok.forgetStore k).withAllowed _
  have device (key : DeviceId × Token) (member : key ∈ w.state.collectDeviceSessionsForOrigin d o.origin) : key.1 = d :=
    (mem_collectDeviceSessionsForOrigin.mp member).1
  have member : t ∈ (w.state.collectDeviceSessionsForOrigin d o.origin).map Prod.snd :=
    List.mem_map.mpr ⟨(d,t),mem_collectDeviceSessionsForOrigin.mpr ⟨rfl,o,live.registered,rfl⟩,rfl⟩
  have head := head_of_device device o.origin rest call
  let rev : Revocation :=
    ⟨o.origin,d,(w.state.collectDeviceSessionsForOrigin d o.origin).map Prod.snd,rest,call⟩
  have sameDevice : rev.deviceId = d := rfl
  simp only [collected,released,found]
  rw [← head]
  exact due_revokeTokens sameDevice member

theorem step_standing (ok : Sound b w) (standing : Standing w) {a : Action} (taken : step b w a = some w') :
    Standing w' := by
  have keeps := step_keeps ok taken
  constructor
  · intro d t o live
    rcases (step_live ok taken).mp live with ⟨before,uncollected⟩ | ⟨k,client,registers⟩
    · rcases keeps.frames _ _ (standing.active d t o before) with still | retires
      · exact still
      · exact absurd (collected_of_retires ok before retires) uncollected
    · have active := registers.active
      rw [registers.owner]
      rcases keeps.frames _ _ active with still | ⟨same,_⟩ | ⟨same,_⟩ | same
      · exact still
      all_goals rw [registers.action] at same; cases same
  · intro d t o live
    rcases (step_live ok taken).mp live with ⟨before,uncollected⟩ | ⟨k,client,registers⟩
    · rcases standing.granted d t o before with allowed | due
      · rcases keeps.allowed _ allowed with still | ⟨k,rest,call,rfl,found⟩
        · exact Or.inl still
        · exact Or.inr ((due_of_removed ok before found taken).resolve_right uncollected)
      · exact Or.inr ((step_due ok taken due).resolve_right uncollected)
    · refine Or.inl ?_
      rw [registers.owner]
      rcases keeps.allowed _ registers.allowed with still | ⟨k',rest,call,same,found⟩
      · exact still
      · obtain ⟨r,held,_⟩ := registers.waits
        obtain rfl : k = k' := by injection registers.action.symm.trans same
        cases held.symm.trans found

theorem ending_settled (rest : settled w = true) (t : Token) : ending w d t = false := by
  simp only [settled,Bool.and_eq_true,List.isEmpty_iff] at rest
  rw [ending,values,rest.1.1]
  rfl

/-- In every state that the background page reaches. -/
theorem reachable {trace : List Action} (run : exec (step b) init trace = some w) : Sound b w ∧ Standing w :=
  exec_invariant (I := fun w => Sound b w ∧ Standing w)
    (fun _ _ _ inv taken => ⟨step_sound inv.1 taken,step_standing inv.1 inv.2 taken⟩) ⟨Sound.init b,standing_init⟩ run

end
end FFWebHid.LiveSessions
