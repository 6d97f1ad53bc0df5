import FFWebHid.Runs
import FFWebHid.Maps
import FFWebHid.StateOps
import FFWebHid.Background
import FFWebHid.Bookkeeping
import FFWebHid.LiveSessions
import FFWebHid.AuthorityLifetimes

/-!
Frames that are gone. A retired frame is remembered with no uses, and every path that
registers a session asks for its uses first, so that an open that resumes late finds them.
A close for cleanup remembers the record that it found and drops no other. The daemon may
answer anything here, also a token that is in use, so that records are replaced.
-/
namespace FFWebHid.RetiredFrames
open FFWebHid.Runs FFWebHid.Maps FFWebHid.StateOps FFWebHid.Background FFWebHid.Bookkeeping FFWebHid.LiveSessions
open FFWebHid.AuthorityLifetimes (retirePort)

variable {b : Browser} {w w' w'' : World} {d : DeviceId} {t : Token}

inductive Event where
  | page (action : Action)
  | answered (id : Nat) (response : NmResponse)
  | deviceGone (deviceId : DeviceId)
  | portRetired
  deriving DecidableEq, Repr

def step (b : Browser) (w : World) : Event → Option World
  | .page a => Background.step b w a
  | .answered n response =>
    (w.inFlight.lookup n).map fun request =>
      let settled := { w with inFlight := w.inFlight.erase n, pending := w.pending.erase n }.record response request
      match w.pending.lookup n with
      | none => settled
      | some c => settled.resolve b response c
  | .deviceGone d => some { w with state := w.state.clearDeviceOwnership d }
  | .portRetired => some (retirePort b w)

/-- The frame is remembered with no uses. -/
def Retired (w : World) (key : TabId × FrameKey) : Prop := w.state.frameLifetimes.lookup key = some 0

/-- The tabs whose frames an event forgets. -/
def forgets (tab : TabId) : Event → Bool
  | .page (.tabRemoved tab') => tab' == tab
  | .portRetired => true
  | _ => false

/-- The record is in use, or a cleanup started with it. -/
def Recorded (w : World) (o : Owner) : Prop :=
  (∃ key, w.state.deviceSessions.lookup key = some o) ∨
    ∃ n d t rest, w.pending.lookup n = some (.cleaned d t (some o) rest)

/-- No record is this one. -/
def Fresh (w : World) (o : Owner) : Prop := ∀ o', Recorded w o' → o'.ref ≠ o.ref

/-- A session that the step publishes is of a frame that is not retired, and has a record
    of its own. -/
def Publishes (w w' : World) : Prop := ∀ key o, w'.state.deviceSessions.lookup key = some o →
  w.state.deviceSessions.lookup key = some o ∨ ¬ Retired w (o.tabId,o.frameKey) ∧ Fresh w o

/-- The request that an event settles. -/
def settledBy : Event → Option Nat
  | .page (.answer n _) => some n
  | .page (.timeout n) => some n
  | .answered n _ => some n
  | _ => none

/-- A cleanup that settles leaves a record that is not the one it started with. -/
def SparesNewer (w : World) (e : Event) (w' : World) : Prop := ∀ n d t own rest o,
  settledBy e = some n → w.pending.lookup n = some (.cleaned d t own rest) →
    w.state.deviceSessions.lookup (d,t) = some o → own ≠ some o → w'.state.deviceSessions.lookup (d,t) = some o

/-- The identity has been given away: its transaction has ended. -/
def Spent (w : World) (k : Nat) : Prop := k < w.nextStore ∧ w.store.lookup k = none

structure RefsOk (w : World) : Prop where
  bounded : ∀ k wait, w.store.lookup k = some wait → k < w.nextStore
  spent : ∀ o, Recorded w o → Spent w o.ref

/-- Nothing is published, and no frame changes. -/
structure Sheds (w w' : World) : Prop where
  frames : w'.state.frameLifetimes = w.state.frameLifetimes
  sessions : ∀ key o, w'.state.deviceSessions.lookup key = some o → w.state.deviceSessions.lookup key = some o
  records : ∀ o, Recorded w' o → Recorded w o
  spent : ∀ k, Spent w k → Spent w' k
  bounded : (∀ k wait, w.store.lookup k = some wait → k < w.nextStore) →
    ∀ k wait, w'.store.lookup k = some wait → k < w'.nextStore

theorem Sheds.refl (w : World) : Sheds w w := ⟨rfl,fun _ _ => id,fun _ => id,fun _ => id,id⟩

theorem Sheds.trans (first : Sheds w w') (second : Sheds w' w'') : Sheds w w'' where
  frames := second.frames.trans first.frames
  sessions key o found := first.sessions key o (second.sessions key o found)
  records o recorded := first.records o (second.records o recorded)
  spent k spent := second.spent k (first.spent k spent)
  bounded bounded := second.bounded (first.bounded bounded)

/-- Only the bookkeeping changes. -/
theorem sheds_state {s : BgState} (frames : s.frameLifetimes = w.state.frameLifetimes)
    (sessions : ∀ key o, s.deviceSessions.lookup key = some o → w.state.deviceSessions.lookup key = some o) :
    Sheds w { w with state := s } := by
  refine ⟨frames,sessions,?_,fun _ => id,id⟩
  rintro o (⟨key,found⟩ | recorded)
  · exact Or.inl ⟨key,sessions key o found⟩
  · exact Or.inr recorded

theorem sheds_sendFrame {c : Continuation} (known : ∀ d t o rest, c = .cleaned d t (some o) rest → Recorded w o) :
    Sheds w (w.sendFrame c) := by
  refine ⟨rfl,fun _ _ => id,?_,fun _ => id,id⟩
  rintro o (recorded | ⟨n,d,t,rest,found⟩)
  · exact Or.inl recorded
  · have found : (w.pending.insert w.nextId c).lookup n = _ := found
    rw [lookup_insert_eq] at found
    split_ifs at found with same
    · exact known d t o rest (Option.some.inj found)
    · exact Or.inr ⟨n,d,t,rest,found⟩

theorem sheds_await (wait : StoreWait) : Sheds w (w.await wait) := by
  refine ⟨rfl,fun _ _ => id,fun _ => id,?_,?_⟩
  · rintro k ⟨below,free⟩
    refine ⟨Nat.lt_succ_of_lt below,?_⟩
    have other : k ≠ w.nextStore := Nat.ne_of_lt below
    exact (AList.lookup_insert_ne other).trans free
  · intro bounded k wait' found
    have found : (w.store.insert w.nextStore wait).lookup k = _ := found
    rw [lookup_insert_eq] at found
    split_ifs at found with same
    · exact same ▸ Nat.lt_succ_self _
    · exact Nat.lt_succ_of_lt (bounded k wait' found)

theorem sheds_closeForCleanup (d : DeviceId) (t : Token) (rest : Option Revocation) :
    Sheds w (w.closeForCleanup d t rest) := by
  apply sheds_sendFrame
  intro d' t' o rest' same
  injection same with _ _ own
  exact Or.inl ⟨(d,t),own⟩

theorem sheds_closeAll {before : BgState → DeviceId × Token → BgState} (quiet : Quiet before)
    (keys : List (DeviceId × Token)) : Sheds w (w.closeAll before keys) := by
  induction keys generalizing w with
  | nil => exact .refl w
  | cons key rest ih =>
    have counted : Sheds w { w with state := before w.state key } :=
      sheds_state (quiet.frames _ key) fun _ _ found => quiet.sessions w.state key ▸ found
    exact (counted.trans (sheds_closeForCleanup key.1 key.2 none)).trans ih

theorem sheds_revokeNext (origin : Origin) (call : RevokeCall) (devices : List DeviceId) :
    Sheds w (w.revokeNext origin call devices) := by
  cases devices <;> exact sheds_await _

theorem sheds_revokeTokens (rev : Revocation) : Sheds w (w.revokeTokens rev) := by
  obtain ⟨origin,d,tokens,devices,call⟩ := rev
  cases tokens with
  | nil => exact sheds_revokeNext ..
  | cons t tokens =>
    have counted : Sheds w { w with state := w.state.unregisterOwnerTab d t } :=
      sheds_state unregisterOwnerTab_frameLifetimes fun _ _ found => unregisterOwnerTab_sessions ▸ found
    exact counted.trans (sheds_closeForCleanup ..)

theorem dropOwned_sheds {s : BgState} {own : Option Owner} {key : DeviceId × Token} {o : Owner}
    (found : (s.dropOwned d t own).deviceSessions.lookup key = some o) : s.deviceSessions.lookup key = some o := by
  rw [lookup_dropOwned] at found
  split_ifs at found
  exact found

theorem sheds_cleanupDone (own : Option Owner) (gone : Bool) : Sheds w (w.cleanupDone d t own gone) := by
  unfold World.cleanupDone
  split
  · have dropped : Sheds w { w with state := w.state.confirmCleanup d t own } :=
      sheds_state rfl fun _ _ found => dropOwned_sheds found
    exact ⟨dropped.frames,dropped.sessions,dropped.records,dropped.spent,dropped.bounded⟩
  · exact sheds_state rfl fun _ _ found => dropOwned_sheds found

theorem sheds_cleanupSettled (own : Option Owner) (rest : Option Revocation) (gone : Bool) :
    Sheds w (w.cleanupSettled d t own rest gone) := by
  cases rest with
  | none => exact sheds_cleanupDone own gone
  | some rev => exact (sheds_cleanupDone own gone).trans (sheds_revokeTokens rev)

theorem sheds_openAnswered (client : Client) (d : DeviceId) (response : NmResponse) :
    Sheds w (w.openAnswered client d response) := by
  unfold World.openAnswered
  split
  · exact sheds_await _
  · exact .refl w

theorem sheds_closeAnswered (client : Client) (response : NmResponse) : Sheds w (w.closeAnswered b client d t response) := by
  unfold World.closeAnswered
  split
  · refine ⟨?_,?_,?_,fun _ => id,id⟩
    · dsimp only; split <;> rfl
    · intro key o found
      dsimp only at found
      split at found
      · exact found
      · exact lookup_of_erase found
    · rintro o (⟨key,found⟩ | recorded)
      · dsimp only at found
        split at found
        · exact Or.inl ⟨key,found⟩
        · exact Or.inl ⟨key,lookup_of_erase found⟩
      · exact Or.inr recorded
  · exact .refl w

theorem sheds_resolve (response : NmResponse) (c : Continuation) : Sheds w (w.resolve b response c) := by
  cases c with
  | opened client d => exact sheds_openAnswered ..
  | cleaned d t own rest => exact sheds_cleanupSettled ..
  | closed client d t => exact sheds_closeAnswered ..
  | reported client op d => exact .refl w

theorem sheds_reject (c : Continuation) : Sheds w (w.reject c) := by
  cases c with
  | cleaned d t own rest => exact sheds_cleanupSettled ..
  | opened | closed | reported => exact .refl w

/-- A request is settled. -/
theorem sheds_forget (n : Nat) (inFlight : HashMap Nat NmRequest) :
    Sheds w { w with inFlight := inFlight, pending := w.pending.erase n } := by
  refine ⟨rfl,fun _ _ => id,?_,fun _ => id,id⟩
  rintro o (recorded | ⟨n',d,t,rest,found⟩)
  · exact Or.inl recorded
  · exact Or.inr ⟨n',d,t,rest,lookup_of_erase found⟩

theorem sheds_record (response : NmResponse) (request : NmRequest) : Sheds w (w.record response request) := by
  cases request with
  | openDevice d =>
    simp only [World.record]
    split <;> exact ⟨rfl,fun _ _ => id,fun _ => id,fun _ => id,id⟩
  | closeDevice | report => exact .refl w

theorem sheds_erased (k : Nat) : Sheds w { w with store := w.store.erase k } := by
  refine ⟨rfl,fun _ _ => id,fun _ => id,?_,?_⟩
  · rintro k' ⟨below,free⟩
    refine ⟨below,?_⟩
    rw [lookup_erase_eq]
    split <;> first | rfl | exact free
  · exact fun bounded k' wait found => bounded k' wait (lookup_of_erase found)

/-! ### What an event keeps -/

/-- Frames stay retired in the tabs that are not forgotten, and what is published is right. -/
structure Keeps (forgotten : TabId → Bool) (w w' : World) : Prop where
  retired : ∀ key, forgotten key.1 = false → Retired w key → Retired w' key
  publishes : RefsOk w → Publishes w w'
  refs : RefsOk w → RefsOk w'

theorem Sheds.keeps (sheds : Sheds w w') (forgotten : TabId → Bool) : Keeps forgotten w w' where
  retired key _ retired := by rwa [Retired,sheds.frames]
  publishes _ key o found := Or.inl (sheds.sessions key o found)
  refs ok := ⟨sheds.bounded ok.bounded,fun o recorded => sheds.spent _ (ok.spent o (sheds.records o recorded))⟩

theorem Keeps.sheds {forgotten : TabId → Bool} (keeps : Keeps forgotten w w') (sheds : Sheds w' w'') :
    Keeps forgotten w w'' where
  retired key kept retired := (sheds.keeps forgotten).retired key kept (keeps.retired key kept retired)
  publishes ok key o found := keeps.publishes ok key o (sheds.sessions key o found)
  refs ok := (sheds.keeps forgotten).refs (keeps.refs ok)

/-- Only the bookkeeping changes, and publishes nothing. -/
theorem keeps_state {forgotten : TabId → Bool} {s : BgState}
    (retired : ∀ key, forgotten key.1 = false → Retired w key → s.frameLifetimes.lookup key = some 0)
    (sessions : ∀ key o, s.deviceSessions.lookup key = some o → w.state.deviceSessions.lookup key = some o) :
    Keeps forgotten w { w with state := s } where
  retired := retired
  publishes _ key o found := Or.inl (sessions key o found)
  refs ok := by
    refine ⟨ok.bounded,?_⟩
    rintro o (⟨key,found⟩ | recorded)
    · exact ok.spent o (Or.inl ⟨key,sessions key o found⟩)
    · exact ok.spent o (Or.inr recorded)

theorem registerFrameLifetime_retired {s s' : BgState} {tab : TabId} {frame : FrameKey}
    (registered : s.registerFrameLifetime tab frame = some s') :
    s.frameLifetimes.lookup (tab,frame) ≠ some 0 ∧
      ∀ key, s.frameLifetimes.lookup key = some 0 → s'.frameLifetimes.lookup key = some 0 := by
  unfold BgState.registerFrameLifetime at registered
  split at registered
  · cases registered
  next known =>
    cases registered
    refine ⟨fun retired => known retired,fun key retired => ?_⟩
    dsimp only
    rw [lookup_insert_eq]
    split
    next same => exact absurd (same ▸ retired) known
    · exact retired

theorem registerDeviceSession_retired {s s' : BgState} {o : Owner} (registered : s.registerDeviceSession d t o = some s') :
    s.frameLifetimes.lookup (o.tabId,o.frameKey) ≠ some 0 ∧
      ∀ key, s.frameLifetimes.lookup key = some 0 → s'.frameLifetimes.lookup key = some 0 := by
  simp only [BgState.registerDeviceSession] at registered
  split_ifs at registered with falsy active
  · cases registered
    obtain ⟨uses,found,positive⟩ := isFrameLifetimeActive_iff.mp active
    refine ⟨fun retired => ?_,fun _ => id⟩
    rw [found] at retired
    exact Nat.ne_of_gt positive (Option.some.inj retired)
  · obtain ⟨s'',first,rfl⟩ := Option.map_eq_some_iff.mp registered
    obtain ⟨unretired,kept⟩ := registerFrameLifetime_retired first
    exact ⟨unretired,kept⟩

theorem keeps_handleOpen (client : Client) (d : DeviceId) : Keeps (fun _ => false) w (w.handleOpen b client d) := by
  unfold World.handleOpen
  split
  · exact (Sheds.refl w).keeps _
  next s registered =>
    obtain ⟨_,kept⟩ := registerFrameLifetime_retired registered
    obtain ⟨_,sessions,_⟩ := registerFrameLifetime_quiet registered
    exact (keeps_state (fun key _ retired => kept key retired) fun _ _ found => sessions ▸ found).sheds (sheds_await _)

/-- The record that a registration makes. -/
theorem keeps_registered {k : Nat} {wait : StoreWait} {s : BgState} {o : Owner} (stored : w.store.lookup k = some wait)
    (registered : w.state.registerDeviceSession d t o = some s) (ref : o.ref = k) (tab : TabId) :
    Keeps (fun _ => false) w { w with store := w.store.erase k, state := s.registerDeviceTab d tab } := by
  obtain ⟨unretired,kept⟩ := registerDeviceSession_retired registered
  obtain ⟨_,_,_,sessions,_⟩ := registerDeviceSession_some registered
  have found_or {key : DeviceId × Token} {o' : Owner} (found : (s.registerDeviceTab d tab).deviceSessions.lookup key = some o') :
      o' = o ∨ w.state.deviceSessions.lookup key = some o' := by
    rw [show (s.registerDeviceTab d tab).deviceSessions = s.deviceSessions from rfl,sessions,lookup_insert_eq] at found
    split_ifs at found
    · exact Or.inl (Option.some.inj found).symm
    · exact Or.inr found
  have spent (ok : RefsOk w) : Spent w o.ref → False := fun spent => by
    rw [ref,Spent,stored] at spent
    cases spent.2
  refine ⟨fun key _ retired => kept key retired,?_,?_⟩
  · intro ok key o' found
    rcases found_or found with rfl | before
    · exact Or.inr ⟨unretired,fun o'' recorded same => spent ok (same ▸ ok.spent o'' recorded)⟩
    · exact Or.inl before
  · intro ok
    have erased := sheds_erased (w := w) k
    refine ⟨erased.bounded ok.bounded,?_⟩
    rintro o' (⟨key,found⟩ | recorded)
    · rcases found_or found with rfl | before
      · exact ⟨ref ▸ ok.bounded k wait stored,by rw [ref]; exact AList.lookup_erase _ _⟩
      · exact erased.spent _ (ok.spent o' (Or.inl ⟨key,before⟩))
    · exact erased.spent _ (ok.spent o' (Or.inr recorded))

theorem keeps_openRechecked {k : Nat} {wait : StoreWait} (stored : w.store.lookup k = some wait) (client : Client)
    (d : DeviceId) (response : NmResponse) :
    Keeps (fun _ => false) w ({ w with store := w.store.erase k }.openRechecked b client d response k) := by
  have erased := sheds_erased (w := w) k
  have discard (d : DeviceId) (t : Token) : Keeps (fun _ => false) w
      (if t = "" then { w with store := w.store.erase k }
        else ({ w with store := w.store.erase k } : World).closeForCleanup d t none) := by
    split
    · exact erased.keeps _
    · exact (erased.trans (sheds_closeForCleanup ..)).keeps _
  unfold World.openRechecked
  dsimp only
  split
  · split
    · have counted := sheds_state (w := { w with store := w.store.erase k })
        (s := w.state.registerDeviceTab response.i (b.tab client)) rfl fun _ _ => id
      exact (erased.trans counted).keeps _
    next named =>
      split
      · have cleaned := discard response.i response.t
        rwa [if_neg named] at cleaned
      next s registered => exact keeps_registered stored registered rfl _
  · exact discard response.i response.t

theorem keeps_storeStep {k : Nat} {wait : StoreWait} (stored : w.store.lookup k = some wait)
    (ended : storeStep b w k wait = some w') : Keeps (fun _ => false) w w' := by
  have erased := sheds_erased (w := w) k
  cases wait with
  | openLookup client d =>
    cases ended
    refine (erased.trans ?_).keeps _
    unfold World.openLookedUp
    split
    · exact sheds_sendFrame fun _ _ _ _ same => by cases same
    · exact .refl _
  | openRecheck client d response => cases ended; exact keeps_openRechecked stored client d response
  | revokeGroups => cases ended
  | revokeRemove origin d rest call =>
    cases ended
    have revoked : Sheds { w with store := w.store.erase k }
        { w with store := w.store.erase k, allowed := w.allowed.erase (origin,d) } :=
      ⟨rfl,fun _ _ => id,fun _ => id,fun _ => id,id⟩
    exact ((erased.trans revoked).trans (sheds_revokeTokens _)).keeps _
  | revokeFinish => cases ended; exact erased.keeps _

/-- An answer that the daemon gives. -/
theorem sheds_answered (n : Nat) (response : NmResponse) (request : NmRequest) :
    Sheds w (match w.pending.lookup n with
      | none => { w with inFlight := w.inFlight.erase n, pending := w.pending.erase n }.record response request
      | some c => ({ w with inFlight := w.inFlight.erase n, pending := w.pending.erase n }.record response request).resolve b
          response c) := by
  have recorded := (sheds_forget (w := w) n (w.inFlight.erase n)).trans (sheds_record response request)
  split
  · exact recorded
  · exact recorded.trans (sheds_resolve response _)

theorem page_keeps {a : Action} (taken : Background.step b w a = some w') :
    Keeps (fun tab => forgets tab (.page a)) w w' := by
  cases a with
  | openRequest client d => cases taken; exact keeps_handleOpen client d
  | closeRequest client d t =>
    cases taken
    refine Sheds.keeps ?_ _
    unfold World.handleClose
    split
    · exact sheds_sendFrame fun _ _ _ _ same => by cases same
    · exact .refl w
  | cleanupSession d t =>
    simp only [Background.step] at taken
    split at taken <;> cases taken
    have named : Sheds w { w with known := t :: w.known } := ⟨rfl,fun _ _ => id,fun _ => id,fun _ => id,id⟩
    exact (named.trans (sheds_closeForCleanup ..)).keeps _
  | frameDestroyed frame =>
    cases taken
    have kept : Keeps (fun tab => forgets tab (.page (.frameDestroyed frame))) w
        { w with state := w.state.retireFrameLifetime (b.tabOf frame.bridgeInstanceId) frame } :=
      keeps_state (fun key _ retired => ?_) fun _ _ => id
    · exact kept.sheds (sheds_closeAll (quiet_unregisterDeviceTab _) _)
    rw [BgState.retireFrameLifetime,lookup_insert_eq]
    split
    · rfl
    · exact retired
  | bridgeGone bridge =>
    cases taken
    have kept : Keeps (fun tab => forgets tab (.page (.bridgeGone bridge))) w
        { w with state := w.state.retireBridgeFrames (b.tabOf bridge) bridge } :=
      keeps_state (fun key _ retired => ?_) fun _ _ => id
    · exact kept.sheds (sheds_closeAll (quiet_unregisterDeviceTab _) _)
    rw [BgState.retireBridgeFrames,lookup_mapValues,show w.state.frameLifetimes.lookup key = some 0 from retired]
    simp
  | tabRemoved tab =>
    cases taken
    have kept : Keeps (fun tab' => forgets tab' (.page (.tabRemoved tab))) w
        { w with state := (w.state.forgetTabDevices tab).forgetTabFrames tab } :=
      keeps_state (fun key other retired => ?_) fun _ _ => id
    · exact kept.sheds (sheds_closeAll quiet_id _)
    rw [BgState.forgetTabFrames,lookup_retain]
    have different : (key.1 != tab) = true := by
      simp only [forgets,beq_eq_false_iff_ne] at other
      simpa using Ne.symm other
    rw [show (w.state.forgetTabDevices tab).frameLifetimes.lookup key = some 0 from retired]
    simp [different]
  | revokeRequest origin targetIds =>
    cases taken
    refine Sheds.keeps ?_ _
    unfold World.handleRevokeDevice
    split
    · exact .refl w
    · exact sheds_await _
  | retryOrphans => cases taken; exact (sheds_closeAll quiet_id _).keeps _
  | pair origin d =>
    cases taken
    have allowed : Sheds w { w with allowed := insert (origin,d) w.allowed } :=
      ⟨rfl,fun _ _ => id,fun _ => id,fun _ => id,id⟩
    exact allowed.keeps _
  | report client op d =>
    cases taken
    refine Sheds.keeps ?_ _
    unfold World.handleReport
    split
    · exact sheds_sendFrame fun _ _ _ _ same => by cases same
    · exact .refl w
  | answer n response =>
    simp only [Background.step] at taken
    split at taken
    · cases taken
    next request _ =>
      split at taken
      · have answered := sheds_answered (b := b) (w := w) n response request
        split at taken <;> cases taken
        next none => rw [none] at answered; exact answered.keeps _
        next c waiting => rw [waiting] at answered; exact answered.keeps _
      · cases taken
  | timeout n =>
    simp only [Background.step] at taken
    split at taken
    · cases taken
    · cases taken
      exact ((sheds_forget n w.inFlight).trans (sheds_reject _)).keeps _
  | stored k =>
    obtain ⟨wait,waiting,ended⟩ := Option.bind_eq_some_iff.mp taken
    exact keeps_storeStep waiting ended
  | groupsRead k groups =>
    simp only [Background.step] at taken
    split at taken
    · cases taken
      exact ((sheds_erased k).trans (sheds_revokeNext ..)).keeps _
    · cases taken
  | storeFailed k =>
    simp only [Background.step] at taken
    split at taken
    · cases taken
    · cases taken
    · cases taken; exact (sheds_erased k).keeps _

theorem sheds_resolveAll (response : NmResponse) (continuations : List Continuation) :
    Sheds w (continuations.foldl (fun w c => w.resolve b response c) w) := by
  induction continuations generalizing w with
  | nil => exact .refl w
  | cons c rest ih => exact (sheds_resolve response c).trans ih

theorem step_keeps {e : Event} (taken : step b w e = some w') : Keeps (fun tab => forgets tab e) w w' := by
  cases e with
  | page a => exact page_keeps taken
  | answered n response =>
    obtain ⟨request,_,rfl⟩ := Option.map_eq_some_iff.mp taken
    exact (sheds_answered n response request).keeps _
  | deviceGone d =>
    cases taken
    exact keeps_state (fun key _ retired => retired) fun _ _ found => lookup_of_retain found
  | portRetired =>
    cases taken
    refine Keeps.sheds ?_ (sheds_resolveAll ⟨503,0,""⟩ (values w.pending).reverse)
    refine ⟨fun _ kept _ => (by cases kept),fun _ _ _ found => ?_,fun ok => ⟨ok.bounded,?_⟩⟩
    · simp [BgState.clearAuthorityOwnership] at found
    · rintro o (⟨key,found⟩ | ⟨n,d,t,rest,found⟩)
      · simp [BgState.clearAuthorityOwnership] at found
      · simp at found

theorem cleanupSettled_spares {own : Option Owner} {rest : Option Revocation} {gone : Bool} {o : Owner}
    (registered : w.state.deviceSessions.lookup (d,t) = some o) (newer : own ≠ some o) :
    (w.cleanupSettled d t own rest gone).state.deviceSessions.lookup (d,t) = some o := by
  have dropped : (w.state.dropOwned d t own).deviceSessions.lookup (d,t) = some o := by
    rw [lookup_dropOwned,if_neg]
    · exact registered
    · rintro ⟨_,_,same⟩
      exact newer (same.symm.trans registered)
  have done : (w.cleanupDone d t own gone).state.deviceSessions.lookup (d,t) = some o := by
    unfold World.cleanupDone
    split <;> exact dropped
  cases rest with
  | none => exact done
  | some rev =>
    simp only [World.cleanupSettled]
    rw [revokeTokens_sessions]
    exact done

theorem record_sessions (response : NmResponse) (request : NmRequest) : (w.record response request).state = w.state := by
  cases request with
  | openDevice d => simp only [World.record]; split <;> rfl
  | closeDevice | report => rfl

theorem step_spares {e : Event} (taken : step b w e = some w') : SparesNewer w e w' := by
  intro n d t own rest o settles waiting registered newer
  have answered {request : NmRequest} {response : NmResponse} :
      (({ w with inFlight := w.inFlight.erase n, pending := w.pending.erase n }.record response request).resolve b response
        (.cleaned d t own rest)).state.deviceSessions.lookup (d,t) = some o := by
    apply cleanupSettled_spares _ newer
    rw [record_sessions]
    exact registered
  cases e with
  | page a =>
    cases a with
    | answer n' response =>
      obtain rfl := Option.some.inj settles
      simp only [step,Background.step,waiting] at taken
      split at taken
      · cases taken
      · split at taken <;> cases taken
        exact answered
    | timeout n' =>
      obtain rfl := Option.some.inj settles
      simp only [step,Background.step,waiting] at taken
      cases taken
      exact cleanupSettled_spares registered newer
    | _ => cases settles
  | answered n' response =>
    obtain rfl := Option.some.inj settles
    obtain ⟨request,_,rfl⟩ := Option.map_eq_some_iff.mp taken
    simp only [waiting]
    exact answered
  | deviceGone | portRetired => cases settles

theorem RefsOk.init : RefsOk init := by
  refine ⟨fun k wait found => ?_,?_⟩
  · simp [Background.init] at found
  · rintro o (⟨key,found⟩ | ⟨n,d,t,rest,found⟩)
    · simp [Background.init] at found
    · simp [Background.init] at found

/-- The step publishes nothing for the frame, which stays retired. -/
def StaysRetired (tab : TabId) (frame : FrameKey) (w : World) (_ : Event) (w' : World) : Prop :=
  Retired w' (tab,frame) ∧ ∀ key o, w'.state.deviceSessions.lookup key = some o → o.tabId = tab → o.frameKey = frame →
    w.state.deviceSessions.lookup key = some o

theorem retired_run {tab : TabId} {frame : FrameKey} {later : List Event} (ok : RefsOk w) (retired : Retired w (tab,frame))
    (remembered : ∀ e ∈ later, forgets tab e = false) : AllSteps (step b) (StaysRetired tab frame) w later := by
  induction later generalizing w with
  | nil => trivial
  | cons e rest ih =>
    intro next taken
    have keeps := step_keeps taken
    have still := keeps.retired (tab,frame) (remembered e List.mem_cons_self) retired
    refine ⟨⟨still,?_⟩,ih (keeps.refs ok) still fun e' member => remembered e' (List.mem_cons_of_mem e member)⟩
    rintro key o found rfl rfl
    rcases keeps.publishes ok key o found with before | ⟨unretired,_⟩
    · exact before
    · exact absurd retired unretired

/-- A purge retires its frame, or the frames of its bridge that are known. From then on,
    until the tab or the whole state is forgotten, nothing is published for a retired
    frame. A cleanup that settles leaves every record but the one it started with, and what
    is published has a record that no cleanup started with. -/
theorem retired_frames {trace : List Event} (run : exec (step b) init trace = some w) :
    (∀ frame w', step b w (.page (.frameDestroyed frame)) = some w' →
      Retired w' (b.tabOf frame.bridgeInstanceId,frame)) ∧
    (∀ bridge frame w', step b w (.page (.bridgeGone bridge)) = some w' → frame.bridgeInstanceId = bridge →
      (w.state.frameLifetimes.lookup (b.tabOf bridge,frame)).isSome → Retired w' (b.tabOf bridge,frame)) ∧
    (∀ tab frame later, Retired w (tab,frame) → (∀ e ∈ later, forgets tab e = false) →
      AllSteps (step b) (StaysRetired tab frame) w later) ∧
    ∀ e w', step b w e = some w' → SparesNewer w e w' ∧ Publishes w w' := by
  have ok : RefsOk w := exec_invariant (I := RefsOk) (fun _ _ _ ok taken => (step_keeps taken).refs ok) .init run
  refine ⟨?_,?_,fun tab frame later retired remembered => retired_run ok retired remembered,
    fun e w' taken => ⟨step_spares taken,(step_keeps taken).publishes ok⟩⟩
  · rintro frame w' ⟨⟩
    have closed := sheds_closeAll (w := { w with state := w.state.retireFrameLifetime (b.tabOf frame.bridgeInstanceId) frame })
      (quiet_unregisterDeviceTab (b.tabOf frame.bridgeInstanceId))
    rw [Retired,World.purgeFrame,(closed _).frames]
    exact AList.lookup_insert _
  · rintro bridge frame w' ⟨⟩ same known
    have closed := sheds_closeAll (w := { w with state := w.state.retireBridgeFrames (b.tabOf bridge) bridge })
      (quiet_unregisterDeviceTab (b.tabOf bridge))
    obtain ⟨uses,found⟩ := Option.isSome_iff_exists.mp known
    rw [Retired,World.purgeBridge,(closed _).frames]
    rw [BgState.retireBridgeFrames,lookup_mapValues,found]
    simp [same]

/-- The daemon has opened the device for a frame that is then destroyed. -/
def destroyedWhileOpening : List Event :=
  [.page (.pair "https://example.org" 7),.page (.openRequest (frameWindow 1) 7),.page (.stored 0),
    .page (.answer 1 ⟨200,7,"first"⟩),.page (.frameDestroyed ⟨"bridge-a",1⟩)]

/-- The open resumes and registers nothing. -/
theorem retired_frames_late : ∃ w w', exec (step oneTab) init destroyedWhileOpening = some w ∧
    step oneTab w (.page (.stored 1)) = some w' ∧ StaysRetired 1 ⟨"bridge-a",1⟩ w (.page (.stored 1)) w' ∧
    w'.state.deviceSessions.lookup (7,"first") = none := by
  obtain ⟨w',whole,none⟩ := Option.map_eq_some_iff.mp (by decide :
    (exec (step oneTab) init (destroyedWhileOpening ++ [.page (.stored 1)])).map
      (fun w => w.state.deviceSessions.lookup (7,"first")) = some none)
  obtain ⟨w,run,rest⟩ := exec_append.mp whole
  obtain ⟨last,taken,done⟩ := exec_cons.mp rest
  obtain rfl : last = w' := Option.some.inj done
  have retired : (exec (step oneTab) init destroyedWhileOpening).map
      (fun w => w.state.frameLifetimes.lookup (1,⟨"bridge-a",1⟩)) = some (some 0) := by decide
  rw [run] at retired
  have stays := (retired_frames run).2.2.1 1 ⟨"bridge-a",1⟩ [.page (.stored 1)] (Option.some.inj retired)
    (by decide)
  exact ⟨w,last,run,taken,(stays last taken).1,none⟩

end FFWebHid.RetiredFrames
