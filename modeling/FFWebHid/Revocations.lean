import FFWebHid.Maps
import FFWebHid.Runs
import FFWebHid.StateOps
import FFWebHid.Background
import FFWebHid.Bookkeeping
import FFWebHid.LiveSessions
import FFWebHid.Effects

/-!
What a completed revocation leaves behind. A call of `revokeDevices` passes through
stages: it removes the grant of a device, closes the sessions that the origin has there
one after the other, and goes on to the next device. An open that read the grant before
it was removed looks it up once more before it registers its session.
-/
namespace FFWebHid.Revocations
open FFWebHid.Maps FFWebHid.Runs FFWebHid.StateOps FFWebHid.Background FFWebHid.Bookkeeping FFWebHid.LiveSessions
open FFWebHid.Effects

/-- Where a call of `revokeDevices` stands at an await: the devices whose grants it has
    still to remove, and the sessions of the current device that it has still to close. -/
structure Stage where
  origin : Origin
  call : RevokeCall
  devices : List DeviceId
  closing : List (DeviceId × Token)

def Stage.ofRevocation (rev : Revocation) : Stage :=
  ⟨rev.origin,rev.call,rev.devices,rev.tokens.map fun t => (rev.deviceId,t)⟩

def stageOfWait : StoreWait → Option Stage
  | .revokeRemove origin d rest call => some ⟨origin,call,d :: rest,[]⟩
  | .revokeFinish origin call => some ⟨origin,call,[],[]⟩
  | _ => none

def stageOfRequest : Continuation → Option Stage
  | .cleaned d t _ (some rev) => some { Stage.ofRevocation rev with closing := (d,t) :: (Stage.ofRevocation rev).closing }
  | _ => none

/-- Some call stands at the stage. -/
def At (w : World) (s : Stage) : Prop :=
  (∃ k wait, w.store.lookup k = some wait ∧ stageOfWait wait = some s) ∨
    ∃ n c, w.pending.lookup n = some c ∧ stageOfRequest c = some s

/-- How a call comes to a stage: it has read the grant groups, removed a grant and
    collected the sessions, or awaited the close of one. -/
inductive Enters (w : World) (a : Action) : Stage → Prop
  | groups (origin : Origin) (call : RevokeCall) : Enters w a ⟨origin,call,call.toRevoke,[]⟩
  | removed (k : Nat) (origin : Origin) (d : DeviceId) (rest : List DeviceId) (call : RevokeCall)
    (action : a = .stored k) (found : w.store.lookup k = some (.revokeRemove origin d rest call)) :
    Enters w a ⟨origin,call,rest,w.state.collectDeviceSessionsForOrigin d origin⟩
  | closed (n : Nat) (d : DeviceId) (t : Token) (own : Option Owner) (rev : Revocation)
    (waiting : w.pending.lookup n = some (.cleaned d t own (some rev)))
    (action : (∃ r, a = .answer n r) ∨ a = .timeout n) : Enters w a (Stage.ofRevocation rev)

section
variable {b : Browser} {w w' w'' : World} {d : DeviceId} {t : Token} {s : Stage}

theorem mem_toRevoke {call : RevokeCall} : d ∈ call.toRevoke ↔
    d ∈ call.targetIds ∨ ∃ ids ∈ call.groups, (∃ id ∈ ids, id ∈ call.targetIds) ∧ d ∈ ids := by
  simp [RevokeCall.toRevoke,and_assoc]

/-- No call comes to a new stage. -/
def Keeps (w w' : World) : Prop := ∀ s, At w' s → At w s

theorem Keeps.refl (w : World) : Keeps w w := fun _ here => here

theorem Keeps.trans (first : Keeps w w') (second : Keeps w' w'') : Keeps w w'' := fun s here => first s (second s here)

theorem Keeps.of_same (store : w'.store = w.store) (pending : w'.pending = w.pending) : Keeps w w' := by
  intro s here
  rw [At,store,pending] at here
  exact here

theorem at_sendFrame {c : Continuation} (here : At (w.sendFrame c) s) : At w s ∨ stageOfRequest c = some s := by
  rcases here with stored | ⟨n,c',found,stage⟩
  · exact Or.inl (Or.inl stored)
  · rw [World.sendFrame,lookup_insert_eq] at found
    split_ifs at found
    · cases found; exact Or.inr stage
    · exact Or.inl (Or.inr ⟨n,c',found,stage⟩)

theorem at_await {wait : StoreWait} (here : At (w.await wait) s) : At w s ∨ stageOfWait wait = some s := by
  rcases here with ⟨k,wait',found,stage⟩ | waiting
  · rw [World.await,lookup_insert_eq] at found
    split_ifs at found
    · cases found; exact Or.inr stage
    · exact Or.inl (Or.inl ⟨k,wait',found,stage⟩)
  · exact Or.inl (Or.inr waiting)

theorem Keeps.sendFrame {c : Continuation} (plain : stageOfRequest c = none) : Keeps w (w.sendFrame c) := by
  intro s here
  refine (at_sendFrame here).resolve_right fun stage => ?_
  rw [plain] at stage; cases stage

theorem Keeps.await {wait : StoreWait} (plain : stageOfWait wait = none) : Keeps w (w.await wait) := by
  intro s here
  refine (at_await here).resolve_right fun stage => ?_
  rw [plain] at stage; cases stage

/-- Requests settle and store transactions end. -/
theorem Keeps.forget (pending : ∀ n c, w'.pending.lookup n = some c → w.pending.lookup n = some c)
    (store : ∀ k wait, w'.store.lookup k = some wait → w.store.lookup k = some wait) : Keeps w w' := by
  rintro s (⟨k,wait,found,stage⟩ | ⟨n,c,found,stage⟩)
  · exact Or.inl ⟨k,wait,store k wait found,stage⟩
  · exact Or.inr ⟨n,c,pending n c found,stage⟩

theorem Keeps.forgetStore (w : World) (k : Nat) : Keeps w { w with store := w.store.erase k } :=
  .forget (fun _ _ found => found) fun _ _ found => lookup_of_erase found

theorem Keeps.closeAll {before : BgState → DeviceId × Token → BgState} (keys : List (DeviceId × Token)) (w : World) :
    Keeps w (w.closeAll before keys) := by
  induction keys generalizing w with
  | nil => exact .refl w
  | cons key rest ih =>
    have state : Keeps w { w with state := before w.state key } := .of_same rfl rfl
    have sent : Keeps w (w.closeNext before key) := state.trans (.sendFrame rfl)
    exact sent.trans (ih (w.closeNext before key))

theorem at_revokeNext {origin : Origin} {call : RevokeCall} {devices : List DeviceId}
    (here : At (w.revokeNext origin call devices) s) : At w s ∨ s = ⟨origin,call,devices,[]⟩ := by
  cases devices with
  | nil => exact (at_await here).imp_right fun stage => (Option.some.inj stage).symm
  | cons d rest => exact (at_await here).imp_right fun stage => (Option.some.inj stage).symm

theorem at_revokeTokens {rev : Revocation} (here : At (w.revokeTokens rev) s) :
    At w s ∨ s = Stage.ofRevocation rev := by
  obtain ⟨origin,d,tokens,devices,call⟩ := rev
  cases tokens with
  | nil => exact at_revokeNext here
  | cons t tokens => exact (at_sendFrame here).imp (Keeps.of_same rfl rfl s) fun stage => (Option.some.inj stage).symm

/-- A cleanup settles: the revocation that awaited it comes to its next stage. -/
theorem at_cleanupSettled {a : Action} {n : Nat} {own : Option Owner} {rest : Option Revocation} {gone : Bool}
    {f : HashMap Nat NmRequest} (waiting : w.pending.lookup n = some (.cleaned d t own rest))
    (action : (∃ r, a = .answer n r) ∨ a = .timeout n)
    (here : At ({ w with pending := w.pending.erase n, inFlight := f }.cleanupSettled d t own rest gone) s) :
    At w s ∨ Enters w a s := by
  have settled : Keeps w (cleaned w n f d t own gone) := by
    refine .forget (fun n' c found => ?_) fun k wait found => ?_
    · exact lookup_of_erase (cleaned_pending ▸ found)
    · exact cleaned_store ▸ found
  cases rest with
  | none => exact Or.inl (settled s here)
  | some rev =>
    rcases at_revokeTokens here with before | same
    · exact Or.inl (settled s before)
    · exact Or.inr (same ▸ .closed n d t own rev waiting action)

theorem keeps_openRechecked (w : World) (k : Nat) (client : Client) (d : DeviceId) (r : NmResponse) :
    Keeps w ({ w with store := w.store.erase k }.openRechecked b client d r k) := by
  have freed := Keeps.forgetStore w k
  have closed (d' : DeviceId) (t' : Token) : Keeps w ({ w with store := w.store.erase k }.closeForCleanup d' t' none) :=
    freed.trans (.sendFrame rfl)
  unfold World.openRechecked
  dsimp only
  split_ifs
  · exact freed.trans (.of_same rfl rfl)
  · split
    · exact closed r.i r.t
    · exact freed.trans (.of_same rfl rfl)
  · exact freed
  · exact closed r.i r.t

theorem step_stage (ok : Sound b w) {a : Action} (taken : step b w a = some w') (here : At w' s) : At w s ∨ Enters w a s := by
  cases a with
  | openRequest client d =>
    cases taken
    unfold World.handleOpen at here
    split at here
    · exact Or.inl here
    · have registered (s' : BgState) : Keeps w { w with state := s' } := .of_same rfl rfl
      exact Or.inl ((registered _).trans (.await rfl) s here)
  | closeRequest client d t =>
    cases taken
    unfold World.handleClose at here
    split_ifs at here
    · exact Or.inl (Keeps.sendFrame rfl s here)
    · exact Or.inl here
  | cleanupSession d t =>
    simp only [step] at taken
    split_ifs at taken
    cases taken
    have named : Keeps w { w with known := t :: w.known } := .of_same rfl rfl
    exact Or.inl (named.trans (.sendFrame rfl) s here)
  | frameDestroyed frame =>
    cases taken
    have retired (s' : BgState) : Keeps w { w with state := s' } := .of_same rfl rfl
    exact Or.inl ((retired _).trans (.closeAll _ _) s here)
  | bridgeGone bridge =>
    cases taken
    have retired (s' : BgState) : Keeps w { w with state := s' } := .of_same rfl rfl
    exact Or.inl ((retired _).trans (.closeAll _ _) s here)
  | tabRemoved tab =>
    cases taken
    have forgotten (s' : BgState) : Keeps w { w with state := s' } := .of_same rfl rfl
    exact Or.inl ((forgotten _).trans (.closeAll _ _) s here)
  | revokeRequest origin targets =>
    cases taken
    unfold World.handleRevokeDevice at here
    split_ifs at here
    · exact Or.inl here
    · exact Or.inl (Keeps.await rfl s here)
  | retryOrphans => cases taken; exact Or.inl (Keeps.closeAll _ w s here)
  | pair origin d => cases taken; exact Or.inl (Keeps.of_same rfl rfl s here)
  | report client op d =>
    cases taken
    unfold World.handleReport at here
    split_ifs at here
    · exact Or.inl (Keeps.sendFrame rfl s here)
    · exact Or.inl here
  | answer n r =>
    simp only [step] at taken
    cases flying : w.inFlight.lookup n with
    | none => rw [flying] at taken; cases taken
    | some q =>
      rw [flying] at taken
      dsimp only at taken
      split_ifs at taken
      have settled (w' : World) (pending : w'.pending = w.pending.erase n) (store : w'.store = w.store) : Keeps w w' :=
        .forget (fun n' c found => lookup_of_erase (pending ▸ found)) fun k wait found => store ▸ found
      have recorded : Keeps w ({ w with inFlight := w.inFlight.erase n, pending := w.pending.erase n }.record r q) := by
        cases q with
        | openDevice d =>
          unfold World.record
          split_ifs <;> exact settled _ rfl rfl
        | _ => exact settled _ rfl rfl
      cases waiting : w.pending.lookup n with
      | none => rw [waiting] at taken; cases taken; exact Or.inl (recorded s here)
      | some c =>
        rw [waiting] at taken
        cases taken
        cases c with
        | opened client d =>
          simp only [World.resolve,World.openAnswered] at here
          split_ifs at here
          · exact Or.inl (recorded.trans (.await rfl) s here)
          · exact Or.inl (recorded s here)
        | cleaned d t own rest =>
          cases Option.some.inj ((ok.awaited n _ waiting).symm.trans flying)
          exact at_cleanupSettled waiting (Or.inl ⟨r,rfl⟩) here
        | closed client d t =>
          simp only [World.resolve,World.closeAnswered] at here
          split_ifs at here
          · exact Or.inl (recorded.trans (.of_same rfl rfl) s here)
          · exact Or.inl (recorded.trans (.of_same rfl rfl) s here)
          · exact Or.inl (recorded s here)
        | reported client op d => exact Or.inl (recorded s here)
  | timeout n =>
    simp only [step] at taken
    cases waiting : w.pending.lookup n with
    | none => rw [waiting] at taken; cases taken
    | some c =>
      rw [waiting] at taken
      cases taken
      have settled : Keeps w { w with pending := w.pending.erase n } :=
        .forget (fun n' c found => lookup_of_erase found) fun k wait found => found
      cases c with
      | cleaned d t own rest => exact at_cleanupSettled (f := w.inFlight) waiting (Or.inr rfl) here
      | _ => exact Or.inl (settled s here)
  | stored k =>
    obtain ⟨wait,found,ran⟩ := Option.bind_eq_some_iff.mp taken
    have freed := Keeps.forgetStore w k
    cases wait with
    | openLookup client d =>
      cases ran
      unfold World.openLookedUp at here
      split_ifs at here
      · exact Or.inl (freed.trans (.sendFrame rfl) s here)
      · exact Or.inl (freed s here)
    | openRecheck client d r => cases ran; exact Or.inl (keeps_openRechecked w k client d r s here)
    | revokeGroups origin targets => cases ran
    | revokeRemove origin d rest call =>
      cases ran
      have removed : Keeps w { w with store := w.store.erase k, allowed := w.allowed.erase (origin,d) } :=
        freed.trans (.of_same rfl rfl)
      rcases at_revokeTokens here with before | same
      · exact Or.inl (removed s before)
      · have stage : Stage.ofRevocation ⟨origin,d,(w.state.collectDeviceSessionsForOrigin d origin).map Prod.snd,rest,call⟩
            = ⟨origin,call,rest,w.state.collectDeviceSessionsForOrigin d origin⟩ := by
          rw [Stage.ofRevocation,Stage.mk.injEq,List.map_map]
          refine ⟨rfl,rfl,rfl,(List.map_congr_left fun key member => ?_).trans (List.map_id _)⟩
          exact Prod.ext (mem_collectDeviceSessionsForOrigin.mp member).1.symm rfl
        exact Or.inr (same.trans stage ▸ .removed k origin d rest call rfl found)
    | revokeFinish origin call => cases ran; exact Or.inl (freed s here)
  | groupsRead k groups =>
    simp only [step] at taken
    split at taken
    · cases taken
      rcases at_revokeNext here with before | same
      · exact Or.inl (Keeps.forgetStore w k s before)
      · exact Or.inr (same ▸ .groups _ _)
    · cases taken
  | storeFailed k =>
    simp only [step] at taken
    split at taken <;> cases taken
    exact Or.inl (Keeps.forgetStore w k s here)

/-- The run comes to the world `before`, where the call removes the grant of the device. -/
def RemovesAt (b : Browser) (first : List Action) (k : Nat) (origin : Origin) (d : DeviceId) (call : RevokeCall)
    (before : World) : Prop :=
  exec (step b) init first = some before ∧ ∃ rest, before.store.lookup k = some (.revokeRemove origin d rest call)

/-- The call removed the grant, and the sessions that the origin had on the device are
    closed, or the call has still to close them. -/
def Closes (b : Browser) (trace : List Action) (w : World) (s : Stage) (d : DeviceId) : Prop :=
  ∃ first k later before, trace = first ++ .stored k :: later ∧ RemovesAt b first k s.origin d s.call before ∧
    ∀ t o, ownerOf before d t = some o → o.origin = s.origin → Told w t ∧ (ownerOf w d t = none ∨ (d,t) ∈ s.closing)

structure Progress (b : Browser) (trace : List Action) (w : World) : Prop where
  sound : Sound b w
  aims : Aims (Aimed w) w
  stages : ∀ s, At w s → ∀ d ∈ s.call.toRevoke, d ∈ s.devices ∨ Closes b trace w s d

variable {trace : List Action} {a : Action}

/-- A closed session stays closed, and a step closes the session that `gone` names. -/
theorem Closes.step {s' : Stage} (closes : Closes b trace w s d) (later : Later w w') (origin : s'.origin = s.origin)
    (call : s'.call = s.call)
    (gone : ∀ t, (d,t) ∈ s.closing → ownerOf w' d t = none ∨ (d,t) ∈ s'.closing) : Closes b (trace ++ [a]) w' s' d := by
  obtain ⟨first,k,after,before,rfl,removes,closed⟩ := closes
  refine ⟨first,k,after ++ [a],before,by simp,by rw [origin,call]; exact removes,fun t o registered same => ?_⟩
  obtain ⟨told,here⟩ := closed t o registered (same.trans origin)
  refine ⟨later.told t told,?_⟩
  rcases here with none | listed
  · refine Or.inl ?_
    rcases later.sessions d t told with kept | dropped
    · exact kept.trans none
    · exact dropped
  · exact gone t listed

/-- A cleanup that settles drops its session. -/
theorem cleaned_gone (ok : Sound b w) {n : Nat} {own : Option Owner} {rest : Option Revocation}
    (waiting : w.pending.lookup n = some (.cleaned d t own rest)) (action : (∃ r, a = .answer n r) ∨ a = .timeout n)
    (taken : step b w a = some w') : ownerOf w' d t = none := by
  obtain ⟨_,here,_⟩ := ok.continuations n _ waiting
  have settled {f : HashMap Nat NmRequest} {gone : Bool} :
      ownerOf ({ w with pending := w.pending.erase n, inFlight := f }.cleanupSettled d t own rest gone) d t = none := by
    have dropped : ownerOf (cleaned w n f d t own gone) d t = none := cleaned_owner.trans (dropOwned_gone here)
    cases rest with
    | none => exact dropped
    | some rev =>
      rw [ownerOf,World.cleanupSettled,revokeTokens_sessions]
      exact dropped
  rcases action with ⟨r,rfl⟩ | rfl
  · simp only [step,ok.awaited n _ waiting,waiting] at taken
    split_ifs at taken
    cases taken
    exact settled
  · simp only [step,waiting] at taken
    cases taken
    exact settled

theorem Progress.step (progress : Progress b trace w) (run : exec (step b) init trace = some w)
    (taken : step b w a = some w') (aimed : wellAimed w a = true) : Progress b (trace ++ [a]) w' := by
  obtain ⟨ok,aims,stages⟩ := progress
  have effect := step_aimed ok aims aimed taken
  have later := effect.later ok
  refine ⟨step_sound ok taken,effect.aims ok aims,fun s here d revoked => ?_⟩
  rcases step_stage ok taken here with before | enters
  · exact (stages s before d revoked).imp_right fun closes => closes.step later rfl rfl fun t listed => Or.inr listed
  · cases enters with
    | groups origin call => exact Or.inl revoked
    | removed k origin d' rest call action found =>
      have old : At w ⟨origin,call,d' :: rest,[]⟩ := Or.inl ⟨k,_,found,rfl⟩
      rcases stages _ old d revoked with due | closes
      · rcases List.mem_cons.mp due with rfl | later'
        · refine Or.inr ⟨trace,k,[],w,by rw [action],⟨run,rest,found⟩,fun t o registered same => ?_⟩
          refine ⟨later.told t (ok.sessions d t o registered).2.1,Or.inr ?_⟩
          exact mem_collectDeviceSessionsForOrigin.mpr ⟨rfl,o,registered,same⟩
        · exact Or.inl later'
      · exact Or.inr (closes.step later rfl rfl fun t listed => by cases listed)
    | closed n d' t' own rev waiting action =>
      have old : At w { Stage.ofRevocation rev with closing := (d',t') :: (Stage.ofRevocation rev).closing } :=
        Or.inr ⟨n,_,waiting,rfl⟩
      refine (stages _ old d revoked).imp_right fun closes => closes.step later rfl rfl fun t listed => ?_
      rcases List.mem_cons.mp listed with same | rest
      · cases same; exact Or.inl (cleaned_gone ok waiting action taken)
      · exact Or.inr rest

/-! ### Complete revocations -/

/-- The origin has no grant, and a session that it has registered is one of `P`. -/
def Ungranted (P : Token → Prop) (origin : Origin) (d : DeviceId) (w : World) : Prop :=
  (origin,d) ∉ w.allowed ∧ ∀ t o, ownerOf w d t = some o → o.origin = origin → P t

/-- The origin has no grant and no registered session. -/
def Clear (w : World) (origin : Origin) (d : DeviceId) : Prop :=
  (origin,d) ∉ w.allowed ∧ ∀ t o, ownerOf w d t = some o → o.origin ≠ origin

/-- Somewhere in the run the origin had the session registered. -/
def WasRegistered (b : Browser) (trace : List Action) (origin : Origin) (d : DeviceId) (t : Token) : Prop :=
  ∃ start rest w o, trace = start ++ rest ∧ exec (step b) init start = some w ∧ ownerOf w d t = some o ∧ o.origin = origin

/-- Without the grant no open registers a session. -/
theorem run_ungranted {P : Token → Prop} {origin : Origin} (ok : Sound b w) (aims : Aims (Aimed w) w) (here : Ungranted P origin d w)
    (run : exec (step b) w trace = some w') (aimed : AllSteps (step b) (fun s a _ => wellAimed s a = true) w trace)
    (unpaired : Action.pair origin d ∉ trace) : Ungranted P origin d w' := by
  have never : AllSteps (step b) (fun _ a _ => a ≠ .pair origin d) w trace :=
    allSteps_of_mem fun a member _ _ same => unpaired (same ▸ member)
  refine (exec_invariant_under (I := fun s => Sound b s ∧ Aims (Aimed s) s ∧ Ungranted P origin d s) ?_ ⟨ok,aims,here⟩ run
    (aimed.and never)).2.2
  rintro s a s' ⟨sound,aims,ungranted,all⟩ taken ⟨aimed,other⟩
  have effect := step_aimed sound aims aimed taken
  refine ⟨step_sound sound taken,effect.aims sound aims,fun granted => ?_,fun t o registered same => ?_⟩
  · rcases (step_keeps sound taken).paired _ granted with before | pairs
    · exact ungranted before
    · exact other pairs
  · rcases effect.registered sound registered with before | ⟨k,client,registers⟩
    · exact all t o before same
    · have allowed := registers.allowed
      rw [registers.owner] at same
      exact absurd (same ▸ allowed) ungranted

/-- The step that removes the grant: only the sessions registered before it are left. -/
theorem removed_ungranted {first : List Action} {k : Nat} {origin : Origin} {call : RevokeCall} (ok : Sound b w)
    (aims : Aims (Aimed w) w) (removes : RemovesAt b first k origin d call w) (taken : step b w (.stored k) = some w') :
    Ungranted (fun t => ∃ o, ownerOf w d t = some o ∧ o.origin = origin) origin d w' := by
  obtain ⟨_,rest,found⟩ := removes
  refine ⟨?_,fun t o registered same => ⟨o,?_,same⟩⟩
  · obtain ⟨wait,found',ran⟩ := Option.bind_eq_some_iff.mp taken
    cases Option.some.inj (found.symm.trans found')
    cases ran
    have freed : Sound b { w with store := w.store.erase k, allowed := w.allowed.erase (origin,d) } :=
      (ok.forgetStore k).withAllowed _
    rw [World.revokeRemoved,(OnlyAdds.revokeTokens freed _).allowed]
    exact Finset.notMem_erase _ _
  · rcases (step_aimed ok aims rfl taken).registered ok registered with before | ⟨k',client,registers⟩
    · exact before
    · obtain ⟨r,held,_⟩ := registers.waits
      obtain rfl : k = k' := by injection registers.action
      cases found.symm.trans held

theorem progress_init : Progress b [] init := by
  refine ⟨Sound.init b,aims_init,fun s here => ?_⟩
  rcases here with ⟨k,_,found,_⟩ | ⟨n,_,found,_⟩
  · cases (AList.lookup_empty k).symm.trans found
  · cases (AList.lookup_empty n).symm.trans found

theorem run_progress (run : exec (step b) init trace = some w)
    (aimed : AllSteps (step b) (fun s a _ => wellAimed s a = true) init trace) : Progress b trace w :=
  exec_history progress_init (fun _ _ _ _ run taken aimed progress => progress.step run taken aimed) run aimed

/-- A session that was registered, and is closed since the removal, is filed. -/
theorem filed_of_closed {before : World} {first second : List Action} {o : Owner} (ok : Sound b w) (aims : Aims (Aimed w) w)
    (registered : ownerOf w d t = some o) (run : exec (step b) w first = some before)
    (goesOn : exec (step b) before second = some w')
    (aimed : AllSteps (step b) (fun s a _ => wellAimed s a = true) w (first ++ second))
    (closed : ownerOf before d t = some o → ownerOf w' d t = none) : Filed w' d t := by
  obtain ⟨okBefore,aimsBefore⟩ := run_aims ok aims run aimed.start
  have told := (run_later ok aims run aimed.start).told t (ok.sessions d t o registered).2.1
  have stays := (run_later okBefore aimsBefore goesOn (aimed.rest run)).sessions d t told
  have whole := exec_append.mpr ⟨before,run,goesOn⟩
  refine (run_filed ok aims registered whole aimed).resolve_left fun still => ?_
  rcases stays with same | none
  · cases (closed (same.symm.trans still)).symm.trans still
  · cases none.symm.trans still

/-- A call of `handleRevokeDevice` that completes has removed the grant of every device
    that it revokes. All sessions that the origin had on the device up to then are closed
    at the daemon or left for retry, and unless the device is granted again, the origin
    has no grant and no session on it at the end and at any later time. -/
theorem revocation_is_complete {more : List Action} {k : Nat} {origin : Origin} {call : RevokeCall} {done : World}
    (run : exec (step b) init trace = some w) (finishing : w.store.lookup k = some (.revokeFinish origin call))
    (completes : step b w (.stored k) = some done) (goesOn : exec (step b) done more = some w')
    (aimed : AllSteps (step b) (fun s a _ => wellAimed s a = true) init (trace ++ .stored k :: more))
    (revoked : d ∈ call.targetIds ∨ ∃ ids ∈ call.groups, (∃ id ∈ ids, id ∈ call.targetIds) ∧ d ∈ ids) :
    ∃ first k' later before, trace = first ++ .stored k' :: later ∧ RemovesAt b first k' origin d call before ∧
      (∀ t, WasRegistered b first origin d t → Filed done d t) ∧
      (.pair origin d ∉ later → Clear done origin d) ∧ (.pair origin d ∉ later ++ more → Clear w' origin d) := by
  have progress := run_progress run aimed.start
  have here : At w ⟨origin,call,[],[]⟩ := Or.inl ⟨k,_,finishing,rfl⟩
  obtain ⟨first,k',later,before,rfl,removes,closed⟩ :=
    (progress.stages _ here d (mem_toRevoke.mpr revoked)).resolve_left List.not_mem_nil
  replace closed (t : Token) (o : Owner) (earlier : ownerOf before d t = some o) (same : o.origin = origin) :
      ownerOf w d t = none := (closed t o earlier same).2.resolve_right List.not_mem_nil
  have ended : done = { w with store := w.store.erase k } := by
    obtain ⟨wait,found,ran⟩ := Option.bind_eq_some_iff.mp completes
    cases Option.some.inj (finishing.symm.trans found)
    cases ran; rfl
  obtain ⟨before',reached,remaining⟩ := exec_append.mp run
  cases Option.some.inj (removes.1.symm.trans reached)
  have removal := aimed.start
  obtain ⟨okBefore,aimsBefore⟩ := run_aims (Sound.init b) aims_init reached removal.start
  have clear (unpaired : Action.pair origin d ∉ later) : Clear done origin d := by
    obtain ⟨next,taken,afterwards⟩ := exec_cons.mp remaining
    have left := run_ungranted (step_sound okBefore taken) ((step_aimed okBefore aimsBefore rfl taken).aims okBefore aimsBefore)
      (removed_ungranted okBefore aimsBefore removes taken) afterwards (removal.rest reached next taken).2 unpaired
    refine ended ▸ ⟨left.1,fun t o registered same => ?_⟩
    obtain ⟨o',earlier,same'⟩ := left.2 t o registered same
    cases (closed t o' earlier same').symm.trans registered
  refine ⟨first,k',later,before,rfl,removes,fun t was => ?_,clear,fun unpaired => ?_⟩
  · obtain ⟨start,rest,s,o,rfl,reachedStart,registered,same⟩ := was
    rw [List.append_assoc] at removal
    obtain ⟨okStart,aimsStart⟩ := run_aims (Sound.init b) aims_init reachedStart removal.start
    obtain ⟨s',reached',onward⟩ := exec_append.mp reached
    cases Option.some.inj (reachedStart.symm.trans reached')
    have filed := filed_of_closed okStart aimsStart registered onward remaining (removal.rest reachedStart)
      fun still => closed t o still same
    exact ended ▸ filed
  · simp only [List.mem_append,not_or] at unpaired
    have okDone := step_sound progress.sound completes
    have aimsDone := (step_aimed progress.sound progress.aims rfl completes).aims progress.sound progress.aims
    have still := clear unpaired.1
    exact run_ungranted okDone aimsDone still goesOn (aimed.rest run done completes).2 unpaired.2

end

/-- The origin has a session on device 7; a second open of it has read the grant, and the
    daemon has opened the device, when device 7 and the rest of its group are revoked. -/
def revokedWhileOpening : List Action :=
  [.pair "https://example.org" 7,.pair "https://example.org" 8,
    .openRequest (frameWindow 1) 7,.stored 0,.answer 1 ⟨200,7,"first"⟩,.stored 1,
    .openRequest (frameWindow 2) 7,.stored 2,.revokeRequest "https://example.org" [7],.groupsRead 3 [[7,8]],
    .answer 2 ⟨200,7,"second"⟩,.stored 4,.stored 5,.answer 3 ⟨200,0,""⟩,.timeout 4,.stored 6]

/-- The origin ends without a grant and without a session, and so it stays when the
    daemon answers late. -/
theorem revocation_is_complete_group : ∃ w done w',
    exec (step oneTab) init revokedWhileOpening = some w ∧ step oneTab w (.stored 7) = some done ∧
    exec (step oneTab) done [.answer 4 ⟨200,0,""⟩] = some w' ∧
    Clear done "https://example.org" 7 ∧ Clear w' "https://example.org" 7 := by
  obtain ⟨w,run⟩ := Option.isSome_iff_exists.mp
    (by decide : (exec (step oneTab) init revokedWhileOpening).isSome = true)
  have found : (exec (step oneTab) init revokedWhileOpening).bind (fun w => w.store.lookup 7) =
      some (.revokeFinish "https://example.org" ⟨3,[7],[[7,8]]⟩) := by decide
  have completes : ((exec (step oneTab) init revokedWhileOpening).bind (fun w => step oneTab w (.stored 7))).isSome =
      true := by decide
  have goesOn : (((exec (step oneTab) init revokedWhileOpening).bind (fun w => step oneTab w (.stored 7))).bind
      fun done => exec (step oneTab) done [.answer 4 ⟨200,0,""⟩]).isSome = true := by decide
  rw [run,Option.bind_some] at found completes goesOn
  obtain ⟨done,completed⟩ := Option.isSome_iff_exists.mp completes
  rw [completed,Option.bind_some] at goesOn
  obtain ⟨w',went⟩ := Option.isSome_iff_exists.mp goesOn
  obtain ⟨first,k,later,before,split,removes,_,clear,still⟩ := revocation_is_complete (d := 7) run found completed went
    (allSteps_of_checkAll (by decide)) (Or.inl List.mem_cons_self)
  -- The grants were given before the removal.
  have unpaired : Action.pair "https://example.org" 7 ∉ later := by
    obtain ⟨reached,rest,waits⟩ := removes
    rcases first with _ | ⟨a,_ | ⟨a',first⟩⟩
    · cases reached
      cases (AList.lookup_empty k).symm.trans waits
    · injection split with same _
      subst same
      cases reached
      cases (AList.lookup_empty k).symm.trans waits
    · injection split with _ tail
      injection tail with _ tail
      intro member
      have among : Action.pair "https://example.org" 7 ∈ first.append (.stored k :: later) :=
        List.mem_append_right first (List.mem_cons_of_mem _ member)
      exact absurd (tail.symm ▸ among) (by decide)
  refine ⟨w,done,w',run,completed,went,clear unpaired,still ?_⟩
  rw [List.mem_append,not_or]
  exact ⟨unpaired,by decide⟩

end FFWebHid.Revocations
