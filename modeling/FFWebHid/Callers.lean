import FFWebHid.Maps
import FFWebHid.StateOps
import FFWebHid.Background
import FFWebHid.Bookkeeping
import FFWebHid.LiveSessions
import FFWebHid.Effects
import FFWebHid.Revocations

/-!
For whom the background works. A request of a client to open or close a device stands at
one place at a time: a transaction of the grant store or a request to the native host. It
comes there from the client, or from the place before. A revocation under way stays under
way until it ends or the store fails.
-/
namespace FFWebHid.Callers
open FFWebHid.Maps FFWebHid.StateOps FFWebHid.Background FFWebHid.Bookkeeping FFWebHid.LiveSessions FFWebHid.Effects
open FFWebHid.Revocations

inductive Place where
  | stored (k : Nat)
  | native (n : Nat)
  deriving DecidableEq, Repr

/-- What a client has asked for. -/
inductive Call where
  | opening (client : Client) (d : DeviceId)
  | closing (client : Client) (d : DeviceId) (t : Token)
  deriving DecidableEq, Repr

def callOfWait : StoreWait → Option Call
  | .openLookup client d => some (.opening client d)
  | .openRecheck client d _ => some (.opening client d)
  | _ => none

def callOfRequest : Continuation → Option Call
  | .opened client d => some (.opening client d)
  | .closed client d t => some (.closing client d t)
  | _ => none

def callAt (w : World) : Place → Option Call
  | .stored k => (w.store.lookup k).bind callOfWait
  | .native n => (w.pending.lookup n).bind callOfRequest

/-- The step takes what stands at the place. -/
def takes : Action → Place → Bool
  | .answer n _,.native m => n == m
  | .timeout n,.native m => n == m
  | .stored k,.stored j => k == j
  | .groupsRead k _,.stored j => k == j
  | .storeFailed k,.stored j => k == j
  | _,_ => false

/-- How a call comes to a place. -/
inductive Arises (b : Browser) (w : World) (a : Action) : Place → Call → Prop
  | asked (client : Client) (d : DeviceId) (action : a = .openRequest client d) :
    Arises b w a (.stored w.nextStore) (.opening client d)
  | lookedUp (k : Nat) (client : Client) (d : DeviceId) (action : a = .stored k)
    (found : w.store.lookup k = some (.openLookup client d)) (allowed : (b.origin client,d) ∈ w.allowed) :
    Arises b w a (.native w.nextId) (.opening client d)
  | received (n : Nat) (client : Client) (d : DeviceId) (r : NmResponse) (action : a = .answer n r)
    (found : w.pending.lookup n = some (.opened client d)) (fine : isOk r.s = true ∧ r.i ≠ 0) :
    Arises b w a (.stored w.nextStore) (.opening client d)
  | closes (client : Client) (d : DeviceId) (t : Token) (action : a = .closeRequest client d t)
    (owned : t = "" ∨ w.state.isSessionOwnedBy d t (b.origin client) (b.tab client) client.frame client.clientKey = true) :
    Arises b w a (.native w.nextId) (.closing client d t)

/-- A revocation of the device for the origin is under way. -/
def Revoking (w : World) (origin : Origin) (d : DeviceId) : Prop :=
  ∃ s, At w s ∧ s.origin = origin ∧ d ∈ s.call.toRevoke

section
variable {b : Browser} {w w' w'' : World} {d : DeviceId} {t : Token} {p : Place} {call : Call}

/-- No call comes to a place, and no transaction ends. -/
structure Adds (w w' : World) : Prop where
  calls : ∀ p call, callAt w' p = some call → callAt w p = some call
  kept : ∀ k wait, w.store.lookup k = some wait → w'.store.lookup k = some wait

theorem Adds.refl (w : World) : Adds w w := ⟨fun _ _ here => here,fun _ _ found => found⟩

theorem Adds.trans (first : Adds w w') (second : Adds w' w'') : Adds w w'' :=
  ⟨fun p call here => first.calls p call (second.calls p call here),
    fun k wait found => second.kept k wait (first.kept k wait found)⟩

theorem callAt_congr (store : w'.store = w.store) (pending : w'.pending = w.pending) (p : Place) :
    callAt w' p = callAt w p := by
  cases p with
  | stored k => rw [callAt,callAt,store]
  | native n => rw [callAt,callAt,pending]

theorem Adds.same (store : w'.store = w.store) (pending : w'.pending = w.pending) : Adds w w' :=
  ⟨fun p _ here => (callAt_congr store pending p).symm.trans here,fun _ _ found => store ▸ found⟩

theorem callAt_sendFrame {c : Continuation} (here : callAt (w.sendFrame c) p = some call) :
    callAt w p = some call ∨ p = .native w.nextId ∧ callOfRequest c = some call := by
  cases p with
  | stored k => exact .inl here
  | native n =>
    simp only [callAt,World.sendFrame,lookup_insert_eq] at here
    by_cases new : n = w.nextId
    · rw [if_pos new] at here
      exact .inr ⟨by rw [new],here⟩
    · rw [if_neg new] at here
      exact .inl here

theorem callAt_await {wait : StoreWait} (here : callAt (w.await wait) p = some call) :
    callAt w p = some call ∨ p = .stored w.nextStore ∧ callOfWait wait = some call := by
  cases p with
  | native n => exact .inl here
  | stored k =>
    simp only [callAt,World.await,lookup_insert_eq] at here
    by_cases new : k = w.nextStore
    · rw [if_pos new] at here
      exact .inr ⟨by rw [new],here⟩
    · rw [if_neg new] at here
      exact .inl here

theorem Adds.sendFrame {c : Continuation} (plain : callOfRequest c = none) : Adds w (w.sendFrame c) := by
  refine ⟨fun p call here => (callAt_sendFrame here).resolve_right fun new => ?_,fun _ _ found => found⟩
  rw [plain] at new
  cases new.2

theorem await_kept (ok : Sound b w) (wait : StoreWait) {k : Nat} {wait' : StoreWait}
    (found : w.store.lookup k = some wait') : (w.await wait).store.lookup k = some wait' :=
  (store_await ok).mpr (.inr ⟨ok.storeFresh k wait' found,found⟩)

theorem Adds.await (ok : Sound b w) {wait : StoreWait} (plain : callOfWait wait = none) : Adds w (w.await wait) := by
  refine ⟨fun p call here => (callAt_await here).resolve_right fun new => ?_,fun _ _ found => await_kept ok wait found⟩
  rw [plain] at new
  cases new.2

theorem Adds.closeAll (before : BgState → DeviceId × Token → BgState) (keys : List (DeviceId × Token)) (w : World) :
    Adds w (w.closeAll before keys) := by
  induction keys generalizing w with
  | nil => exact .refl w
  | cons key rest ih =>
    have state : Adds w { w with state := before w.state key } := .same rfl rfl
    have sent : Adds w (w.closeNext before key) := state.trans (.sendFrame rfl)
    exact sent.trans (ih (w.closeNext before key))

theorem Adds.revokeNext (ok : Sound b w) (origin : Origin) (call : RevokeCall) (devices : List DeviceId) :
    Adds w (w.revokeNext origin call devices) := by
  cases devices with
  | nil => exact .await ok rfl
  | cons d rest => exact .await ok rfl

theorem Adds.revokeTokens (ok : Sound b w) (rev : Revocation) : Adds w (w.revokeTokens rev) := by
  obtain ⟨origin,d,tokens,devices,call⟩ := rev
  cases tokens with
  | nil => exact .revokeNext ok origin call devices
  | cons t tokens =>
    have counted : Adds w { w with state := w.state.unregisterOwnerTab d t } := .same rfl rfl
    exact counted.trans (.sendFrame rfl)

theorem Adds.cleanupDone (w : World) (d : DeviceId) (t : Token) (own : Option Owner) (gone : Bool) :
    Adds w (w.cleanupDone d t own gone) := by
  cases gone <;> exact .same rfl rfl

theorem Adds.record (w : World) (r : NmResponse) (q : NmRequest) : Adds w (w.record r q) := by
  cases q with
  | openDevice d =>
    unfold World.record
    split_ifs
    · exact .same rfl rfl
    · exact .refl w
  | _ => exact .refl w

theorem record_store (r : NmResponse) (q : NmRequest) : (w.record r q).store = w.store := by
  cases q with
  | openDevice d =>
    unfold World.record
    split_ifs <;> rfl
  | _ => rfl

theorem record_nextStore (r : NmResponse) (q : NmRequest) : (w.record r q).nextStore = w.nextStore := by
  cases q with
  | openDevice d =>
    unfold World.record
    split_ifs <;> rfl
  | _ => rfl

theorem Adds.cleanupSettled (ok : Sound b w) {own : Option Owner} {rest : Option Revocation}
    (fine : ContinuationOk b w (.cleaned d t own rest)) (gone : Bool) :
    Adds w (w.cleanupSettled d t own rest gone) := by
  cases rest with
  | none => exact .cleanupDone w d t own gone
  | some rev =>
    exact (Adds.cleanupDone w d t own gone).trans (.revokeTokens (ok.cleanupDone fine.1 fine.2.1 gone) rev)

structure StepCalls (b : Browser) (w : World) (a : Action) (w' : World) : Prop where
  calls : ∀ p call, callAt w' p = some call → (callAt w p = some call ∧ takes a p = false) ∨ Arises b w a p call
  kept : ∀ k wait, w.store.lookup k = some wait → w'.store.lookup k = some wait ∨ takes a (.stored k) = true

theorem StepCalls.plain {a : Action} (adds : Adds w w') (free : ∀ p, takes a p = false) : StepCalls b w a w' :=
  ⟨fun p call here => .inl ⟨adds.calls p call here,free p⟩,fun k wait found => .inl (adds.kept k wait found)⟩

/-- The transaction has ended. -/
theorem StepCalls.took {a : Action} {k : Nat} (allowed : Finset (Origin × DeviceId))
    (there : takes a (.stored k) = true) (only : ∀ p, takes a p = true → p = .stored k)
    (adds : Adds { w with store := w.store.erase k, allowed := allowed } w') : StepCalls b w a w' := by
  constructor
  · intro p call here
    have before := adds.calls p call here
    cases p with
    | native n =>
      refine .inl ⟨before,Bool.eq_false_iff.mpr fun taken => ?_⟩
      cases only _ taken
    | stored j =>
      simp only [callAt,lookup_erase_eq] at before
      by_cases same : j = k
      · rw [if_pos same] at before
        cases before
      · rw [if_neg same] at before
        refine .inl ⟨before,Bool.eq_false_iff.mpr fun taken => same ?_⟩
        injection only _ taken
  · intro j wait found
    by_cases same : j = k
    · exact .inr (same ▸ there)
    · exact .inl (adds.kept j wait ((lookup_erase_eq _ _ _).trans ((if_neg same).trans found)))

/-- The native request is settled. -/
theorem StepCalls.settled {a : Action} {n : Nat} (inFlight : HashMap Nat NmRequest)
    (only : ∀ p, takes a p = true → p = .native n)
    (adds : Adds { w with inFlight := inFlight, pending := w.pending.erase n } w') : StepCalls b w a w' := by
  constructor
  · intro p call here
    have before := adds.calls p call here
    cases p with
    | stored k =>
      refine .inl ⟨before,Bool.eq_false_iff.mpr fun taken => ?_⟩
      cases only _ taken
    | native m =>
      simp only [callAt,lookup_erase_eq] at before
      by_cases same : m = n
      · rw [if_pos same] at before
        cases before
      · rw [if_neg same] at before
        refine .inl ⟨before,Bool.eq_false_iff.mpr fun taken => same ?_⟩
        injection only _ taken
  · exact fun k wait found => .inl (adds.kept k wait found)

theorem takes_stored {k : Nat} {p : Place} (taken : takes (.stored k) p = true) : p = .stored k := by
  cases p with
  | stored j => exact congrArg Place.stored (beq_iff_eq.mp taken).symm
  | native n => cases taken

theorem takes_storeFailed {k : Nat} {p : Place} (taken : takes (.storeFailed k) p = true) : p = .stored k := by
  cases p with
  | stored j => exact congrArg Place.stored (beq_iff_eq.mp taken).symm
  | native n => cases taken

theorem takes_groupsRead {k : Nat} {groups : List (List DeviceId)} {p : Place}
    (taken : takes (.groupsRead k groups) p = true) : p = .stored k := by
  cases p with
  | stored j => exact congrArg Place.stored (beq_iff_eq.mp taken).symm
  | native n => cases taken

theorem takes_answer {n : Nat} {r : NmResponse} {p : Place} (taken : takes (.answer n r) p = true) : p = .native n := by
  cases p with
  | stored j => cases taken
  | native m => exact congrArg Place.native (beq_iff_eq.mp taken).symm

theorem takes_timeout {n : Nat} {p : Place} (taken : takes (.timeout n) p = true) : p = .native n := by
  cases p with
  | stored j => cases taken
  | native m => exact congrArg Place.native (beq_iff_eq.mp taken).symm

/-- A call that comes to one new place. -/
theorem StepCalls.and {a : Action} {w₁ : World} (before : StepCalls b w a w₁)
    (calls : ∀ p call, callAt w' p = some call → callAt w₁ p = some call ∨ Arises b w a p call)
    (kept : ∀ k wait, w₁.store.lookup k = some wait → w'.store.lookup k = some wait) : StepCalls b w a w' := by
  constructor
  · intro p call here
    rcases calls p call here with there | arises
    · exact before.calls p call there
    · exact .inr arises
  · exact fun k wait found => (before.kept k wait found).imp_left (kept k wait)

theorem step_calls (ok : Sound b w) {a : Action} (taken : step b w a = some w') : StepCalls b w a w' := by
  cases a with
  | openRequest client d =>
    cases taken
    unfold World.handleOpen
    split
    · exact .plain (.refl w) fun _ => rfl
    · next s registered =>
      obtain ⟨tabs,sessions,orphans⟩ := registerFrameLifetime_quiet registered
      have quiet : Sound b { w with state := s } :=
        ok.withCounts sessions orphans fun key => by rw [tabs]; exact ok.noZero key
      have state : StepCalls b w (.openRequest client d) { w with state := s } := .plain (.same rfl rfl) fun _ => rfl
      refine state.and (fun p call here => ?_) fun k wait found => await_kept quiet _ found
      rcases callAt_await here with before | ⟨rfl,new⟩
      · exact .inl before
      · cases new
        exact .inr (.asked client d rfl)
  | closeRequest client d t =>
    cases taken
    unfold World.handleClose
    have same : StepCalls b w (.closeRequest client d t) w := .plain (.refl w) fun _ => rfl
    split_ifs with fine
    · refine same.and (fun p call here => ?_) fun k wait found => found
      rcases callAt_sendFrame here with before | ⟨rfl,new⟩
      · exact .inl before
      · cases new
        exact .inr (.closes client d t rfl fine.2)
    · exact same
  | cleanupSession d t =>
    simp only [step] at taken
    split_ifs at taken
    cases taken
    have named : Adds w { w with known := t :: w.known } := .same rfl rfl
    exact .plain (named.trans (.sendFrame rfl)) fun _ => rfl
  | frameDestroyed frame =>
    cases taken
    have retired : Adds w { w with state := w.state.retireFrameLifetime (b.tabOf frame.bridgeInstanceId) frame } :=
      .same rfl rfl
    exact .plain (retired.trans (.closeAll _ _ _)) fun _ => rfl
  | bridgeGone bridge =>
    cases taken
    have retired : Adds w { w with state := w.state.retireBridgeFrames (b.tabOf bridge) bridge } := .same rfl rfl
    exact .plain (retired.trans (.closeAll _ _ _)) fun _ => rfl
  | tabRemoved tab =>
    cases taken
    have forgotten : Adds w { w with state := (w.state.forgetTabDevices tab).forgetTabFrames tab } := .same rfl rfl
    exact .plain (forgotten.trans (.closeAll _ _ _)) fun _ => rfl
  | revokeRequest origin targets =>
    cases taken
    unfold World.handleRevokeDevice
    split_ifs
    · exact .plain (.refl w) fun _ => rfl
    · exact .plain (.await ok rfl) fun _ => rfl
  | retryOrphans => cases taken; exact .plain (.closeAll _ _ w) fun _ => rfl
  | pair origin d => cases taken; exact .plain (.same rfl rfl) fun _ => rfl
  | report client op d =>
    cases taken
    unfold World.handleReport
    split_ifs
    · exact .plain (.sendFrame rfl) fun _ => rfl
    · exact .plain (.refl w) fun _ => rfl
  | answer n r =>
    simp only [step] at taken
    cases flying : w.inFlight.lookup n with
    | none => rw [flying] at taken; cases taken
    | some q =>
      rw [flying] at taken
      dsimp only at taken
      split_ifs at taken with may
      have recorded := Adds.record { w with inFlight := w.inFlight.erase n, pending := w.pending.erase n } r q
      have landed := ok.forgetFlight n
      cases waiting : w.pending.lookup n with
      | none => rw [waiting] at taken; cases taken; exact .settled _ (fun _ => takes_answer) recorded
      | some c =>
        rw [waiting] at taken
        cases taken
        cases Option.some.inj ((ok.awaited n c waiting).symm.trans flying)
        cases c with
        | opened client d =>
          have before : StepCalls b w (.answer n r) _ := .settled _ (fun _ => takes_answer) recorded
          simp only [World.resolve,World.openAnswered]
          split_ifs with fine
          · refine before.and (fun p call here => ?_) fun k wait found => ?_
            · rcases callAt_await here with there | ⟨rfl,new⟩
              · exact .inl there
              · cases new
                rw [record_nextStore]
                exact .inr (.received n client d r rfl waiting fine)
            · rw [record_store] at found
              have fresh := ok.storeFresh k wait found
              rw [World.await,record_nextStore,record_store,lookup_insert_eq,if_neg (Nat.ne_of_lt fresh)]
              exact found
          · exact before
        | cleaned d t own rest =>
          exact .settled (w.inFlight.erase n) (fun _ => takes_answer)
            (.cleanupSettled landed (ok.continuations n _ waiting) _)
        | closed client d t =>
          refine .settled (w.inFlight.erase n) (fun _ => takes_answer) ?_
          simp only [Continuation.request,World.record,World.resolve,World.closeAnswered]
          split_ifs <;> exact .same rfl rfl
        | reported client op d => exact .settled _ (fun _ => takes_answer) recorded
  | timeout n =>
    simp only [step] at taken
    cases waiting : w.pending.lookup n with
    | none => rw [waiting] at taken; cases taken
    | some c =>
      rw [waiting] at taken
      cases taken
      refine .settled w.inFlight (fun _ => takes_timeout) ?_
      cases c with
      | cleaned d t own rest => exact .cleanupSettled (ok.forgetPending n) (ok.continuations n _ waiting) false
      | _ => exact .refl _
  | stored k =>
    obtain ⟨wait,found,ran⟩ := Option.bind_eq_some_iff.mp taken
    have there : takes (.stored k) (.stored k) = true := beq_self_eq_true k
    have freed : StepCalls b w (.stored k) { w with store := w.store.erase k } :=
      .took w.allowed there (fun _ => takes_stored) (.refl _)
    cases wait with
    | openLookup client d =>
      cases ran
      unfold World.openLookedUp
      split_ifs with granted
      · refine freed.and (fun p call here => ?_) fun _ _ found => found
        rcases callAt_sendFrame here with before | ⟨rfl,new⟩
        · exact .inl before
        · cases new
          exact .inr (.lookedUp k client d rfl found granted)
      · exact freed
    | openRecheck client d r =>
      cases ran
      rcases openRechecked_cases ok found rfl with ⟨_,_,_,_,result⟩ | ⟨_,result⟩ <;> rw [result]
      · exact freed.and (fun p call here => .inl here) fun _ _ found => found
      · exact .took w.allowed there (fun _ => takes_stored) (.sendFrame rfl)
    | revokeGroups origin targets => cases ran
    | revokeRemove origin d rest call =>
      cases ran
      exact .took _ there (fun _ => takes_stored) (.revokeTokens ((ok.forgetStore k).withAllowed _) _)
    | revokeFinish origin call => cases ran; exact freed
  | groupsRead k groups =>
    simp only [step] at taken
    split at taken <;> cases taken
    exact .took w.allowed (beq_self_eq_true k) (fun _ => takes_groupsRead)
      (.revokeNext (ok.forgetStore k) _ _ _)
  | storeFailed k =>
    simp only [step] at taken
    split at taken <;> cases taken
    exact .took w.allowed (beq_self_eq_true k) (fun _ => takes_storeFailed) (.refl _)

/-- A call stays where it is until it is taken. -/
theorem callAt_kept (ok : Sound b w) {a : Action} (taken : step b w a = some w') (here : callAt w p = some call)
    (free : takes a p = false) : callAt w' p = some call := by
  cases p with
  | stored k =>
    obtain ⟨wait,found,calls⟩ := Option.bind_eq_some_iff.mp here
    rcases (step_calls ok taken).kept k wait found with kept | there
    · exact Option.bind_eq_some_iff.mpr ⟨wait,kept,calls⟩
    · rw [free] at there; cases there
  | native n =>
    obtain ⟨c,found,calls⟩ := Option.bind_eq_some_iff.mp here
    rcases (step_keeps ok taken).pending n c found with kept | ⟨r,rfl⟩ | rfl
    · exact Option.bind_eq_some_iff.mpr ⟨c,kept,calls⟩
    · simp [takes] at free
    · simp [takes] at free

/-! ### Owners of the sessions that are being closed -/

/-- Whoever has asked to close a session owns it. -/
def Owned (w : World) : Prop := ∀ n client d t, callAt w (.native n) = some (.closing client d t) → t ≠ "" →
  ∀ o, ownerOf w d t = some o → o.frameKey = client.frame ∧ o.clientKey = client.clientKey

theorem closing_iff {n : Nat} {client : Client} :
    callAt w (.native n) = some (.closing client d t) ↔ w.pending.lookup n = some (.closed client d t) := by
  simp only [callAt]
  cases w.pending.lookup n with
  | none => simp
  | some c => cases c <;> simp [callOfRequest]

theorem step_owned (ok : Sound b w) (owned : Owned w) {a : Action} (taken : step b w a = some w') : Owned w' := by
  have later := (step_effect_any ok taken).later ok
  intro n client d t here nonempty o registered
  rcases (step_calls ok taken).calls _ _ here with ⟨before,_⟩ | arises
  · have told := (ok.continuations n _ (closing_iff.mp before) nonempty).1
    rcases later.sessions d t told with same | gone
    · exact owned n client d t before nonempty o (same ▸ registered)
    · rw [gone] at registered
      cases registered
  · cases arises with
    | closes _ _ _ action owns =>
      subst action
      cases taken
      have same : ownerOf (w.handleClose b client d t) d t = ownerOf w d t := by
        unfold World.handleClose
        split_ifs <;> rfl
      rw [same] at registered
      have named := owns.resolve_left nonempty
      rw [BgState.isSessionOwnedBy,show w.state.deviceSessions.lookup (d,t) = some o from registered] at named
      simp only [Option.any_some,Bool.and_eq_true,beq_iff_eq] at named
      exact ⟨named.1.2,named.2⟩

/-- The devices of a stage are those that the call revokes. -/
def Listed (w : World) : Prop := ∀ s, At w s →
  (∀ d ∈ s.devices, d ∈ s.call.toRevoke) ∧ ∀ key ∈ s.closing, key.1 ∈ s.call.toRevoke

theorem step_listed (ok : Sound b w) (listed : Listed w) {a : Action} (taken : step b w a = some w') : Listed w' := by
  intro s here
  rcases step_stage ok taken here with before | enters
  · exact listed s before
  · cases enters with
    | groups origin call => exact ⟨fun _ member => member,fun _ member => absurd member List.not_mem_nil⟩
    | removed k origin d rest call action found =>
      have fine := listed ⟨origin,call,d :: rest,[]⟩ (.inl ⟨k,_,found,rfl⟩)
      refine ⟨fun d' member => fine.1 d' (List.mem_cons_of_mem d member),fun key member => ?_⟩
      rw [(mem_collectDeviceSessionsForOrigin.mp member).1]
      exact fine.1 d List.mem_cons_self
    | closed n d t own rev waiting action =>
      have fine := listed { Stage.ofRevocation rev with closing := (d,t) :: (Stage.ofRevocation rev).closing }
        (.inr ⟨n,_,waiting,rfl⟩)
      exact ⟨fine.1,fun key member => fine.2 key (List.mem_cons_of_mem _ member)⟩

theorem revoking_revokeNext {origin : Origin} {call : RevokeCall} {devices : List DeviceId} (member : d ∈ call.toRevoke) :
    Revoking (w.revokeNext origin call devices) origin d := by
  have stands (wait : StoreWait) {s : Stage} (stage : stageOfWait wait = some s) : At (w.await wait) s :=
    .inl ⟨w.nextStore,wait,(lookup_insert_eq _ _ _ _).trans (if_pos rfl),stage⟩
  cases devices with
  | nil => exact ⟨⟨origin,call,[],[]⟩,stands (.revokeFinish origin call) rfl,rfl,member⟩
  | cons d' rest => exact ⟨⟨origin,call,d' :: rest,[]⟩,stands (.revokeRemove origin d' rest call) rfl,rfl,member⟩

theorem revoking_revokeTokens (rev : Revocation) (member : d ∈ rev.call.toRevoke) :
    Revoking (w.revokeTokens rev) rev.origin d := by
  obtain ⟨origin,d',tokens,devices,call⟩ := rev
  cases tokens with
  | nil => exact revoking_revokeNext member
  | cons t tokens =>
    exact ⟨_,.inr ⟨w.nextId,_,(lookup_insert_eq _ _ _ _).trans (if_pos rfl),rfl⟩,rfl,member⟩

/-- How a revocation of the device for the origin ends. -/
def Ends (w : World) (a : Action) (origin : Origin) (d : DeviceId) : Prop :=
  (∃ k call, a = .stored k ∧ w.store.lookup k = some (.revokeFinish origin call) ∧ d ∈ call.toRevoke) ∨
    ∃ k wait s, a = .storeFailed k ∧ w.store.lookup k = some wait ∧ stageOfWait wait = some s ∧ s.origin = origin ∧
      d ∈ s.call.toRevoke

/-- A transaction of a revocation ends. -/
theorem revoking_stored {k : Nat} {wait : StoreWait} {s : Stage} (found : w.store.lookup k = some wait)
    (stage : stageOfWait wait = some s) (member : d ∈ s.call.toRevoke) (taken : step b w (.stored k) = some w') :
    Revoking w' s.origin d ∨ Ends w (.stored k) s.origin d := by
  obtain ⟨_,found',ran⟩ := Option.bind_eq_some_iff.mp taken
  cases Option.some.inj (found.symm.trans found')
  cases wait with
  | revokeRemove origin d' rest call =>
    cases stage
    cases ran
    exact .inl (revoking_revokeTokens
      ⟨origin,d',(w.state.collectDeviceSessionsForOrigin d' origin).map Prod.snd,rest,call⟩ member)
  | revokeFinish origin call =>
    cases stage
    exact .inr (.inl ⟨k,call,rfl,found,member⟩)
  | _ => cases stage

/-- A close that a revocation awaits is settled. -/
theorem revoking_settled {n : Nat} {c : Continuation} {s : Stage} (ok : Sound b w)
    (found : w.pending.lookup n = some c) (stage : stageOfRequest c = some s) (member : d ∈ s.call.toRevoke) {a : Action}
    (settles : Settles n a) (taken : step b w a = some w') : Revoking w' s.origin d := by
  cases c with
  | cleaned d' t own rest =>
    cases rest with
    | none => cases stage
    | some rev =>
      cases stage
      rcases settles with ⟨r,rfl⟩ | rfl
      · simp only [step] at taken
        cases flying : w.inFlight.lookup n with
        | none => rw [flying] at taken; cases taken
        | some q =>
          rw [flying] at taken
          dsimp only at taken
          split_ifs at taken
          rw [found] at taken
          cases taken
          cases Option.some.inj ((ok.awaited n _ found).symm.trans flying)
          exact revoking_revokeTokens rev member
      · simp only [step] at taken
        rw [found] at taken
        cases taken
        exact revoking_revokeTokens rev member
  | _ => cases stage

/-- A revocation goes on until it ends. -/
theorem step_revoking (ok : Sound b w) {a : Action} (taken : step b w a = some w') {origin : Origin}
    (revoking : Revoking w origin d) : Revoking w' origin d ∨ Ends w a origin d := by
  obtain ⟨s,stands | stands,rfl,member⟩ := revoking
  · obtain ⟨k,wait,found,stage⟩ := stands
    rcases (step_calls ok taken).kept k wait found with kept | there
    · exact .inl ⟨s,.inl ⟨k,wait,kept,stage⟩,rfl,member⟩
    · cases a with
      | stored j =>
        cases takes_stored there
        exact revoking_stored found stage member taken
      | groupsRead j groups =>
        cases takes_groupsRead there
        simp only [step] at taken
        rw [found] at taken
        cases wait with
        | revokeGroups origin targets => cases stage
        | _ => cases taken
      | storeFailed j =>
        cases takes_storeFailed there
        exact .inr (.inr ⟨k,wait,s,rfl,found,stage,rfl,member⟩)
      | _ => cases there
  · obtain ⟨n,c,found,stage⟩ := stands
    rcases (step_keeps ok taken).pending n c found with kept | settles
    · exact .inl ⟨s,.inr ⟨n,c,kept,stage⟩,rfl,member⟩
    · exact .inl (revoking_settled ok found stage member settles taken)

end
end FFWebHid.Callers
