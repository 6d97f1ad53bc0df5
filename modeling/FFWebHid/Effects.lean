import FFWebHid.Maps
import FFWebHid.Runs
import FFWebHid.StateOps
import FFWebHid.Background
import FFWebHid.Bookkeeping
import FFWebHid.LiveSessions

/-!
What one step of the background page does to the tokens. Most steps only send requests
and ask the store. The others are few: a cleanup settles, a close is accepted, an open
receives its token, and the second lookup of an open hands it on or loses it.
-/
namespace FFWebHid.Effects
open FFWebHid.Maps FFWebHid.Runs FFWebHid.StateOps FFWebHid.Background FFWebHid.Bookkeeping FFWebHid.LiveSessions

/-- The daemon confirmed the close. -/
def Confirmed (w : World) (d : DeviceId) (t : Token) : Prop := (d,t) ∈ w.confirmed

/-- Left for the next retry. -/
def Orphaned (w : World) (d : DeviceId) (t : Token) : Prop := w.state.orphanCleanup.lookup t = some d

/-- The device is the one that the token was issued for, if it was issued. -/
def Aimed (w : World) (d : DeviceId) (t : Token) : Prop := ∀ d', (d',t) ∈ w.issued → d' = d

/-- The sessions that a revocation has still to close are all of `P`. -/
def Remaining (P : DeviceId → Token → Prop) (rest : Option Revocation) : Prop :=
  ∀ rev, rest = some rev → ∀ t ∈ rev.tokens, P rev.deviceId t

section
variable {b : Browser} {w w' w'' : World} {d : DeviceId} {t : Token} {P : DeviceId → Token → Prop}

/-- Nothing is registered, dropped, filed or opened; the closes under way stay and the
    new ones are all of `P`. -/
structure Calm (P : DeviceId → Token → Prop) (w w' : World) : Prop where
  sessions : w'.state.deviceSessions = w.state.deviceSessions
  orphans : w'.state.orphanCleanup = w.state.orphanCleanup
  issued : w'.issued = w.issued
  confirmed : w'.confirmed = w.confirmed
  known : ∀ t, t ∈ w.known → t ∈ w'.known
  rechecks : ∀ k client d r, w'.store.lookup k = some (.openRecheck client d r) ↔
    w.store.lookup k = some (.openRecheck client d r)
  closings : ∀ n d t own rest, w.pending.lookup n = some (.cleaned d t own rest) →
    w'.pending.lookup n = some (.cleaned d t own rest)
  aimed : ∀ n d t own rest, w'.pending.lookup n = some (.cleaned d t own rest) →
    w.pending.lookup n = some (.cleaned d t own rest) ∨ P d t ∧ Remaining P rest
  counts : ∀ d tab, w'.state.opens d tab ≤ w.state.opens d tab

theorem Calm.refl (w : World) : Calm P w w :=
  ⟨rfl,rfl,rfl,rfl,fun _ known => known,fun _ _ _ _ => Iff.rfl,fun _ _ _ _ _ found => found,
    fun _ _ _ _ _ found => Or.inl found,fun _ _ => Nat.le_refl _⟩

theorem Calm.trans (first : Calm P w w') (second : Calm P w' w'') : Calm P w w'' where
  sessions := second.sessions.trans first.sessions
  orphans := second.orphans.trans first.orphans
  issued := second.issued.trans first.issued
  confirmed := second.confirmed.trans first.confirmed
  known t known := second.known t (first.known t known)
  rechecks k client d r := (second.rechecks k client d r).trans (first.rechecks k client d r)
  closings n d t own rest found := second.closings n d t own rest (first.closings n d t own rest found)
  aimed n d t own rest found := by
    rcases second.aimed n d t own rest found with before | aimed
    · exact first.aimed n d t own rest before
    · exact Or.inr aimed
  counts d tab := Nat.le_trans (second.counts d tab) (first.counts d tab)

theorem Calm.holds (calm : Calm P w w') (t : Token) : w'.holds t = w.holds t := by
  rw [Bool.eq_iff_iff]
  simp only [holds_iff,calm.rechecks]

/-- Bookkeeping of frames and counts. -/
theorem Calm.quiet {s : BgState} (sessions : s.deviceSessions = w.state.deviceSessions)
    (orphans : s.orphanCleanup = w.state.orphanCleanup) (counts : ∀ d tab, s.opens d tab ≤ w.state.opens d tab) :
    Calm P w { w with state := s } := { Calm.refl w with sessions, orphans, counts }

theorem Calm.sendFrame (ok : Sound b w) {c : Continuation}
    (aimed : ∀ d t own rest, c = .cleaned d t own rest → P d t ∧ Remaining P rest) : Calm P w (w.sendFrame c) where
  sessions := rfl
  orphans := rfl
  issued := rfl
  confirmed := rfl
  known _ known := known
  rechecks _ _ _ _ := Iff.rfl
  closings n d t own rest found := (pending_sendFrame ok).mpr (Or.inr ⟨ok.pendingFresh n _ found,found⟩)
  aimed n d t own rest found := by
    rcases (pending_sendFrame ok).mp found with ⟨_,same⟩ | ⟨_,before⟩
    · exact Or.inr (aimed d t own rest same.symm)
    · exact Or.inl before
  counts _ _ := Nat.le_refl _

theorem Calm.await (ok : Sound b w) {wait : StoreWait} (plain : ∀ client d r, wait ≠ .openRecheck client d r) :
    Calm P w (w.await wait) := by
  refine { Calm.refl w with rechecks := fun k client d r => ?_ }
  rw [store_await ok]
  constructor
  · rintro (⟨_,same⟩ | ⟨_,before⟩)
    · exact absurd same.symm (plain client d r)
    · exact before
  · exact fun found => Or.inr ⟨ok.storeFresh k _ found,found⟩

theorem Calm.closeForCleanup (ok : Sound b w) {rest : Option Revocation} (aimed : P d t)
    (remaining : Remaining P rest) : Calm P w (w.closeForCleanup d t rest) :=
  .sendFrame ok fun _ _ _ _ same => by cases same; exact ⟨aimed,remaining⟩

theorem Calm.closeAll {before : BgState → DeviceId × Token → BgState} (quiet : Quiet before)
    (keys : List (DeviceId × Token)) (ok : Sound b w) (told : ∀ key ∈ keys, Told w key.2)
    (aimed : ∀ key ∈ keys, P key.1 key.2) : Calm P w (w.closeAll before keys) := by
  induction keys generalizing w with
  | nil => exact .refl w
  | cons key rest ih =>
    have updated : Sound b { w with state := before w.state key } :=
      ok.withCounts (quiet.sessions _ key) (quiet.orphans _ key) (quiet.noZero _ key ok.noZero)
    have first : Calm P w (w.closeNext before key) := by
      refine Calm.trans (.quiet (quiet.sessions _ key) (quiet.orphans _ key) (quiet.counts _ key))
        (.closeForCleanup updated ?_ ?_)
      · exact aimed key List.mem_cons_self
      · intro rev none; cases none
    refine first.trans (ih (Sound.closeNext quiet ok (told key List.mem_cons_self)) ?_ ?_)
    · exact fun key' member => told key' (List.mem_cons_of_mem key member)
    · exact fun key' member => aimed key' (List.mem_cons_of_mem key member)

theorem Calm.revokeNext (ok : Sound b w) (origin : Origin) (call : RevokeCall) (devices : List DeviceId) :
    Calm P w (w.revokeNext origin call devices) := by
  cases devices <;> exact .await ok fun _ _ _ same => by cases same

theorem Calm.revokeTokens (ok : Sound b w) {rev : Revocation} (aimed : Remaining P (some rev)) :
    Calm P w (w.revokeTokens rev) := by
  obtain ⟨origin,d,tokens,devices,call⟩ := rev
  have all := aimed _ rfl
  cases tokens with
  | nil => exact .revokeNext ok origin call devices
  | cons t tokens =>
    have updated : Sound b { w with state := w.state.unregisterOwnerTab d t } :=
      ok.withCounts unregisterOwnerTab_sessions unregisterOwnerTab_orphanCleanup (noZero_unregisterOwnerTab ok.noZero)
    refine Calm.trans (.quiet unregisterOwnerTab_sessions unregisterOwnerTab_orphanCleanup
      fun _ _ => opens_unregisterOwnerTab_le) (.closeForCleanup updated (all t List.mem_cons_self) fun rev same t' member => ?_)
    cases same
    exact all t' (List.mem_cons_of_mem t member)

/-- A registered session has its token's device. -/
theorem aimed_of_registered (ok : Sound b w) {o : Owner} (registered : ownerOf w d t = some o) : Aimed w d t :=
  fun d' issued => ok.oneDevice d' d t issued (ok.sessions d t o registered).1

/-- A request that is no cleanup is settled. -/
theorem Calm.forget {n : Nat} {c : Continuation} (waiting : w.pending.lookup n = some c)
    (plain : ∀ d t own rest, c ≠ .cleaned d t own rest) {f : HashMap Nat NmRequest} :
    Calm P w { w with pending := w.pending.erase n, inFlight := f } := by
  refine { (Calm.refl w : Calm P w w) with closings := fun n' d t own rest found => ?_, aimed := fun n' d t own rest found => Or.inl ?_ }
  · rw [lookup_erase_eq,if_neg]
    · exact found
    · rintro rfl
      exact plain d t own rest (Option.some.inj (waiting.symm.trans found))
  · rw [lookup_erase_eq] at found
    by_cases same : n' = n
    · rw [if_pos same] at found; cases found
    · rw [if_neg same] at found; exact found

/-- A store transaction ends for which no token waits. -/
theorem Calm.forgetStore {k : Nat} {wait : StoreWait} (found : w.store.lookup k = some wait)
    (plain : ∀ client d r, wait ≠ .openRecheck client d r) : Calm P w { w with store := w.store.erase k } := by
  refine { Calm.refl w with rechecks := fun k' client d r => ?_ }
  rw [lookup_erase_eq]
  by_cases same : k' = k
  · rw [if_pos same]
    refine ⟨fun none => (by cases none),fun here => ?_⟩
    subst same
    exact absurd (Option.some.inj (found.symm.trans here)) (plain client d r)
  · rw [if_neg same]

/-- A purge closes sessions of its own. -/
theorem Calm.purge {s : BgState} (ok : Sound b { w with state := s })
    (sessions : s.deviceSessions = w.state.deviceSessions) (orphans : s.orphanCleanup = w.state.orphanCleanup)
    (counts : ∀ d tab, s.opens d tab ≤ w.state.opens d tab) {before : BgState → DeviceId × Token → BgState}
    (quiet : Quiet before) (test : DeviceId → Owner → Bool)
    (aimed : ∀ d t o, ownerOf w d t = some o → P d t) :
    Calm P w ({ w with state := s }.closeAll before (s.collectDeviceSessions test)) := by
  refine (Calm.quiet sessions orphans counts).trans (.closeAll quiet _ ok (fun key member => ok.collected member) ?_)
  intro key member
  obtain ⟨o,registered,_⟩ := mem_collectDeviceSessions.mp member
  rw [sessions] at registered
  exact aimed key.1 key.2 o registered

/-! ### All steps -/

theorem retainOrphanCleanup_lookup {s : BgState} {own : Option Owner} (t' : Token) :
    (s.retainOrphanCleanup d t own).orphanCleanup.lookup t' =
      if t' = t ∧ s.orphanCleanup.lookup t = none then some d else s.orphanCleanup.lookup t' := by
  show AList.lookup t' (if t ∈ s.orphanCleanup then s.orphanCleanup else s.orphanCleanup.insert t d) = _
  by_cases known : t ∈ s.orphanCleanup
  · have some : s.orphanCleanup.lookup t ≠ none := fun none => AList.lookup_eq_none.mp none known
    rw [if_pos known,if_neg fun both => some both.2]
  · rw [if_neg known,lookup_insert_eq]
    simp only [AList.lookup_eq_none.mpr known,and_true]

/-- The sessions that are registered, left for retry or being closed are all of `P`. -/
structure Aims (P : DeviceId → Token → Prop) (w : World) : Prop where
  sessions : ∀ d t o, ownerOf w d t = some o → P d t
  orphans : ∀ d t, Orphaned w d t → P d t
  closings : ∀ n d t own rest, w.pending.lookup n = some (.cleaned d t own rest) → P d t ∧ Remaining P rest

/-- The world in which the daemon has opened the session. -/
def opened (w : World) (d : DeviceId) (t : Token) : World :=
  { w with issued := (d,t) :: w.issued, known := t :: w.known }

/-- What a step does to the tokens. -/
inductive Effect (P : DeviceId → Token → Prop) (b : Browser) (w : World) (a : Action) (w' : World) : Prop
  | calm (calm : Calm P w w')
  | settled (n : Nat) (d : DeviceId) (t : Token) (own : Option Owner) (rest : Option Revocation)
    (f : HashMap Nat NmRequest) (gone : Bool) (waiting : w.pending.lookup n = some (.cleaned d t own rest))
    (action : (∃ r, a = .answer n r ∧ gone = isCleanupConfirmed r.s) ∨ a = .timeout n ∧ gone = false)
    (calm : Calm P ({ w with pending := w.pending.erase n, inFlight := f }.cleanupDone d t own gone) w')
  | accepted (n : Nat) (client : Client) (d : DeviceId) (t : Token) (r : NmResponse)
    (waiting : w.pending.lookup n = some (.closed client d t)) (action : a = .answer n r) (fine : isOk r.s = true)
    (nonempty : t ≠ "") (result : w' = { w with pending := w.pending.erase n, inFlight := w.inFlight.erase n
      }.closeAnswered b client d t r)
  | received (n : Nat) (client : Client) (d : DeviceId) (r : NmResponse)
    (waiting : w.pending.lookup n = some (.opened client d)) (action : a = .answer n r) (fine : isOk r.s = true)
    (nonzero : d ≠ 0) (fresh : r.t ∉ w.known) (nonempty : r.t ≠ "")
    (result : w' = (opened { w with pending := w.pending.erase n, inFlight := w.inFlight.erase n } d r.t).await
      (.openRecheck client d r))
  | dropped (n : Nat) (d : DeviceId) (r : NmResponse) (flying : w.inFlight.lookup n = some (.openDevice d))
    (action : a = .answer n r) (fine : isOk r.s = true) (nobody : w.pending.lookup n = none ∨ d = 0)
    (fresh : r.t ∉ w.known) (nonempty : r.t ≠ "")
    (calm : Calm P w { w with pending := w.pending.erase n, inFlight := w.inFlight.erase n })
    (result : w' = opened { w with pending := w.pending.erase n, inFlight := w.inFlight.erase n } d r.t)
  | rechecked (k : Nat) (client : Client) (d : DeviceId) (r : NmResponse) (action : a = .stored k)
    (held : w.store.lookup k = some (.openRecheck client d r))
    (result : w' = { w with store := w.store.erase k }.openRechecked b client d r k)
  | lost (k : Nat) (client : Client) (d : DeviceId) (r : NmResponse) (action : a = .storeFailed k)
    (held : w.store.lookup k = some (.openRecheck client d r)) (result : w' = { w with store := w.store.erase k })

/-- What the answer to a successful open carries. -/
theorem mayAnswer_open {r : NmResponse} (fine : isOk r.s = true) (may : w.mayAnswer r (.openDevice d) = true) :
    r.i = d ∧ r.t ≠ "" ∧ r.t ∉ w.known := by
  simpa [World.mayAnswer,fine,and_assoc] using may

/-- A cleanup settles, and the revocation that awaits it goes on. -/
theorem Effect.ofSettled (ok : Sound b w) (aims : Aims P w) {a : Action} {n : Nat} {own : Option Owner}
    {rest : Option Revocation} {f : HashMap Nat NmRequest} {gone : Bool}
    (waiting : w.pending.lookup n = some (.cleaned d t own rest))
    (landed : Sound b { w with pending := w.pending.erase n, inFlight := f })
    (action : (∃ r, a = .answer n r ∧ gone = isCleanupConfirmed r.s) ∨ a = .timeout n ∧ gone = false) :
    Effect P b w a ({ w with pending := w.pending.erase n, inFlight := f }.cleanupSettled d t own rest gone) := by
  refine .settled n d t own rest f gone waiting action ?_
  obtain ⟨told,here,_⟩ := ok.continuations n _ waiting
  cases rest with
  | none => exact .refl _
  | some rev => exact .revokeTokens (landed.cleanupDone told here gone) (aims.closings n d t own (some rev) waiting).2

/-- The daemon answers a request. -/
theorem Effect.ofAnswer (ok : Sound b w) (aims : Aims P w) {n : Nat} {r : NmResponse}
    (taken : step b w (.answer n r) = some w') : Effect P b w (.answer n r) w' := by
  simp only [step] at taken
  cases flying : w.inFlight.lookup n with
  | none => rw [flying] at taken; cases taken
  | some q =>
    rw [flying] at taken
    dsimp only at taken
    split_ifs at taken with may
    have landed := ok.forgetFlight n
    cases waiting : w.pending.lookup n with
    | none =>
      rw [waiting] at taken
      cases taken
      have idle : w.pending.erase n = w.pending := AList.ext (List.kerase_of_notMem_keys (AList.lookup_eq_none.mp waiting))
      have quiet : Calm P w { w with inFlight := w.inFlight.erase n, pending := w.pending.erase n } := by
        rw [idle]
        exact { Calm.refl w with sessions := rfl }
      cases q with
      | openDevice d =>
        by_cases fine : isOk r.s = true
        · obtain ⟨_,nonempty,fresh⟩ := mayAnswer_open fine may
          refine .dropped n d r flying rfl fine (Or.inl waiting) fresh nonempty quiet ?_
          simp only [World.record,if_pos fine,opened]
        · simp only [World.record,if_neg fine]
          exact .calm quiet
      | _ => exact .calm quiet
    | some c =>
      rw [waiting] at taken
      cases Option.some.inj ((ok.awaited n c waiting).symm.trans flying)
      cases taken
      cases c with
      | opened client d =>
        have quiet : Calm P w { w with inFlight := w.inFlight.erase n, pending := w.pending.erase n } :=
          .forget waiting fun _ _ _ _ same => by cases same
        simp only [Continuation.request,World.record,World.resolve,World.openAnswered]
        by_cases fine : isOk r.s = true
        · obtain ⟨device,nonempty,fresh⟩ := mayAnswer_open fine may
          rw [if_pos fine]
          by_cases zero : d = 0
          · rw [if_neg fun both => both.2 (device.trans zero)]
            exact .dropped n d r flying rfl fine (Or.inr zero) fresh nonempty quiet rfl
          · rw [if_pos ⟨fine,device.symm ▸ zero⟩]
            exact .received n client d r waiting rfl fine zero fresh nonempty rfl
        · rw [if_neg fine,if_neg fun both => fine both.1]
          exact .calm quiet
      | cleaned d t own rest => exact .ofSettled ok aims waiting landed (Or.inl ⟨r,rfl,rfl⟩)
      | closed client d t =>
        by_cases fine : isOk r.s = true
        · have nonempty : t ≠ "" := by simpa [Continuation.request,World.mayAnswer,fine] using may
          exact .accepted n client d t r waiting rfl fine nonempty rfl
        · have quiet : Calm P w { w with inFlight := w.inFlight.erase n, pending := w.pending.erase n } :=
            .forget waiting fun _ _ _ _ same => by cases same
          simp only [Continuation.request,World.record,World.resolve,World.closeAnswered,if_neg fine]
          exact .calm quiet
      | reported client op d => exact .calm (.forget waiting fun _ _ _ _ same => by cases same)

theorem step_effect (ok : Sound b w) (aims : Aims P w) {a : Action} (asked : ∀ d t, a = .cleanupSession d t → P d t)
    (taken : step b w a = some w') : Effect P b w a w' := by
  cases a with
  | openRequest client d =>
    cases taken
    unfold World.handleOpen
    split
    · exact .calm (.refl w)
    · next s registered =>
      obtain ⟨tabs,sessions,orphans⟩ := registerFrameLifetime_quiet registered
      have noZero : s.NoZero := fun key => by rw [tabs]; exact ok.noZero key
      exact .calm ((Calm.quiet sessions orphans fun d tab => by rw [BgState.opens,BgState.opens,tabs]).trans
        (.await (ok.withCounts sessions orphans noZero) fun _ _ _ same => by cases same))
  | closeRequest client d t =>
    cases taken
    unfold World.handleClose
    split_ifs
    · exact .calm (.sendFrame ok fun _ _ _ _ same => by cases same)
    · exact .calm (.refl w)
  | cleanupSession d t =>
    simp only [step] at taken
    split_ifs at taken with held
    cases taken
    have named : Calm P w { w with known := t :: w.known } :=
      { Calm.refl w with known := fun _ known => List.mem_cons_of_mem t known }
    exact .calm (named.trans (.closeForCleanup (ok.name t) (asked d t rfl) fun rev none => by cases none))
  | frameDestroyed frame =>
    cases taken
    have retired : Sound b { w with state := w.state.retireFrameLifetime (b.tabOf frame.bridgeInstanceId) frame } :=
      ok.withCounts rfl rfl ok.noZero
    exact .calm (.purge retired rfl rfl (fun _ _ => Nat.le_refl _) (quiet_unregisterDeviceTab _) _ aims.sessions)
  | bridgeGone bridge =>
    cases taken
    have retired : Sound b { w with state := w.state.retireBridgeFrames (b.tabOf bridge) bridge } :=
      ok.withCounts rfl rfl ok.noZero
    exact .calm (.purge retired rfl rfl (fun _ _ => Nat.le_refl _) (quiet_unregisterDeviceTab _) _ aims.sessions)
  | tabRemoved tab =>
    cases taken
    have forgotten : Sound b { w with state := (w.state.forgetTabDevices tab).forgetTabFrames tab } :=
      ok.withCounts rfl rfl (noZero_forgetTabDevices ok.noZero)
    exact .calm (.purge forgotten rfl rfl (fun _ _ => opens_forgetTabDevices_le) quiet_id _ aims.sessions)
  | revokeRequest origin targets =>
    cases taken
    unfold World.handleRevokeDevice
    split_ifs
    · exact .calm (.refl w)
    · exact .calm (.await ok fun _ _ _ same => by cases same)
  | retryOrphans =>
    cases taken
    exact .calm (.closeAll quiet_id _ ok
      (fun key member => (ok.orphans key.2 key.1 (mem_orphanKeys.mp member)).1)
      fun key member => aims.orphans key.1 key.2 (mem_orphanKeys.mp member))
  | pair origin d => cases taken; exact .calm { Calm.refl w with sessions := rfl }
  | report client op d =>
    cases taken
    unfold World.handleReport
    split_ifs
    · exact .calm (.sendFrame ok fun _ _ _ _ same => by cases same)
    · exact .calm (.refl w)
  | answer n r => exact .ofAnswer ok aims taken
  | timeout n =>
    simp only [step] at taken
    cases waiting : w.pending.lookup n with
    | none => rw [waiting] at taken; cases taken
    | some c =>
      rw [waiting] at taken
      cases taken
      cases c with
      | cleaned d t own rest =>
        exact .ofSettled (f := w.inFlight) ok aims waiting (ok.forgetPending n) (Or.inr ⟨rfl,rfl⟩)
      | _ => exact .calm (.forget (f := w.inFlight) waiting fun _ _ _ _ same => by cases same)
  | stored k =>
    obtain ⟨wait,found,ran⟩ := Option.bind_eq_some_iff.mp taken
    cases wait with
    | openLookup client d =>
      cases ran
      have freed : Calm P w { w with store := w.store.erase k } := .forgetStore found fun _ _ _ same => by cases same
      unfold World.openLookedUp
      split_ifs
      · exact .calm (freed.trans (.sendFrame (ok.forgetStore k) fun _ _ _ _ same => by cases same))
      · exact .calm freed
    | openRecheck client d r => cases ran; exact .rechecked k client d r rfl found rfl
    | revokeGroups origin targets => cases ran
    | revokeRemove origin d rest call =>
      cases ran
      have freed : Calm P w { w with store := w.store.erase k } := .forgetStore found fun _ _ _ same => by cases same
      have removed : Calm P w { w with store := w.store.erase k, allowed := w.allowed.erase (origin,d) } :=
        { freed with sessions := freed.sessions }
      refine .calm (removed.trans (.revokeTokens ((ok.forgetStore k).withAllowed _) fun rev same t member => ?_))
      cases same
      obtain ⟨⟨d',t'⟩,collected,rfl⟩ := List.mem_map.mp member
      obtain ⟨rfl,o,registered,_⟩ := mem_collectDeviceSessionsForOrigin.mp collected
      exact aims.sessions d' t' o registered
    | revokeFinish origin call =>
      cases ran
      exact .calm (Calm.forgetStore found fun _ _ _ same => by cases same)
  | groupsRead k groups =>
    simp only [step] at taken
    split at taken
    · next origin targets found =>
      cases taken
      have freed : Calm P w { w with store := w.store.erase k } := .forgetStore found fun _ _ _ same => by cases same
      exact .calm (freed.trans (.revokeNext (ok.forgetStore k) _ _ _))
    · cases taken
  | storeFailed k =>
    simp only [step] at taken
    split at taken
    · cases taken
    · cases taken
    · next wait plain found =>
      cases taken
      cases wait with
      | openRecheck client d r => exact .lost k client d r rfl found rfl
      | _ => exact .calm (.forgetStore found fun _ _ _ same => by cases same)

section
variable {n : Nat} {own : Option Owner} {f : HashMap Nat NmRequest} {gone : Bool} {d' : DeviceId} {t' : Token}

/-- The world in which the cleanup has settled. -/
abbrev cleaned (w : World) (n : Nat) (f : HashMap Nat NmRequest) (d : DeviceId) (t : Token) (own : Option Owner)
    (gone : Bool) : World := { w with pending := w.pending.erase n, inFlight := f }.cleanupDone d t own gone

theorem cleaned_pending : (cleaned w n f d t own gone).pending = w.pending.erase n := by cases gone <;> rfl

theorem cleaned_issued : (cleaned w n f d t own gone).issued = w.issued := by cases gone <;> rfl

theorem cleaned_known : (cleaned w n f d t own gone).known = w.known := by cases gone <;> rfl

theorem cleaned_store : (cleaned w n f d t own gone).store = w.store := by cases gone <;> rfl

theorem cleaned_owner : ownerOf (cleaned w n f d t own gone) d' t' =
    (w.state.dropOwned d t own).deviceSessions.lookup (d',t') := by cases gone <;> rfl

theorem cleaned_confirmed : Confirmed (cleaned w n f d t own gone) d' t' ↔
    gone = true ∧ (d',t') = (d,t) ∨ Confirmed w d' t' := by
  cases gone <;> simp [Confirmed,cleaned,World.cleanupDone]

theorem cleaned_orphan (t' : Token) : (cleaned w n f d t own gone).state.orphanCleanup.lookup t' =
    if t' = t ∧ gone = true then none
    else if t' = t ∧ w.state.orphanCleanup.lookup t = none then some d else w.state.orphanCleanup.lookup t' := by
  cases gone with
  | true =>
    simp only [cleaned,World.cleanupDone,if_true,BgState.confirmCleanup,lookup_erase_eq,and_true]
    by_cases same : t' = t
    · rw [if_pos same,if_pos same]
    · rw [if_neg same,if_neg same,if_neg fun both => same both.1]; rfl
  | false =>
    simp only [cleaned,World.cleanupDone,Bool.false_eq_true,if_false,and_false]
    exact retainOrphanCleanup_lookup t'

end

/-- The session was closed at the daemon, or its token is left for retry. -/
def Filed (w : World) (d : DeviceId) (t : Token) : Prop := Confirmed w d t ∨ Orphaned w d t

theorem Calm.owner (calm : Calm P w w') : ownerOf w' d t = ownerOf w d t := by rw [ownerOf,ownerOf,calm.sessions]

theorem Calm.filed (calm : Calm P w w') : Filed w' d t ↔ Filed w d t := by
  rw [Filed,Filed,Confirmed,Confirmed,Orphaned,Orphaned,calm.confirmed,calm.orphans]

theorem Calm.later (calm : Calm P w w') : Later w w' :=
  ⟨fun t told => ⟨calm.known t told.1,(calm.holds t).trans told.2⟩,fun _ _ _ => Or.inl calm.owner⟩

theorem Later.trans {w'' : World} (first : Later w w') (second : Later w' w'') : Later w w'' := by
  refine ⟨fun t told => second.told t (first.told t told),fun d t told => ?_⟩
  rcases second.sessions d t (first.told t told) with same | none
  · rw [same]; exact first.sessions d t told
  · exact Or.inr none

theorem later_opened (ok : Sound b w) {client : Client} {r : NmResponse} (fresh : r.t ∉ w.known) :
    Later w ((opened w d r.t).await (.openRecheck client d r)) := by
  refine ⟨fun t told => ⟨List.mem_cons_of_mem r.t told.1,Bool.eq_false_of_not_eq_true fun held => ?_⟩,fun _ _ _ => Or.inl rfl⟩
  have named : Sound b { w with known := r.t :: w.known } := ok.name r.t
  obtain ⟨k,client',d'',r',found,same⟩ := holds_iff.mp held
  rcases (store_await named).mp found with ⟨_,new⟩ | ⟨_,before⟩
  · cases new
    exact fresh (same ▸ told.1)
  · have before : w.holds t = true := holds_iff.mpr ⟨k,client',d'',r',before,same⟩
    rw [told.2] at before; cases before

/-- Told tokens stay told, and their sessions are at most dropped. -/
theorem Effect.later (ok : Sound b w) {a : Action} (effect : Effect P b w a w') : Later w w' := by
  cases effect with
  | calm calm => exact calm.later
  | settled n d t own rest f gone waiting action calm =>
    exact Later.trans (.of_same cleaned_known cleaned_store fun d' t' =>
      cleaned_owner ▸ dropOwned_sessions w.state own (d',t')) calm.later
  | accepted n client d t r waiting action fine nonempty result =>
    subst result
    simp only [World.closeAnswered,if_pos fine,if_neg nonempty]
    refine .of_same rfl rfl fun d' t' => ?_
    show AList.lookup (d',t') (w.state.deviceSessions.erase (d,t)) = _ ∨ AList.lookup (d',t') (w.state.deviceSessions.erase (d,t)) = none
    rw [lookup_erase_eq]
    by_cases same : (d',t') = (d,t)
    · exact Or.inr (if_pos same)
    · exact Or.inl (if_neg same)
  | received n client d r waiting action fine nonzero fresh nonempty result =>
    have waits : Later w { w with pending := w.pending.erase n, inFlight := w.inFlight.erase n } :=
      .of_same rfl rfl fun _ _ => Or.inl rfl
    subst result
    exact Later.trans waits (later_opened (ok.forgetFlight n) fresh)
  | dropped n d r flying action fine nobody fresh nonempty calm result =>
    subst result
    exact ⟨fun t told => ⟨List.mem_cons_of_mem r.t told.1,told.2⟩,fun _ _ _ => Or.inl rfl⟩
  | rechecked k client d r action held result =>
    subst result
    have freed := Later.forgetStore w k
    refine ⟨fun t told => ?_,fun d' t' told => ?_⟩
    · rcases openRechecked_cases ok held rfl with ⟨_,_,_,_,same⟩ | ⟨_,same⟩ <;> rw [same] <;> exact freed.told t told
    · rcases openRechecked_cases ok held rfl with ⟨_,_,_,_,same⟩ | ⟨_,same⟩ <;> rw [same]
      · refine Or.inl ((lookup_insert_eq _ _ _ _).trans (if_neg fun pair => ?_))
        exact held_untold held ((Prod.mk.inj pair).2 ▸ told)
      · exact Or.inl rfl
  | lost k client d r action held result => exact result ▸ Later.forgetStore w k

/-- A session that a step adds was registered by the second lookup of its open. -/
theorem Effect.registered (ok : Sound b w) {a : Action} (effect : Effect P b w a w') {o : Owner}
    (here : ownerOf w' d t = some o) : ownerOf w d t = some o ∨ ∃ k client, Registers b w a k client d t o := by
  by_cases told : Told w t
  · rcases (effect.later ok).sessions d t told with same | none
    · exact Or.inl (same ▸ here)
    · rw [none] at here; cases here
  · cases effect with
    | calm calm => exact Or.inl (calm.owner ▸ here)
    | settled n d' t' own rest f gone waiting action calm =>
      rw [calm.owner,cleaned_owner] at here
      rcases dropOwned_sessions (d := d') (t := t') w.state own (d,t) with same | none
      · exact Or.inl (same.symm.trans here)
      · rw [none] at here; cases here
    | accepted n client d' t' r waiting action fine nonempty result =>
      subst result
      simp only [World.closeAnswered,if_pos fine,if_neg nonempty] at here
      replace here := (lookup_erase_eq _ _ _).symm.trans here
      split_ifs at here
      exact Or.inl here
    | received n client d' r waiting action fine nonzero fresh nonempty result =>
      subst result
      exact Or.inl here
    | dropped n d' r flying action fine nobody fresh nonempty calm result =>
      subst result
      exact Or.inl here
    | rechecked k client d' r action held result =>
      subst result
      rcases openRechecked_cases ok held rfl with ⟨allowed,active,nonzero,origin,same⟩ | ⟨_,same⟩ <;> rw [same] at here
      · replace here := (lookup_insert_eq _ _ _ _).symm.trans here
        by_cases new : (d,t) = (d',r.t)
        · rw [if_pos new] at here
          cases new
          exact Or.inr ⟨k,client,action,⟨r,held,rfl⟩,(Option.some.inj here).symm,allowed,active,nonzero,origin⟩
        · rw [if_neg new] at here
          exact Or.inl here
      · exact Or.inl here
    | lost k client d' r action held result =>
      subst result
      exact Or.inl here

/-- A session that is no longer registered is filed, and stays filed. -/
theorem Effect.filed (ok : Sound b w) (aims : Aims (Aimed w) w) {a : Action} (effect : Effect P b w a w') (issued : (d,t) ∈ w.issued)
    {o : Owner} (here : ownerOf w d t = some o ∨ Filed w d t) : ownerOf w' d t = some o ∨ Filed w' d t := by
  cases effect with
  | calm calm => rw [calm.owner,calm.filed]; exact here
  | settled n d' t' own rest f gone waiting action calm =>
    rw [calm.owner,calm.filed,Filed,cleaned_confirmed,cleaned_owner,Orphaned,cleaned_orphan]
    have aimed := (aims.closings n d' t' own rest waiting).1
    by_cases token : t = t'
    · subst token
      cases aimed d issued
      -- Its own cleanup: confirmed, or left for retry under its own device.
      cases gone with
      | true => exact Or.inr (Or.inl (Or.inl ⟨rfl,rfl⟩))
      | false =>
        refine Or.inr (Or.inr ?_)
        rw [if_neg fun both => Bool.false_ne_true both.2]
        cases before : w.state.orphanCleanup.lookup t with
        | none => rw [if_pos ⟨rfl,rfl⟩]
        | some d' =>
          rw [if_neg fun both => Option.some_ne_none d' both.2,aims.orphans d' t before d issued]
    · have other : (d,t) ≠ (d',t') := fun pair => token (Prod.mk.inj pair).2
      rw [if_neg fun both => token both.1,if_neg fun both => token both.1,lookup_dropOwned,if_neg fun both => other both.1]
      rcases here with registered | confirmed | orphaned
      · exact Or.inl registered
      · exact Or.inr (Or.inl (Or.inr confirmed))
      · exact Or.inr (Or.inr orphaned)
  | accepted n client d' t' r waiting action fine nonempty result =>
    subst result
    simp only [World.closeAnswered,if_pos fine,if_neg nonempty]
    by_cases same : (d,t) = (d',t')
    · exact Or.inr (Or.inl (same ▸ List.mem_cons_self))
    · rcases here with registered | confirmed | orphaned
      · exact Or.inl ((lookup_erase_eq _ _ _).trans ((if_neg same).trans registered))
      · exact Or.inr (Or.inl (List.mem_cons_of_mem _ confirmed))
      · exact Or.inr (Or.inr orphaned)
  | received n client d' r waiting action fine nonzero fresh nonempty result => exact result ▸ here
  | dropped n d' r flying action fine nobody fresh nonempty calm result => exact result ▸ here
  | rechecked k client d' r action held result =>
    subst result
    rcases openRechecked_cases ok held rfl with ⟨_,_,_,_,same⟩ | ⟨_,same⟩ <;> rw [same]
    · rcases here with registered | filed
      · refine Or.inl ((lookup_insert_eq _ _ _ _).trans ((if_neg fun pair => ?_).trans registered))
        exact held_untold held ((Prod.mk.inj pair).2 ▸ (ok.sessions d t o registered).2.1)
      · exact Or.inr filed
    · exact here
  | lost k client d' r action held result => exact result ▸ here

theorem Effect.issued (ok : Sound b w) {a : Action} (effect : Effect P b w a w') {key : DeviceId × Token}
    (member : key ∈ w.issued) : key ∈ w'.issued := by
  cases effect with
  | calm calm => exact calm.issued ▸ member
  | settled n d t own rest f gone waiting action calm => rw [calm.issued,cleaned_issued]; exact member
  | accepted n client d t r waiting action fine nonempty result =>
    subst result
    simp only [World.closeAnswered,if_pos fine]
    exact member
  | received n client d r waiting action fine nonzero fresh nonempty result =>
    subst result
    exact List.mem_cons_of_mem _ member
  | dropped n d r flying action fine nobody fresh nonempty calm result =>
    subst result
    exact List.mem_cons_of_mem _ member
  | rechecked k client d r action held result =>
    subst result
    rcases openRechecked_cases ok held rfl with ⟨_,_,_,_,same⟩ | ⟨_,same⟩ <;> rw [same] <;> exact member
  | lost k client d r action held result => subst result; exact member

theorem Effect.known (ok : Sound b w) {a : Action} (effect : Effect P b w a w') (member : t ∈ w.known) : t ∈ w'.known := by
  cases effect with
  | calm calm => exact calm.known t member
  | settled n d t' own rest f gone waiting action calm => exact calm.known t (cleaned_known.symm ▸ member)
  | accepted n client d t' r waiting action fine nonempty result =>
    subst result
    simp only [World.closeAnswered,if_pos fine]
    exact member
  | received n client d r waiting action fine nonzero fresh nonempty result =>
    subst result
    exact List.mem_cons_of_mem _ member
  | dropped n d r flying action fine nobody fresh nonempty calm result =>
    subst result
    exact List.mem_cons_of_mem _ member
  | rechecked k client d r action held result =>
    subst result
    rcases openRechecked_cases ok held rfl with ⟨_,_,_,_,same⟩ | ⟨_,same⟩ <;> rw [same] <;> exact member
  | lost k client d r action held result => subst result; exact member

/-- An open that comes to its second lookup has a new token. -/
theorem Effect.rechecks (ok : Sound b w) {a : Action} (effect : Effect P b w a w') {k : Nat} {client : Client}
    {r : NmResponse} (held : w'.store.lookup k = some (.openRecheck client d r)) :
    w.store.lookup k = some (.openRecheck client d r) ∨ r.t ∉ w.known := by
  have freed {k' : Nat} (found : (w.store.erase k').lookup k = some (.openRecheck client d r)) :
      w.store.lookup k = some (.openRecheck client d r) := by
    rw [lookup_erase_eq] at found
    split_ifs at found
    exact found
  cases effect with
  | calm calm => exact Or.inl ((calm.rechecks k client d r).mp held)
  | settled n d' t' own rest f gone waiting action calm =>
    exact Or.inl (cleaned_store ▸ (calm.rechecks k client d r).mp held)
  | accepted n client' d' t' r' waiting action fine nonempty result =>
    subst result
    simp only [World.closeAnswered,if_pos fine] at held
    exact Or.inl held
  | received n client' d' r' waiting action fine nonzero fresh nonempty result =>
    subst result
    rw [World.await,lookup_insert_eq] at held
    split_ifs at held
    · cases held; exact Or.inr fresh
    · exact Or.inl held
  | dropped n d' r' flying action fine nobody fresh nonempty calm result => subst result; exact Or.inl held
  | rechecked k' client' d' r' action found result =>
    subst result
    rcases openRechecked_cases ok found rfl with ⟨_,_,_,_,same⟩ | ⟨_,same⟩ <;> rw [same] at held <;> exact Or.inl (freed held)
  | lost k' client' d' r' action found result => subst result; exact Or.inl (freed held)

/-- Only an open whose second lookup finds the grant and an active frame is counted. -/
theorem Effect.counts (ok : Sound b w) {a : Action} (effect : Effect P b w a w') {tab : TabId}
    (more : w.state.opens d tab < w'.state.opens d tab) :
    ∃ k client r, a = .stored k ∧ w.store.lookup k = some (.openRecheck client d r) ∧
      b.tab client = tab ∧ w.state.isFrameLifetimeActive (b.tab client) client.frame = true := by
  cases effect with
  | calm calm => exact absurd more (Nat.not_lt.mpr (calm.counts d tab))
  | settled n d' t' own rest f gone waiting action calm =>
    have same : (cleaned w n f d' t' own gone).state.opens d tab = w.state.opens d tab := by cases gone <;> rfl
    exact absurd more (Nat.not_lt.mpr (same ▸ calm.counts d tab))
  | accepted n client d' t' r waiting action fine nonempty result =>
    subst result
    simp only [World.closeAnswered,if_pos fine,if_neg nonempty] at more
    have fewer : (w.state.unregisterDeviceTab d' (b.tab client)).opens d tab ≤ w.state.opens d tab :=
      opens_unregisterDeviceTab_le
    exact absurd more (Nat.not_lt.mpr fewer)
  | received n client d' r waiting action fine nonzero fresh nonempty result =>
    subst result
    exact absurd more (Nat.lt_irrefl _)
  | dropped n d' r flying action fine nobody fresh nonempty calm result =>
    subst result
    exact absurd more (Nat.lt_irrefl _)
  | rechecked k client d' r action held result =>
    subst result
    rcases openRechecked_cases ok held rfl with ⟨_,active,nonzero,_,same⟩ | ⟨_,same⟩ <;> rw [same] at more
    · have counted := more.trans_eq (opens_registerDeviceTab nonzero)
      by_cases here : d = d' ∧ tab = b.tab client
      · obtain ⟨rfl,rfl⟩ := here
        exact ⟨k,client,r,action,held,rfl,active⟩
      · rw [if_neg here] at counted
        exact absurd counted (Nat.lt_irrefl _)
    · exact absurd more (Nat.lt_irrefl _)
  | lost k client d' r action held result =>
    subst result
    exact absurd more (Nat.lt_irrefl _)

theorem Aimed.of_issued (issued : w'.issued = w.issued) (aimed : Aimed w d t) : Aimed w' d t := by
  rw [Aimed,issued]; exact aimed

theorem Aims.of_issued (issued : w'.issued = w.issued) (aims : Aims (Aimed w) w') : Aims (Aimed w') w' := by
  refine ⟨fun d t o registered => .of_issued issued (aims.sessions d t o registered),
    fun d t orphaned => .of_issued issued (aims.orphans d t orphaned),fun n d t own rest found => ?_⟩
  obtain ⟨here,remaining⟩ := aims.closings n d t own rest found
  exact ⟨.of_issued issued here,fun rev same t member => .of_issued issued (remaining rev same t member)⟩

/-- Only sessions of `P` are added anywhere. -/
theorem Aims.of_same (aims : Aims P w) (sessions : ∀ d t o, ownerOf w' d t = some o → ownerOf w d t = some o ∨ P d t)
    (orphans : ∀ d t, Orphaned w' d t → Orphaned w d t ∨ P d t)
    (closings : ∀ n d t own rest, w'.pending.lookup n = some (.cleaned d t own rest) →
      w.pending.lookup n = some (.cleaned d t own rest) ∨ P d t ∧ Remaining P rest) : Aims P w' := by
  refine ⟨fun d t o registered => ?_,fun d t orphaned => ?_,fun n d t own rest found => ?_⟩
  · exact (sessions d t o registered).elim (aims.sessions d t o) id
  · exact (orphans d t orphaned).elim (aims.orphans d t) id
  · exact (closings n d t own rest found).elim (aims.closings n d t own rest) id

theorem Aims.calm (aims : Aims P w) (calm : Calm P w w') : Aims P w' :=
  aims.of_same (fun _ _ _ registered => Or.inl (calm.owner ▸ registered))
    (fun _ _ orphaned => Or.inl (by rw [Orphaned,← calm.orphans]; exact orphaned)) calm.aimed

/-- A session of an unknown token is opened: nothing under way names the token. -/
theorem Aims.opened (ok : Sound b w) (aims : Aims (Aimed w) w) (fresh : t ∉ w.known) :
    Aims (Aimed (opened w d t)) (opened w d t) := by
  have aimed {d' : DeviceId} {t' : Token} (told : Told w t') (here : Aimed w d' t') : Aimed (Effects.opened w d t) d' t' := by
    intro d'' member
    rcases List.mem_cons.mp member with same | before
    · cases same; exact absurd told.1 fresh
    · exact here d'' before
  refine ⟨fun d' t' o registered => aimed (ok.sessions d' t' o registered).2.1 (aims.sessions d' t' o registered),
    fun d' t' orphaned => aimed (ok.orphans t' d' orphaned).1 (aims.orphans d' t' orphaned),
    fun n d' t' own rest found => ?_⟩
  obtain ⟨told,_,revocation⟩ := ok.continuations n _ found
  obtain ⟨here,remaining⟩ := aims.closings n d' t' own rest found
  exact ⟨aimed told here,fun rev same t'' member => aimed (revocation rev same t'' member).1 (remaining rev same t'' member)⟩

/-- Nothing is opened, and requests at most settle. -/
theorem Aims.settle (aims : Aims P w) (sessions : ∀ d t o, ownerOf w' d t = some o → ownerOf w d t = some o ∨ P d t)
    (orphans : w'.state.orphanCleanup = w.state.orphanCleanup)
    (pending : ∀ n c, w'.pending.lookup n = some c → w.pending.lookup n = some c) : Aims P w' :=
  aims.of_same sessions (fun d t orphaned => Or.inl (by rw [Orphaned,← orphans]; exact orphaned))
    fun n _ _ _ _ found => Or.inl (pending n _ found)

theorem Effect.aims (ok : Sound b w) (aims : Aims (Aimed w) w) {a : Action} (effect : Effect (Aimed w) b w a w') :
    Aims (Aimed w') w' := by
  have forgotten (n : Nat) (n' : Nat) (c : Continuation) (found : (w.pending.erase n).lookup n' = some c) :
      w.pending.lookup n' = some c := by
    rw [lookup_erase_eq] at found
    split_ifs at found
    exact found
  have issued (same : w'.issued = w.issued) (here : Aims (Aimed w) w') : Aims (Aimed w') w' := here.of_issued same
  cases effect with
  | calm calm => exact issued calm.issued (aims.calm calm)
  | settled n d t own rest f gone waiting action calm =>
    refine issued (calm.issued.trans cleaned_issued) (Aims.calm (aims.of_same (fun d' t' o registered => Or.inl ?_)
      (fun d' t' orphaned => ?_) fun n' d' t' own' rest' found => ?_) calm)
    · rw [cleaned_owner] at registered
      rcases dropOwned_sessions (d := d) (t := t) w.state own (d',t') with same | none
      · exact same.symm.trans registered
      · cases none.symm.trans registered
    · rw [Orphaned,cleaned_orphan] at orphaned
      split_ifs at orphaned with erased new
      · cases orphaned
        obtain ⟨rfl,_⟩ := new
        exact Or.inr (aims.closings n d t' own rest waiting).1
      · exact Or.inl orphaned
    · exact Or.inl (forgotten n n' _ (cleaned_pending ▸ found))
  | accepted n client d t r waiting action fine nonempty result =>
    subst result
    refine issued (by simp only [World.closeAnswered,if_pos fine]) ?_
    simp only [World.closeAnswered,if_pos fine,if_neg nonempty]
    refine aims.settle (fun d' t' o registered => Or.inl ?_) rfl (forgotten n)
    replace registered := (lookup_erase_eq _ _ _).symm.trans registered
    split_ifs at registered
    exact registered
  | received n client d r waiting action fine nonzero fresh nonempty result =>
    subst result
    have landed : Aims (Aimed w) { w with pending := w.pending.erase n, inFlight := w.inFlight.erase n } :=
      aims.settle (fun _ _ _ registered => Or.inl registered) rfl (forgotten n)
    have issued := Aims.opened (d := d) (ok.forgetFlight n) landed fresh
    exact ⟨issued.sessions,issued.orphans,issued.closings⟩
  | dropped n d r flying action fine nobody fresh nonempty calm result =>
    subst result
    exact Aims.opened (ok.forgetFlight n) (aims.calm calm) fresh
  | rechecked k client d r action held result =>
    subst result
    have mine : Aimed w d r.t := fun d' issued => ok.oneDevice d' d r.t issued (ok.rechecks k client d r held).2
    rcases openRechecked_cases ok held rfl with ⟨_,_,_,_,same⟩ | ⟨_,same⟩ <;> rw [same] at issued ⊢
    · refine issued rfl (aims.settle (fun d' t' o registered => ?_) rfl fun _ _ found => found)
      replace registered := (lookup_insert_eq _ _ _ _).symm.trans registered
      by_cases new : (d',t') = (d,r.t)
      · cases new; exact Or.inr mine
      · rw [if_neg new] at registered; exact Or.inl registered
    · have freed : Aims (Aimed w) { w with store := w.store.erase k } :=
        aims.settle (fun _ _ _ registered => Or.inl registered) rfl fun _ _ found => found
      exact issued rfl (freed.calm (.closeForCleanup (ok.forgetStore k) mine fun rev none => by cases none))
  | lost k client d r action held result =>
    subst result
    exact issued rfl (aims.settle (fun _ _ _ registered => Or.inl registered) rfl fun _ _ found => found)

/-- Without a condition on the sessions. -/
theorem aims_true (w : World) : Aims (fun _ _ => True) w :=
  ⟨fun _ _ _ _ => trivial,fun _ _ _ => trivial,fun _ _ _ _ _ _ => ⟨trivial,fun _ _ _ _ => trivial⟩⟩

theorem step_effect_any (ok : Sound b w) {a : Action} (taken : step b w a = some w') :
    Effect (fun _ _ => True) b w a w' := step_effect ok (aims_true w) (fun _ _ _ => trivial) taken

/-- A cleanup that is asked for names a session with its own device. -/
def wellAimed (w : World) : Action → Bool
  | .cleanupSession d t => w.issued.all fun key => key.2 != t || key.1 == d
  | _ => true

theorem step_aimed (ok : Sound b w) (aims : Aims (Aimed w) w) {a : Action} (aimed : wellAimed w a = true)
    (taken : step b w a = some w') : Effect (Aimed w) b w a w' := by
  refine step_effect ok aims (fun d t asks d' issued => ?_) taken
  subst asks
  have device := List.all_eq_true.mp aimed (d',t) issued
  simpa using device

theorem aims_init : Aims (Aimed init) init := by
  refine ⟨fun d t o registered => ?_,fun d t orphaned => ?_,fun n d t own rest found => ?_⟩
  · cases (AList.lookup_empty (d,t)).symm.trans registered
  · cases (AList.lookup_empty t).symm.trans orphaned
  · cases (AList.lookup_empty n).symm.trans found

/-- In a run whose cleanups are well aimed. -/
theorem run_aims {trace : List Action} (ok : Sound b w) (aims : Aims (Aimed w) w) (run : exec (step b) w trace = some w')
    (aimed : AllSteps (step b) (fun s a _ => wellAimed s a = true) w trace) : Sound b w' ∧ Aims (Aimed w') w' :=
  exec_invariant_under (I := fun w => Sound b w ∧ Aims (Aimed w) w)
    (fun _ _ _ inv taken here => ⟨step_sound inv.1 taken,(step_aimed inv.1 inv.2 here taken).aims inv.1 inv.2⟩)
    ⟨ok,aims⟩ run aimed

theorem run_later {trace : List Action} (ok : Sound b w) (aims : Aims (Aimed w) w) (run : exec (step b) w trace = some w')
    (aimed : AllSteps (step b) (fun s a _ => wellAimed s a = true) w trace) : Later w w' := by
  have start : Sound b w ∧ Aims (Aimed w) w ∧ Later w w := ⟨ok,aims,fun _ told => told,fun _ _ _ => Or.inl rfl⟩
  refine (exec_invariant_under (I := fun s => Sound b s ∧ Aims (Aimed s) s ∧ Later w s) ?_ start run aimed).2.2
  intro s a s' inv taken here
  have effect := step_aimed inv.1 inv.2.1 here taken
  exact ⟨step_sound inv.1 taken,effect.aims inv.1 inv.2.1,Later.trans inv.2.2 (effect.later inv.1)⟩

/-- A session that was registered still is, or it is filed. -/
theorem run_filed {trace : List Action} {o : Owner} (ok : Sound b w) (aims : Aims (Aimed w) w) (registered : ownerOf w d t = some o)
    (run : exec (step b) w trace = some w')
    (aimed : AllSteps (step b) (fun s a _ => wellAimed s a = true) w trace) : ownerOf w' d t = some o ∨ Filed w' d t := by
  have start : Sound b w ∧ Aims (Aimed w) w ∧ (d,t) ∈ w.issued ∧ (ownerOf w d t = some o ∨ Filed w d t) :=
    ⟨ok,aims,(ok.sessions d t o registered).1,Or.inl registered⟩
  refine (exec_invariant_under (I := fun s => Sound b s ∧ Aims (Aimed s) s ∧ (d,t) ∈ s.issued ∧
    (ownerOf s d t = some o ∨ Filed s d t)) ?_ start run aimed).2.2.2
  intro s a s' inv taken here
  obtain ⟨sound,aims,issued,filed⟩ := inv
  have effect := step_aimed sound aims here taken
  exact ⟨step_sound sound taken,effect.aims sound aims,effect.issued sound issued,effect.filed sound aims issued filed⟩

end
end FFWebHid.Effects
