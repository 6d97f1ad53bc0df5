import Mathlib.Data.Finset.Card
import FFWebHid.Maps
import FFWebHid.Runs
import FFWebHid.StateOps
import FFWebHid.Background
import FFWebHid.Bookkeeping
import FFWebHid.LiveSessions

/-!
The two structures that record what a tab has open: the count of `deviceTabMap` and the
sessions of `deviceSessions`. They agree as long as every session is taken off the
count once, by the first operation that closes it, and no session is cleaned up
without being taken off. `handleClose` and the purges do not look at each other's
closes, so a run can break the first, and `handleCleanupSession` can break the second.
-/
namespace FFWebHid.TabCounts
open FFWebHid.Maps FFWebHid.Runs FFWebHid.StateOps FFWebHid.Background FFWebHid.Bookkeeping FFWebHid.LiveSessions

/-- The sessions registered for a device by owners of a tab. -/
def sessionsOf (w : World) (d : DeviceId) (tab : TabId) : List (DeviceId × Token) :=
  w.state.collectDeviceSessions fun d' o => d' == d && o.tabId == tab

/-- Those of them that are live. -/
def liveOf (w : World) (d : DeviceId) (tab : TabId) : Finset (DeviceId × Token) :=
  ((sessionsOf w d tab).filter fun key => !ending w key.1 key.2).toFinset

/-- Once everything has settled, the count of each device and tab is the number of
    sessions registered there. -/
def Accounted (w : World) : Prop := settled w = true → ∀ d tab, w.state.deviceTabMap.lookup (d,tab) =
  if sessionsOf w d tab = [] then none else some (sessionsOf w d tab).length

/-- A live session that the step does not collect stays live, with its tab authorized,
    and the count loses no more than the sessions that the step collects. -/
def SparesOthers (b : Browser) (w : World) (a : Action) (w' : World) : Prop :=
  ∀ d t o, Live w d t o → (d,t) ∉ collected b w a → Live w' d t o ∧
    w'.state.isTabAuthorizedForDevice o.tabId d = true ∧ w.state.opens d o.tabId ≤
      w'.state.opens d o.tabId + ((liveOf w d o.tabId).filter fun key => key ∈ collected b w a).card

/-- No operation that takes a session off the count comes after another that closes it:
    what a purge or a revocation takes is not being cleaned up, and the session whose
    close the daemon accepts is still registered and not being cleaned up. -/
def firstClose (b : Browser) (w : World) (a : Action) : Bool :=
  (released b w a).all (fun key => !ending w key.1 key.2) &&
  match a with
  | .answer n response =>
    match w.pending.lookup n with
    | some (.closed _ d t) => !isOk response.s || (ownerOf w d t).isSome
    | _ => true
  | _ => true

/-- A cleanup that a page or bridge asks for does not name a live session. -/
def sparesLive (w : World) : Action → Bool
  | .cleanupSession d t => (ownerOf w d t).isNone || ending w d t
  | _ => true

def disciplined (b : Browser) (w : World) (a : Action) : Bool := firstClose b w a && sparesLive w a

section
variable {b : Browser} {w w' : World} {d d' : DeviceId} {t : Token} {tab tab' : TabId} {key : DeviceId × Token}

theorem mem_liveOf : key ∈ liveOf w d tab ↔ key.1 = d ∧ ∃ o, Live w key.1 key.2 o ∧ o.tabId = tab := by
  simp only [liveOf,sessionsOf,List.mem_toFinset,List.mem_filter,mem_collectDeviceSessions,Bool.and_eq_true,beq_iff_eq,
    Bool.not_eq_true']
  constructor
  · rintro ⟨⟨o,registered,device,same⟩,kept⟩; exact ⟨device,o,⟨registered,kept⟩,same⟩
  · rintro ⟨device,o,⟨registered,kept⟩,same⟩; exact ⟨⟨o,registered,device,same⟩,kept⟩

theorem liveOf_congr (live : ∀ d t o, Live w' d t o ↔ Live w d t o) : liveOf w' d tab = liveOf w d tab := by
  ext key; simp only [mem_liveOf,live]

theorem liveOf_erase (live : ∀ d t o, Live w' d t o ↔ Live w d t o ∧ (d,t) ≠ key) :
    liveOf w' d tab = (liveOf w d tab).erase key := by
  ext other
  simp only [Finset.mem_erase,mem_liveOf,live]
  constructor
  · rintro ⟨device,o,⟨here,ne⟩,same⟩; exact ⟨ne,device,o,here,same⟩
  · rintro ⟨ne,device,o,here,same⟩; exact ⟨device,o,⟨here,ne⟩,same⟩

/-- The recorded opens and the live sessions of each device and tab are related. -/
def Counted (R : Nat → Nat → Prop) (w : World) : Prop := ∀ d tab, R (w.state.opens d tab) (liveOf w d tab).card

/-- What `≤` and `=` have in common. -/
structure Tame (R : Nat → Nat → Prop) : Prop where
  zero : R 0 0
  succ : ∀ x y, R x y → R (x + 1) (y + 1)
  pred : ∀ x y, R x y → R (x - 1) (y - 1)

theorem tame_eq : Tame (· = ·) := ⟨rfl,fun _ _ same => by rw [same],fun _ _ same => by rw [same]⟩

theorem tame_le : Tame (· ≤ ·) :=
  ⟨Nat.le_refl 0,fun _ _ le => Nat.succ_le_succ le,fun _ _ le => Nat.sub_le_sub_right le 1⟩

variable {R : Nat → Nat → Prop}

theorem Counted.congr (counted : Counted R w) (live : ∀ d t o, Live w' d t o ↔ Live w d t o)
    (opens : ∀ d tab, w'.state.opens d tab = w.state.opens d tab) : Counted R w' := by
  intro d tab
  rw [liveOf_congr live,opens]
  exact counted d tab

/-- A session leaves the count of its tab. -/
theorem Counted.release (tab : TabId) (tame : Tame R) (counted : Counted R w)
    (live : ∀ d t o, Live w' d t o ↔ Live w d t o ∧ (d,t) ≠ key)
    (opens : ∀ d tab', w'.state.opens d tab' = w.state.opens d tab' - if d = key.1 ∧ tab' = tab then 1 else 0)
    (own : ∀ o, Live w key.1 key.2 o → o.tabId = tab)
    (first : (∀ x y, R x y → R (x - 1) y) ∨ ∃ o, Live w key.1 key.2 o) : Counted R w' := by
  intro d tab'
  rw [liveOf_erase live,opens]
  by_cases here : d = key.1 ∧ tab' = tab
  · obtain ⟨rfl,rfl⟩ := here
    rw [if_pos ⟨rfl,rfl⟩]
    by_cases counts : ∃ o, Live w key.1 key.2 o
    · obtain ⟨o,alive⟩ := counts
      rw [Finset.card_erase_of_mem (mem_liveOf.mpr ⟨rfl,o,alive,own o alive⟩)]
      exact tame.pred _ _ (counted key.1 tab')
    · have absent : key ∉ liveOf w key.1 tab' := by
        intro member
        obtain ⟨_,o,alive,_⟩ := mem_liveOf.mp member
        exact counts ⟨o,alive⟩
      rw [Finset.erase_eq_of_notMem absent]
      exact first.resolve_right counts _ _ (counted key.1 tab')
  · have absent : key ∉ liveOf w d tab' := by
      intro member
      obtain ⟨device,o,alive,same⟩ := mem_liveOf.mp member
      exact here ⟨device.symm,same.symm.trans (own o alive)⟩
    rw [Finset.erase_eq_of_notMem absent,if_neg here]
    exact counted d tab'

/-- A session is closed and stays on the count. -/
theorem Counted.drop (counted : Counted R w) (live : ∀ d t o, Live w' d t o ↔ Live w d t o ∧ (d,t) ≠ key)
    (opens : ∀ d tab, w'.state.opens d tab = w.state.opens d tab)
    (spared : (∀ x y, R x y → R x (y - 1)) ∨ ∀ o, ¬ Live w key.1 key.2 o) : Counted R w' := by
  intro d tab
  rw [liveOf_erase live,opens]
  by_cases member : key ∈ liveOf w d tab
  · obtain ⟨_,o,alive,_⟩ := mem_liveOf.mp member
    rw [Finset.card_erase_of_mem member]
    exact spared.resolve_right (fun none => none o alive) _ _ (counted d tab)
  · rw [Finset.erase_eq_of_notMem member]
    exact counted d tab

/-- A new session comes with an open of its tab. -/
theorem Counted.register (owner : Owner) (tame : Tame R) (counted : Counted R w)
    (live : ∀ d' t' o, Live w' d' t' o ↔ Live w d' t' o ∨ (d' = d ∧ t' = t ∧ o = owner))
    (absent : ∀ o, ¬ Live w d t o)
    (opens : ∀ d' tab, w'.state.opens d' tab = w.state.opens d' tab + if d' = d ∧ tab = owner.tabId then 1 else 0) :
    Counted R w' := by
  intro d' tab
  rw [opens]
  by_cases here : d' = d ∧ tab = owner.tabId
  · obtain ⟨rfl,rfl⟩ := here
    have inserted : liveOf w' d' owner.tabId = insert (d',t) (liveOf w d' owner.tabId) := by
      ext other
      simp only [Finset.mem_insert,mem_liveOf,live]
      constructor
      · rintro ⟨device,o,alive | ⟨_,token,rfl⟩,same⟩
        · exact Or.inr ⟨device,o,alive,same⟩
        · exact Or.inl (Prod.ext device token)
      · rintro (rfl | ⟨device,o,alive,same⟩)
        · exact ⟨rfl,owner,Or.inr ⟨rfl,rfl,rfl⟩,rfl⟩
        · exact ⟨device,o,Or.inl alive,same⟩
    have new : (d',t) ∉ liveOf w d' owner.tabId := by
      intro member
      obtain ⟨_,o,alive,_⟩ := mem_liveOf.mp member
      exact absent o alive
    rw [inserted,Finset.card_insert_of_notMem new,if_pos ⟨rfl,rfl⟩]
    exact tame.succ _ _ (counted d' owner.tabId)
  · have same : liveOf w' d' tab = liveOf w d' tab := by
      ext other
      simp only [mem_liveOf,live]
      constructor
      · rintro ⟨device,o,alive | ⟨dev,_,rfl⟩,same⟩
        · exact ⟨device,o,alive,same⟩
        · exact absurd ⟨device.symm.trans dev,same.symm⟩ here
      · rintro ⟨device,o,alive,same⟩; exact ⟨device,o,Or.inl alive,same⟩
    rw [same,if_neg here]
    exact counted d' tab

/-- A purge of sessions of one tab. -/
theorem Counted.closeAll (tame : Tame R) (keys : List (DeviceId × Token)) (ok : Sound b w) (counted : Counted R w)
    (nodup : keys.Nodup) (own : ∀ key ∈ keys, ∃ o, ownerOf w key.1 key.2 = some o ∧ o.tabId = tab)
    (first : (∀ x y, R x y → R (x - 1) y) ∨ ∀ key ∈ keys, ∃ o, Live w key.1 key.2 o) :
    Counted R (w.closeAll (fun s key => s.unregisterDeviceTab key.1 tab) keys) := by
  induction keys generalizing w with
  | nil => exact counted
  | cons key rest ih =>
    obtain ⟨o,registered,same⟩ := own key List.mem_cons_self
    have quiet := quiet_unregisterDeviceTab tab
    have told := (ok.sessions key.1 key.2 o registered).2.1
    have nonzero : key.1 ≠ 0 := by
      intro zero
      rw [zero,ok.nonzero key.2] at registered; cases registered
    have live {d : DeviceId} {t : Token} {o : Owner} := live_closeNext (d := d) (t := t) (o := o) quiet ok key
    have next : Counted R (w.closeNext (fun s key => s.unregisterDeviceTab key.1 tab) key) := by
      refine counted.release _ tame (fun _ _ _ => live) (fun d tab' => opens_unregisterDeviceTab nonzero) ?_ ?_
      · intro o' alive
        cases Option.some.inj (alive.registered.symm.trans registered)
        exact same
      · exact first.imp_right fun all => all key List.mem_cons_self
    refine ih (Sound.closeNext quiet ok told) next nodup.of_cons ?_ ?_
    · exact fun key' member => own key' (List.mem_cons_of_mem key member)
    · refine first.imp_right fun all key' member => ?_
      obtain ⟨o',alive⟩ := all key' (List.mem_cons_of_mem key member)
      refine ⟨o',live.mpr ⟨alive,?_⟩⟩
      rintro rfl
      exact (List.nodup_cons.mp nodup).1 member

theorem closeAll_state (keys : List (DeviceId × Token)) : (w.closeAll (fun s _ => s) keys).state = w.state := by
  induction keys generalizing w with
  | nil => rfl
  | cons key rest ih => exact ih

/-- Everything of the tab is gone from the count and from the live sessions. -/
theorem Counted.purgeTab (tame : Tame R) (ok : Sound b w) (counted : Counted R w)
    (taken : step b w (.tabRemoved tab) = some w') : Counted R w' := by
  have live {d : DeviceId} {t : Token} {o : Owner} : Live w' d t o ↔ Live w d t o ∧ o.tabId ≠ tab := by
    rw [step_live ok taken]
    constructor
    · rintro (⟨alive,kept⟩ | ⟨k,client,registers⟩)
      · exact ⟨alive,fun same => kept (mem_collectDeviceSessionsForTab.mpr ⟨o,alive.registered,same⟩)⟩
      · cases registers.action
    · rintro ⟨alive,other⟩
      refine Or.inl ⟨alive,fun member => ?_⟩
      obtain ⟨o',registered,same⟩ := mem_collectDeviceSessionsForTab.mp member
      cases Option.some.inj (alive.registered.symm.trans registered)
      exact other same
  cases taken
  intro d tab'
  have opens : (w.purgeTab tab).state.opens d tab' = if tab' = tab then 0 else w.state.opens d tab' := by
    rw [World.purgeTab,closeAll_state]
    exact opens_forgetTabDevices
  rw [opens]
  by_cases here : tab' = tab
  · have none : liveOf (w.purgeTab tab) d tab' = ∅ := by
      refine Finset.eq_empty_of_forall_notMem fun key member => ?_
      obtain ⟨_,o,alive,same⟩ := mem_liveOf.mp member
      exact (live.mp alive).2 (same.trans here)
    rw [if_pos here,none]
    exact tame.zero
  · have same : liveOf (w.purgeTab tab) d tab' = liveOf w d tab' := by
      ext key
      simp only [mem_liveOf]
      constructor
      · rintro ⟨device,o,alive,same⟩; exact ⟨device,o,(live.mp alive).1,same⟩
      · rintro ⟨device,o,alive,same⟩; exact ⟨device,o,live.mpr ⟨alive,fun gone => here (same.symm.trans gone)⟩,same⟩
    rw [if_neg here,same]
    exact counted d tab'

/-- A revocation goes on to its next session. -/
theorem Counted.revokeTokens (tame : Tame R) (ok : Sound b w) (counted : Counted R w) (rev : Revocation)
    (first : (∀ x y, R x y → R (x - 1) y) ∨ ∀ key ∈ revocationHead (some rev), ∀ o,
      ownerOf w key.1 key.2 = some o → Live w key.1 key.2 o) : Counted R (w.revokeTokens rev) := by
  have live {d : DeviceId} {t : Token} {o : Owner} := @live_revokeTokens b w d t o ok rev
  obtain ⟨origin,d,tokens,devices,call⟩ := rev
  cases tokens with
  | nil =>
    refine counted.congr (fun _ _ _ => live_revokeNext) fun d' tab => ?_
    rw [World.revokeTokens,revokeNext_state]
  | cons t tokens =>
    have head : revocationHead (some ⟨origin,d,t :: tokens,devices,call⟩) = [(d,t)] := rfl
    simp only [head,List.mem_singleton] at live first
    have result : (w.revokeTokens ⟨origin,d,t :: tokens,devices,call⟩).state = w.state.unregisterOwnerTab d t := rfl
    rcases unregisterOwnerTab_cases (s := w.state) (d := d) (t := t) with ⟨o,registered,same⟩ | ⟨none,same⟩
    · have nonzero : d ≠ 0 := by
        rintro rfl
        cases registered.symm.trans (ok.nonzero t)
      refine counted.release o.tabId tame (fun _ _ _ => live) (fun d' tab' => ?_) ?_ ?_
      · rw [result,same]; exact opens_unregisterDeviceTab nonzero
      · intro o' alive
        cases Option.some.inj (alive.registered.symm.trans registered)
        rfl
      · exact first.imp_right fun all => ⟨o,all (d,t) rfl o registered⟩
    · refine counted.drop (fun _ _ _ => live) (fun d' tab => by rw [result,same]) (Or.inr fun o alive => ?_)
      cases alive.registered.symm.trans none

/-- A cleanup settles, and the revocation that awaits it goes on. -/
theorem Counted.cleanupSettled (tame : Tame R) (ok : Sound b w) (counted : Counted R w) {n : Nat} {own : Option Owner}
    {rest : Option Revocation} (waiting : w.pending.lookup n = some (.cleaned d t own rest))
    {f : HashMap Nat NmRequest} (landed : Sound b { w with pending := w.pending.erase n, inFlight := f })
    (gone : Bool)
    (first : (∀ x y, R x y → R (x - 1) y) ∨ ∀ key ∈ revocationHead rest, ending w key.1 key.2 = false) :
    Counted R ({ w with pending := w.pending.erase n, inFlight := f }.cleanupSettled d t own rest gone) := by
  obtain ⟨told,here,_⟩ := ok.continuations n _ waiting
  have live {d' : DeviceId} {t' : Token} {o : Owner} :
      Live ({ w with pending := w.pending.erase n, inFlight := f }.cleanupDone d t own gone) d' t' o ↔ Live w d' t' o :=
    live_cleanupDone ok waiting gone
  have done : Counted R ({ w with pending := w.pending.erase n, inFlight := f }.cleanupDone d t own gone) := by
    refine counted.congr (fun _ _ _ => live) fun d' tab => ?_
    cases gone <;> rfl
  cases rest with
  | none => exact done
  | some rev =>
    refine done.revokeTokens tame (landed.cleanupDone told here gone) rev (first.imp_right fun all key member o found => ?_)
    have before : ownerOf w key.1 key.2 = some o := by
      have sessions : ({ w with pending := w.pending.erase n, inFlight := f }.cleanupDone d t own gone
          ).state.deviceSessions = (w.state.dropOwned d t own).deviceSessions := by cases gone <;> rfl
      rw [ownerOf,sessions] at found
      rcases dropOwned_sessions (d := d) (t := t) w.state own (key.1,key.2) with same | none
      · exact same.symm.trans found
      · rw [none] at found; cases found
    exact live.mpr ⟨before,all key member⟩

/-- The second lookup of an open. -/
theorem Counted.openRechecked (tame : Tame R) (ok : Sound b w) (counted : Counted R w) {k : Nat} {client : Client}
    {r : NmResponse} (held : w.store.lookup k = some (.openRecheck client d r)) :
    Counted R ({ w with store := w.store.erase k }.openRechecked b client d r k) := by
  have live {d' : DeviceId} {t' : Token} {o : Owner} :
      Live ({ w with store := w.store.erase k }.openRechecked b client d r k) d' t' o ↔
        Live w d' t' o ∨ Registers b w (.stored k) k client d' t' o := live_openRechecked ok held
  rcases openRechecked_cases ok held rfl with ⟨allowed,active,nonzero,origin,result⟩ | ⟨refused,result⟩
  · refine counted.register (d := d) (t := r.t)
      ⟨b.tab client,b.origin client,client.frame,client.frame.bridgeInstanceId,client.clientKey,k⟩ tame ?_ ?_ ?_
    · intro d' t' o
      rw [live]
      refine or_congr_right ⟨?_,?_⟩
      · rintro ⟨_,⟨r',held',rfl⟩,rfl,_,_,_,_⟩
        cases held.symm.trans held'
        exact ⟨rfl,rfl,rfl⟩
      · rintro ⟨rfl,rfl,rfl⟩
        exact ⟨rfl,⟨r,held,rfl⟩,rfl,allowed,active,nonzero,origin⟩
    · intro o alive
      exact held_untold held (ok.sessions d r.t o alive.registered).2.1
    · intro d' tab
      rw [result]
      exact opens_registerDeviceTab nonzero
  · refine counted.congr (fun d' t' o => ?_) fun d' tab => by rw [result]; rfl
    rw [live]
    refine or_iff_left ?_
    rintro ⟨_,⟨r',held',_⟩,_,allowed,active,nonzero,origin⟩
    cases held.symm.trans held'
    exact refused ⟨allowed,active,nonzero,origin⟩

/-- The daemon accepted a close of `handleClose`. -/
theorem Counted.closeAnswered (tame : Tame R) (ok : Sound b w) (counted : Counted R w) {client : Client}
    {response : NmResponse} (accepted : isOk response.s = true) (nonempty : t ≠ "")
    (fine : ContinuationOk b w (.closed client d t))
    (first : (∀ x y, R x y → R (x - 1) y) ∨ ∃ o, Live w d t o) :
    Counted R (w.closeAnswered b client d t response) := by
  have live {d' : DeviceId} {t' : Token} {o : Owner} : Live (w.closeAnswered b client d t response) d' t' o ↔
      Live w d' t' o ∧ (d',t') ≠ (d,t) := by
    rw [live_closeAnswered nonempty,settles,if_pos accepted,List.mem_singleton]
  have opens (d' : DeviceId) (tab : TabId) : (w.closeAnswered b client d t response).state.opens d' tab =
      (w.state.unregisterDeviceTab d (b.tab client)).opens d' tab := by
    rw [World.closeAnswered,if_pos accepted]
    simp only [if_neg nonempty]
    rfl
  by_cases zero : d = 0
  · subst zero
    refine counted.drop (fun _ _ _ => live) (fun d' tab => ?_) (Or.inr fun o alive => ?_)
    · rw [opens]; rfl
    · cases alive.registered.symm.trans (ok.nonzero t)
  · refine counted.release (b.tab client) tame (fun _ _ _ => live) (fun d' tab => ?_) ?_ first
    · rw [opens]; exact opens_unregisterDeviceTab zero
    · exact fun o alive => (fine nonempty).2 o alive.registered

/-- Nothing is registered or collected. -/
private theorem Counted.idle (ok : Sound b w) (counted : Counted R w) {a : Action} (taken : step b w a = some w')
    (nothing : ∀ d t o, Live w d t o → (d,t) ∉ collected b w a) (no : ∀ k client d t o, ¬ Registers b w a k client d t o)
    (opens : ∀ d tab, w'.state.opens d tab = w.state.opens d tab) : Counted R w' := by
  refine counted.congr (fun d t o => ?_) opens
  rw [step_live ok taken]
  constructor
  · rintro (⟨alive,_⟩ | ⟨k,client,registers⟩)
    · exact alive
    · exact absurd registers (no k client d t o)
  · exact fun alive => Or.inl ⟨alive,nothing d t o alive⟩

private theorem firstClose_released {a : Action} (first : firstClose b w a = true) :
    ∀ key ∈ released b w a, ending w key.1 key.2 = false := by
  intro key member
  have idle := List.all_eq_true.mp (Bool.and_eq_true_iff.mp first).1 key member
  simpa using idle

private theorem not_registers {a : Action} (other : ∀ k, a ≠ .stored k) (k : Nat) (client : Client) (d : DeviceId)
    (t : Token) (o : Owner) : ¬ Registers b w a k client d t o := fun registers => other k registers.action

/-- A purge, after its frames were retired. -/
private theorem Counted.purge (test : DeviceId → Owner → Bool) (tame : Tame R) {s : BgState} (ok : Sound b { w with state := s }) (counted : Counted R w)
    (sessions : s.deviceSessions = w.state.deviceSessions) (tabs : s.deviceTabMap = w.state.deviceTabMap)
    (inTab : ∀ d o, test d o = true → o.tabId = tab)
    (first : (∀ x y, R x y → R (x - 1) y) ∨ ∀ key ∈ s.collectDeviceSessions test, ending w key.1 key.2 = false) :
    Counted R ({ w with state := s }.closeAll (fun s key => s.unregisterDeviceTab key.1 tab) (s.collectDeviceSessions test)) := by
  have same {d : DeviceId} {t : Token} {o : Owner} : Live { w with state := s } d t o ↔ Live w d t o :=
    live_congr rfl sessions
  have before : Counted R { w with state := s } := by
    refine counted.congr (fun _ _ _ => same) fun d tab => ?_
    rw [BgState.opens,BgState.opens,tabs]
  refine before.closeAll tame _ ok (collectDeviceSessions_nodup test) (fun key member => ?_)
    (first.imp_right fun all key member => ?_)
  · obtain ⟨o,registered,passes⟩ := mem_collectDeviceSessions.mp member
    exact ⟨o,registered,inTab _ _ passes⟩
  · obtain ⟨o,registered,_⟩ := mem_collectDeviceSessions.mp member
    exact ⟨o,registered,all key member⟩

theorem Counted.step (tame : Tame R) (ok : Sound b w) (counted : Counted R w) {a : Action}
    (taken : step b w a = some w') (first : (∀ x y, R x y → R (x - 1) y) ∨ firstClose b w a = true)
    (spared : (∀ x y, R x y → R x (y - 1)) ∨ sparesLive w a = true) : Counted R w' := by
  have takes := first.imp_right firstClose_released
  cases a with
  | openRequest client d =>
    refine counted.idle ok taken (fun _ _ _ _ => List.not_mem_nil) (not_registers fun _ => by simp) fun d' tab => ?_
    cases taken
    unfold World.handleOpen
    split
    · rfl
    · next s registered =>
      show s.opens d' tab = _
      rw [BgState.opens,BgState.opens,(registerFrameLifetime_quiet registered).1]
  | closeRequest client d t =>
    refine counted.idle ok taken (fun _ _ _ _ => List.not_mem_nil) (not_registers fun _ => by simp) fun d' tab => ?_
    cases taken
    unfold World.handleClose
    split_ifs <;> rfl
  | cleanupSession d t =>
    have live {d' : DeviceId} {t' : Token} {o : Owner} : Live w' d' t' o ↔ Live w d' t' o ∧ (d',t') ≠ (d,t) := by
      rw [step_live ok taken]
      simp only [collected,List.mem_singleton,or_iff_left_iff_imp]
      rintro ⟨k,client,registers⟩
      cases registers.action
    refine counted.drop (fun _ _ _ => live) (fun d' tab => ?_) (spared.imp_right fun fine o alive => ?_)
    · simp only [Background.step] at taken
      split_ifs at taken
      cases taken; rfl
    · rw [sparesLive,show ownerOf w d t = some o from alive.registered,show ending w d t = false from alive.kept] at fine
      cases fine
  | frameDestroyed frame =>
    cases taken
    refine Counted.purge (s := w.state.retireFrameLifetime (b.tabOf frame.bridgeInstanceId) frame)
      (fun _ o => o.tabId == b.tabOf frame.bridgeInstanceId && o.frameKey == frame)
      tame (ok.withCounts rfl rfl ok.noZero) counted rfl rfl (fun d o passes => ?_) takes
    exact beq_iff_eq.mp (Bool.and_eq_true_iff.mp passes).1
  | bridgeGone bridge =>
    cases taken
    refine Counted.purge (s := w.state.retireBridgeFrames (b.tabOf bridge) bridge)
      (fun _ o => o.tabId == b.tabOf bridge && o.bridgeInstanceId == bridge)
      tame (ok.withCounts rfl rfl ok.noZero) counted rfl rfl (fun d o passes => ?_) takes
    exact beq_iff_eq.mp (Bool.and_eq_true_iff.mp passes).1
  | tabRemoved tab => exact counted.purgeTab tame ok taken
  | revokeRequest origin targets =>
    refine counted.idle ok taken (fun _ _ _ _ => List.not_mem_nil) (not_registers fun _ => by simp) fun d' tab => ?_
    cases taken
    unfold World.handleRevokeDevice
    split_ifs <;> rfl
  | retryOrphans =>
    refine counted.idle ok taken (fun d t o alive member => ?_) (not_registers fun _ => by simp) fun d' tab => ?_
    · cases alive.registered.symm.trans (ok.orphans t d (mem_orphanKeys.mp member)).2
    · cases taken
      rw [World.retryOrphanCleanup,closeAll_state]
  | pair origin d =>
    refine counted.idle ok taken (fun _ _ _ _ => List.not_mem_nil) (not_registers fun _ => by simp) fun d' tab => ?_
    cases taken; rfl
  | report client op d =>
    refine counted.idle ok taken (fun _ _ _ _ => List.not_mem_nil) (not_registers fun _ => by simp) fun d' tab => ?_
    cases taken
    unfold World.handleReport
    split_ifs <;> rfl
  | answer n response =>
    have whole := taken
    simp only [Background.step] at taken
    cases flying : w.inFlight.lookup n with
    | none => rw [flying] at taken; cases taken
    | some q =>
      rw [flying] at taken
      dsimp only at taken
      split_ifs at taken with may
      have landed := ok.forgetFlight n
      cases waiting : w.pending.lookup n with
      | none =>
        rw [waiting] at taken
        refine counted.idle ok whole (fun d t o _ member => ?_) (not_registers fun _ => by simp) fun d' tab => ?_
        · simp [collected,released,waiting] at member
        · cases taken
          unfold World.record
          split
          · split_ifs <;> rfl
          · rfl
      | some c =>
        rw [waiting] at taken
        cases Option.some.inj ((ok.awaited n c waiting).symm.trans flying)
        simp only [released,waiting,Option.map_some,Option.getD_some] at takes
        cases c with
        | opened client d =>
          refine counted.idle ok whole (fun d t o _ member => ?_) (not_registers fun _ => by simp) fun d' tab => ?_
          · simp [collected,released,waiting,settles] at member
          · cases taken
            simp only [Continuation.request,World.record,World.resolve,World.openAnswered]
            split_ifs <;> rfl
        | cleaned d t own rest => cases taken; exact counted.cleanupSettled tame ok waiting landed _ takes
        | closed client d t =>
          by_cases accepted : isOk response.s = true
          · have nonempty : t ≠ "" := by
              simp only [Continuation.request,World.mayAnswer,accepted,Bool.not_true,Bool.false_or,bne_iff_ne] at may
              exact may
            have same {d' : DeviceId} {t' : Token} {o : Owner} :
                Live { w with pending := w.pending.erase n, inFlight := w.inFlight.erase n } d' t' o ↔ Live w d' t' o :=
              live_forget waiting fun _ _ => rfl
            have before : Counted R { w with pending := w.pending.erase n, inFlight := w.inFlight.erase n } :=
              counted.congr (fun _ _ _ => same) fun _ _ => rfl
            cases taken
            refine before.closeAnswered tame landed accepted nonempty (ok.continuations n _ waiting)
              (first.imp_right fun fine => ?_)
            rw [firstClose,Bool.and_eq_true,waiting] at fine
            simp only [accepted,Bool.not_true,Bool.false_or,Option.isSome_iff_exists] at fine
            obtain ⟨o,registered⟩ := fine.2
            refine ⟨o,same.mpr ⟨registered,?_⟩⟩
            have idle := List.all_eq_true.mp fine.1 (d,t) (by simp [released,waiting,settles,accepted])
            simpa using idle
          · refine counted.idle ok whole (fun d t o _ member => ?_) (not_registers fun _ => by simp) fun d' tab => ?_
            · simp [collected,released,waiting,settles,accepted] at member
            · cases taken
              simp only [Continuation.request,World.record,World.resolve,World.closeAnswered,if_neg accepted]
        | reported client op d =>
          refine counted.idle ok whole (fun d t o _ member => ?_) (not_registers fun _ => by simp) fun d' tab => ?_
          · simp [collected,released,waiting,settles] at member
          · cases taken; rfl
  | timeout n =>
    have whole := taken
    simp only [Background.step] at taken
    cases waiting : w.pending.lookup n with
    | none => rw [waiting] at taken; cases taken
    | some c =>
      rw [waiting] at taken
      simp only [released,waiting,Option.map_some,Option.getD_some] at takes
      cases c with
      | cleaned d t own rest =>
        cases taken
        exact counted.cleanupSettled (f := w.inFlight) tame ok waiting (ok.forgetPending n) false takes
      | _ =>
        refine counted.idle ok whole (fun d t o _ member => ?_) (not_registers fun _ => by simp) fun d' tab => ?_
        · simp [collected,released,waiting,settles] at member
        · cases taken; rfl
  | stored k =>
    have whole := taken
    obtain ⟨wait,found,ran⟩ := Option.bind_eq_some_iff.mp taken
    cases wait with
    | openLookup client d =>
      refine counted.idle ok whole (fun d t o _ member => ?_) (fun k' client' d t o registers => ?_) fun d' tab => ?_
      · simp [collected,released,found] at member
      · obtain ⟨r,held,_⟩ := registers.waits
        cases registers.action
        cases found.symm.trans held
      · cases ran
        unfold World.openLookedUp
        split_ifs <;> rfl
    | openRecheck client d r => cases ran; exact counted.openRechecked tame ok found
    | revokeGroups origin targets => cases ran
    | revokeRemove origin d rest call =>
      cases ran
      have same {d' : DeviceId} {t' : Token} {o : Owner} :
          Live { w with store := w.store.erase k, allowed := w.allowed.erase (origin,d) } d' t' o ↔ Live w d' t' o :=
        live_congr rfl rfl
      have before : Counted R { w with store := w.store.erase k, allowed := w.allowed.erase (origin,d) } :=
        counted.congr (fun _ _ _ => same) fun _ _ => rfl
      have device (key : DeviceId × Token) (member : key ∈ w.state.collectDeviceSessionsForOrigin d origin) : key.1 = d :=
        (mem_collectDeviceSessionsForOrigin.mp member).1
      have head := head_of_device device origin rest call
      simp only [released,found] at takes
      refine before.revokeTokens tame ((ok.forgetStore k).withAllowed _) _ (takes.imp_right fun all key member o here => ?_)
      exact same.mpr ⟨here,all key (head ▸ member)⟩
    | revokeFinish origin call =>
      refine counted.idle ok whole (fun d t o _ member => ?_) (fun k' client' d t o registers => ?_) fun d' tab => ?_
      · simp [collected,released,found] at member
      · obtain ⟨r,held,_⟩ := registers.waits
        cases registers.action
        cases found.symm.trans held
      · cases ran; rfl
  | groupsRead k groups =>
    refine counted.idle ok taken (fun _ _ _ _ => List.not_mem_nil) (not_registers fun _ => by simp) fun d' tab => ?_
    simp only [Background.step] at taken
    split at taken <;> cases taken
    rw [World.revokeGroupsRead,revokeNext_state]
  | storeFailed k =>
    refine counted.idle ok taken (fun _ _ _ _ => List.not_mem_nil) (not_registers fun _ => by simp) fun d' tab => ?_
    simp only [Background.step] at taken
    split at taken <;> cases taken
    rfl

theorem counted_init (tame : Tame R) : Counted R init := by
  intro d tab
  have none : liveOf init d tab = ∅ := by
    refine Finset.eq_empty_of_forall_notMem fun key member => ?_
    obtain ⟨_,o,alive,_⟩ := mem_liveOf.mp member
    cases (AList.lookup_empty (key.1,key.2)).symm.trans alive.registered
  rw [none]
  exact tame.zero

/-- In a settled state every registered session is live. -/
theorem card_liveOf (rest : settled w = true) : (liveOf w d tab).card = (sessionsOf w d tab).length := by
  have all : (sessionsOf w d tab).filter (fun key => !ending w key.1 key.2) = sessionsOf w d tab :=
    List.filter_eq_self.mpr fun key _ => by rw [ending_settled rest]; rfl
  rw [liveOf,all]
  exact List.toFinset_card_of_nodup (collectDeviceSessions_nodup _)

theorem accounted (ok : Sound b w) (counted : Counted (· = ·) w) : Accounted w := by
  intro rest d tab
  have count := (counted d tab).trans (card_liveOf rest)
  cases found : w.state.deviceTabMap.lookup (d,tab) with
  | none =>
    rw [BgState.opens,found] at count
    rw [if_pos (List.length_eq_zero_iff.mp count.symm)]
  | some n =>
    rw [BgState.opens,found] at count
    have positive : sessionsOf w d tab ≠ [] := by
      intro none
      rw [none] at count
      exact ok.noZero (d,tab) (found.trans (congrArg some count))
    rw [if_neg positive]
    exact congrArg some count

theorem sparesOthers (ok : Sound b w) {a : Action} (taken : step b w a = some w') (before : Counted (· = ·) w)
    (after : Counted (· = ·) w') : SparesOthers b w a w' := by
  intro d t o alive uncollected
  have still : Live w' d t o := (step_live ok taken).mpr (Or.inl ⟨alive,uncollected⟩)
  refine ⟨still,?_,?_⟩
  · rw [BgState.isTabAuthorizedForDevice,after d o.tabId]
    exact decide_eq_true (Finset.card_pos.mpr ⟨(d,t),mem_liveOf.mpr ⟨rfl,o,still,rfl⟩⟩)
  · rw [before d o.tabId,after d o.tabId]
    refine Nat.le_trans (Finset.card_le_card fun key member => ?_) (Finset.card_union_le _ _)
    obtain ⟨device,o',alive',same⟩ := mem_liveOf.mp member
    by_cases taken' : key ∈ collected b w a
    · exact Finset.mem_union_right _ (Finset.mem_filter.mpr ⟨member,taken'⟩)
    · exact Finset.mem_union_left _ (mem_liveOf.mpr ⟨device,o',(step_live ok taken).mpr (Or.inl ⟨alive',taken'⟩),same⟩)

/-! ### Runs -/

/-- In every run in which each session is taken off the count once, the count of each
    device and tab is the number of its sessions whenever everything has settled, and
    no step takes away the authorization of a session that it does not close. -/
theorem counts_match {trace : List Action} (run : exec (step b) init trace = some w)
    (keeps : AllSteps (step b) (fun s a _ => disciplined b s a = true) init trace) :
    Accounted w ∧ AllSteps (step b) (SparesOthers b) init trace := by
  have preserved (s : World) (a : Action) (s' : World) (inv : Sound b s ∧ Counted (· = ·) s)
      (taken : step b s a = some s') (fine : disciplined b s a = true) : Sound b s' ∧ Counted (· = ·) s' := by
    obtain ⟨first,spared⟩ := Bool.and_eq_true_iff.mp fine
    exact ⟨step_sound inv.1 taken,inv.2.step tame_eq inv.1 taken (Or.inr first) (Or.inr spared)⟩
  have start : Sound b init ∧ Counted (· = ·) init := ⟨Sound.init b,counted_init tame_eq⟩
  constructor
  · obtain ⟨ok,counted⟩ := exec_invariant_under (I := fun w => Sound b w ∧ Counted (· = ·) w) preserved start run keeps
    exact accounted ok counted
  · refine allSteps_under preserved (fun s a s' inv taken fine => ?_) start keeps
    exact sparesOthers inv.1 taken inv.2 (preserved s a s' inv taken fine).2

end

/-- The first frame closes its session and is destroyed before the close is answered. -/
def closingAndPurged : List Action :=
  bothOpen ++ [.closeRequest (frameWindow 1) 7 "first",.frameDestroyed (frameWindow 1).frame]

/-- Then both closes are answered. -/
def closedAndPurged : List Action := closingAndPurged ++ [.answer 3 ⟨200,0,""⟩,.answer 4 ⟨200,0,""⟩]

/-- The close and the purge of one session both take an open off the tab: when
    everything has settled, the session of the second frame is registered and the tab
    has no open, and the answer to the close took it. -/
theorem close_and_purge_count_twice :
    (∃ w, exec (step oneTab) init closedAndPurged = some w ∧ ¬ Accounted w) ∧
    ¬ AllSteps (step oneTab) (SparesOthers oneTab) init closedAndPurged := by
  constructor
  · obtain ⟨w,run⟩ := Option.isSome_iff_exists.mp
      (by decide : (exec (step oneTab) init closedAndPurged).isSome = true)
    refine ⟨w,run,fun accounted => ?_⟩
    have facts : (exec (step oneTab) init closedAndPurged).map (fun w =>
        (settled w,w.state.deviceTabMap.lookup (7,1),sessionsOf w 7 1)) = some (true,none,[(7,"second")]) := by decide
    rw [run] at facts
    obtain ⟨rest,count,sessions⟩ : settled w = true ∧ w.state.deviceTabMap.lookup (7,1) = none ∧
      sessionsOf w 7 1 = [(7,"second")] := by simpa using facts
    have counted := accounted rest 7 1
    rw [count,sessions] at counted
    cases counted
  · intro all
    obtain ⟨w,run⟩ := Option.isSome_iff_exists.mp
      (by decide : (exec (step oneTab) init closingAndPurged).isSome = true)
    have session : (exec (step oneTab) init closingAndPurged).map (fun w =>
        (ownerOf w 7 "second",ending w 7 "second",collected oneTab w (.answer 3 ⟨200,0,""⟩))) =
        some (some ⟨1,"https://example.org",⟨"bridge-a",2⟩,"bridge-a","window",3⟩,false,[(7,"first")]) := by decide
    have answered : (exec (step oneTab) init closingAndPurged).bind (fun w =>
        (step oneTab w (.answer 3 ⟨200,0,""⟩)).map fun w' => w'.state.isTabAuthorizedForDevice 1 7) =
        some false := by decide
    rw [run] at session answered
    obtain ⟨w',taken,refused⟩ := Option.map_eq_some_iff.mp answered
    simp only [Option.map_some,Option.some.injEq,Prod.mk.injEq] at session
    obtain ⟨registered,kept,collects⟩ := session
    have spared := all.at run taken 7 "second" _ ⟨registered,kept⟩ (by rw [collects]; decide)
    rw [refused] at spared
    cases spared.2.1

/-- A frame opens the device and is destroyed. -/
theorem counts_match_purged : ∃ w,
    exec (step oneTab) init (bothOpen ++ [.frameDestroyed (frameWindow 1).frame,.answer 3 ⟨404,0,""⟩]) = some w ∧
    settled w = true ∧ w.state.deviceTabMap.lookup (7,1) = some 1 ∧ Accounted w := by
  obtain ⟨w,run⟩ := Option.isSome_iff_exists.mp (by decide : (exec (step oneTab) init
    (bothOpen ++ [.frameDestroyed (frameWindow 1).frame,.answer 3 ⟨404,0,""⟩])).isSome = true)
  have facts : (exec (step oneTab) init (bothOpen ++ [.frameDestroyed (frameWindow 1).frame,.answer 3 ⟨404,0,""⟩])).map
      (fun w => (settled w,w.state.deviceTabMap.lookup (7,1))) = some (true,some 1) := by decide
  rw [run] at facts
  simp only [Option.map_some,Option.some.injEq,Prod.mk.injEq] at facts
  exact ⟨w,run,facts.1,facts.2,(counts_match run (allSteps_of_checkAll (by decide))).1⟩

end FFWebHid.TabCounts
