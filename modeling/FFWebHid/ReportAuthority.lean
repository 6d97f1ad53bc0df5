import FFWebHid.Maps
import FFWebHid.Runs
import FFWebHid.StateOps
import FFWebHid.Background
import FFWebHid.Bookkeeping
import FFWebHid.LiveSessions
import FFWebHid.TabCounts
import FFWebHid.PageMessages

/-!
Which reports of a page reach the native host. The bridge does not check them, and the
background checks the count of the tab, not the session of the frame: a frame that
shares its tab with a session of another frame or origin passes. A frame that has its
own session, or a tab without any, shows nothing of it.
-/
namespace FFWebHid.ReportAuthority
open FFWebHid.Maps FFWebHid.Runs FFWebHid.StateOps FFWebHid.Background FFWebHid.Bookkeeping FFWebHid.LiveSessions
open FFWebHid.TabCounts FFWebHid.PageMessages

/-- The origin of the client has the grant, and a client of its frame has a live session. -/
def Authorised (b : Browser) (w : World) (client : Client) (d : DeviceId) : Prop :=
  (b.origin client,d) ∈ w.allowed ∧ ∃ t o, Live w d t o ∧ o.frameKey = client.frame

/-- Each report that the step sends to the native host is a message of a client that
    is authorised. -/
def ReportsAuthorised (b : Browser) (s : Addon) (e : Event) (s' : Addon) : Prop :=
  ∀ n op d, s'.world.inFlight.lookup n = some (.report op d) → s.world.inFlight.lookup n = some (.report op d) ∨
    ∃ i client, e = .deliver i ∧ s.sent[i]? = some (.report client op d) ∧ Authorised b s.world client d

/-- Whether a revocation under way will close the session. -/
def due (w : World) (d : DeviceId) (t : Token) : Bool := (values w.pending).any fun c =>
  match c with
  | .cleaned _ _ _ (some rev) => rev.deviceId == d && rev.tokens.contains t
  | _ => false

/-- Nothing closes the session or is about to. -/
def undisturbed (w : World) (key : DeviceId × Token) : Bool := !ending w key.1 key.2 && !due w key.1 key.2

/-- The frame has a session on the device in its own right if anybody in its tab has one. -/
def inOwnRight (b : Browser) (w : World) (client : Client) (d : DeviceId) : Bool :=
  (sessionsOf w d (b.tab client)).all (fun key => ending w key.1 key.2) ||
    (w.state.collectDeviceSessions fun d' o => d' == d && o.frameKey == client.frame).any (undisturbed w)

/-- Every report that is delivered comes from a frame with a session of its own, where
    the tab has any, and no live session is cleaned up behind its tab's back. -/
def orderly (b : Browser) (s : Addon) : Event → Bool
  | .deliver i =>
    match s.sent[i]? with
    | some (.report client _ d) => inOwnRight b s.world client d
    | some a => sparesLive s.world a
    | none => true
  | .background a => sparesLive s.world a
  | _ => true

/-- The second half alone: no live session is cleaned up behind its tab's back. -/
def spares (s : Addon) : Event → Bool
  | .deliver i => (s.sent[i]?).all (sparesLive s.world)
  | .background a => sparesLive s.world a
  | _ => true

/-- Some frame of the client's tab has a live session on the device, and its origin the
    grant, unless a revocation under way is about to close the session. -/
def TabAuthorised (b : Browser) (w : World) (client : Client) (d : DeviceId) : Prop :=
  ∃ t o, Live w d t o ∧ o.tabId = b.tab client ∧ ((o.origin,d) ∈ w.allowed ∨ Due w d t)

/-- Each report that the step sends to the native host is a message of a client of a
    tab that is authorised. -/
def ReportsOfTabs (b : Browser) (s : Addon) (e : Event) (s' : Addon) : Prop :=
  ∀ n op d, s'.world.inFlight.lookup n = some (.report op d) → s.world.inFlight.lookup n = some (.report op d) ∨
    ∃ i client, e = .deliver i ∧ s.sent[i]? = some (.report client op d) ∧ TabAuthorised b s.world client d

section
variable {b : Browser} {w w' w'' : World} {d : DeviceId} {t : Token} {client : Client} {P : NmRequest → Prop}

theorem due_iff : due w d t = true ↔ Due w d t := by
  rw [due,List.any_eq_true]
  constructor
  · rintro ⟨c,member,here⟩
    obtain ⟨n,waiting⟩ := mem_values.mp member
    split at here
    · next d' t' own rev =>
      obtain ⟨device,among⟩ := Bool.and_eq_true_iff.mp here
      exact ⟨n,d',t',own,rev,waiting,beq_iff_eq.mp device,List.contains_iff_mem.mp among⟩
    · cases here
  · rintro ⟨n,d',t',own,rev,waiting,device,among⟩
    have here := Bool.and_eq_true_iff.mpr ⟨beq_iff_eq.mpr device,List.contains_iff_mem.mpr among⟩
    exact ⟨_,mem_values.mpr ⟨n,waiting⟩,here⟩

/-- The requests that are new in flight are all of `P`. -/
def Sends (P : NmRequest → Prop) (w w' : World) : Prop :=
  ∀ n q, w'.inFlight.lookup n = some q → w.inFlight.lookup n = some q ∨ P q

theorem Sends.of_same (same : w'.inFlight = w.inFlight) : Sends P w w' := fun _ _ found => Or.inl (same ▸ found)

theorem Sends.trans (first : Sends P w w') (second : Sends P w' w'') : Sends P w w'' :=
  fun n q found => (second n q found).elim (first n q) Or.inr

theorem Sends.sendFrame {c : Continuation} (sent : P c.request) : Sends P w (w.sendFrame c) := by
  intro n q found
  rw [World.sendFrame,lookup_insert_eq] at found
  split_ifs at found
  · cases found; exact Or.inr sent
  · exact Or.inl found

/-- A request to open or close. -/
def Plain (q : NmRequest) : Prop := ∀ op d, q ≠ .report op d

theorem plain_open : Plain (.openDevice d) := fun _ _ => by simp

theorem plain_close : Plain (.closeDevice d t) := fun _ _ => by simp

theorem sends_closeForCleanup {rest : Option Revocation} : Sends Plain w (w.closeForCleanup d t rest) :=
  .sendFrame plain_close

theorem sends_closeAll {before : BgState → DeviceId × Token → BgState} (keys : List (DeviceId × Token)) (w : World) :
    Sends Plain w (w.closeAll before keys) := by
  induction keys generalizing w with
  | nil => exact .of_same rfl
  | cons key rest ih =>
    have state : Sends Plain w { w with state := before w.state key } := .of_same rfl
    exact (state.trans sends_closeForCleanup).trans (ih (w.closeNext before key))

theorem sends_revokeNext {origin : Origin} {call : RevokeCall} {devices : List DeviceId} :
    Sends Plain w (w.revokeNext origin call devices) := by
  cases devices <;> exact .of_same rfl

theorem sends_revokeTokens {rev : Revocation} : Sends Plain w (w.revokeTokens rev) := by
  obtain ⟨origin,d,tokens,devices,call⟩ := rev
  cases tokens with
  | nil => exact sends_revokeNext
  | cons t tokens =>
    have state : Sends Plain w { w with state := w.state.unregisterOwnerTab d t } := .of_same rfl
    exact state.trans sends_closeForCleanup

theorem sends_cleanupSettled {own : Option Owner} {rest : Option Revocation} {gone : Bool} :
    Sends Plain w (w.cleanupSettled d t own rest gone) := by
  have done : Sends Plain w (w.cleanupDone d t own gone) := by cases gone <;> exact .of_same rfl
  cases rest with
  | none => exact done
  | some rev => exact done.trans sends_revokeTokens

theorem sends_openRechecked {r : NmResponse} {k : Nat} : Sends Plain w (w.openRechecked b client d r k) := by
  have discarded : Sends Plain w (if r.t = "" then w else w.closeForCleanup r.i r.t none) := by
    split_ifs
    · exact .of_same rfl
    · exact sends_closeForCleanup
  simp only [World.openRechecked]
  split
  · split
    · exact .of_same rfl
    · split
      · exact sends_closeForCleanup
      · exact .of_same rfl
  · exact discarded

theorem sends_resolve {response : NmResponse} (c : Continuation) : Sends Plain w (w.resolve b response c) := by
  cases c with
  | opened client d =>
    show Sends Plain w (w.openAnswered client d response)
    unfold World.openAnswered
    split_ifs <;> exact .of_same rfl
  | cleaned d t own rest => exact sends_cleanupSettled
  | closed client d t =>
    show Sends Plain w (w.closeAnswered b client d t response)
    unfold World.closeAnswered
    split_ifs <;> exact .of_same rfl
  | reported client op d => exact .of_same rfl

theorem sends_reject (c : Continuation) : Sends Plain w (w.reject c) := by
  cases c with
  | cleaned d t own rest => exact sends_cleanupSettled
  | opened client d => exact .of_same rfl
  | closed client d t => exact .of_same rfl
  | reported client op d => exact .of_same rfl

theorem sends_forgetFlight (w : World) (n : Nat) :
    Sends P w { w with inFlight := w.inFlight.erase n, pending := w.pending.erase n } := by
  intro m q found
  rw [lookup_erase_eq] at found
  split_ifs at found
  exact Or.inl found

theorem record_inFlight (response : NmResponse) (q : NmRequest) : (w.record response q).inFlight = w.inFlight := by
  cases q with
  | openDevice d => simp only [World.record]; split_ifs <;> rfl
  | closeDevice d t => rfl
  | report op d => rfl

/-- Only a message that asks for a report sends one. -/
theorem step_sends {a : Action} (taken : Background.step b w a = some w')
    (other : ∀ client op d, a ≠ .report client op d) : Sends Plain w w' := by
  cases a with
  | openRequest client d =>
    cases taken
    unfold World.handleOpen
    split <;> exact .of_same rfl
  | closeRequest client d t =>
    cases taken
    unfold World.handleClose
    split_ifs
    · exact .sendFrame plain_close
    · exact .of_same rfl
  | cleanupSession d t =>
    simp only [Background.step] at taken
    split_ifs at taken
    cases taken
    have named : Sends Plain w { w with known := t :: w.known } := .of_same rfl
    exact named.trans sends_closeForCleanup
  | frameDestroyed frame => cases taken; exact sends_closeAll _ { w with state := _ }
  | bridgeGone bridge => cases taken; exact sends_closeAll _ { w with state := _ }
  | tabRemoved tab => cases taken; exact sends_closeAll _ { w with state := _ }
  | revokeRequest origin targetIds =>
    cases taken
    unfold World.handleRevokeDevice
    split_ifs <;> exact .of_same rfl
  | retryOrphans => cases taken; exact sends_closeAll _ w
  | pair origin d => cases taken; exact .of_same rfl
  | report client op d => exact absurd rfl (other client op d)
  | answer n response =>
    simp only [Background.step] at taken
    split at taken
    · cases taken
    · next q flying =>
      split_ifs at taken
      have received := (sends_forgetFlight (P := Plain) w n).trans (.of_same (record_inFlight response q))
      split at taken
      · cases taken; exact received
      · next c waiting => cases taken; exact received.trans (sends_resolve c)
  | timeout n =>
    simp only [Background.step] at taken
    split at taken
    · cases taken
    · next c waiting =>
      cases taken
      have forgotten : Sends Plain w { w with pending := w.pending.erase n } := .of_same rfl
      exact forgotten.trans (sends_reject c)
  | stored k =>
    obtain ⟨wait,found,ended⟩ := Option.bind_eq_some_iff.mp taken
    have forgotten : Sends Plain w { w with store := w.store.erase k } := .of_same rfl
    cases wait with
    | openLookup client d =>
      cases ended
      refine forgotten.trans ?_
      unfold World.openLookedUp
      split_ifs
      · exact .sendFrame plain_open
      · exact .of_same rfl
    | openRecheck client d r => cases ended; exact forgotten.trans sends_openRechecked
    | revokeGroups origin targetIds => cases ended
    | revokeRemove origin d rest call =>
      cases ended
      have removed : Sends Plain { w with store := w.store.erase k }
        { w with store := w.store.erase k, allowed := w.allowed.erase (origin,d) } := .of_same rfl
      exact (forgotten.trans removed).trans sends_revokeTokens
    | revokeFinish origin call => cases ended; exact forgotten
  | groupsRead k groups =>
    simp only [Background.step] at taken
    split at taken
    · cases taken
      have forgotten : Sends Plain w { w with store := w.store.erase k } := .of_same rfl
      exact forgotten.trans sends_revokeNext
    · cases taken
  | storeFailed k =>
    simp only [Background.step] at taken
    split at taken
    · cases taken
    · cases taken
    · cases taken; exact .of_same rfl

/-! ### Reports -/

theorem undisturbed_live {o : Owner} (registered : ownerOf w d t = some o) (still : undisturbed w (d,t) = true) :
    Live w d t o ∧ ¬ Due w d t := by
  obtain ⟨kept,stays⟩ := Bool.and_eq_true_iff.mp still
  exact ⟨⟨registered,Bool.not_eq_true' _ |>.mp kept⟩,fun isDue => by rw [due_iff.mpr isDue] at stays; cases stays⟩

/-- A tab with a count has a live session. -/
theorem live_of_authorized {tab : TabId} (counted : Counted (· ≤ ·) w)
    (authorized : w.state.isTabAuthorizedForDevice tab d = true) : ∃ key, key ∈ liveOf w d tab :=
  Finset.card_pos.mp (Nat.lt_of_lt_of_le (of_decide_eq_true authorized) (counted d tab))

theorem tabAuthorised (standing : Standing w) (counted : Counted (· ≤ ·) w)
    (passes : w.state.isTabAuthorizedForDevice (b.tab client) d = true) : TabAuthorised b w client d := by
  obtain ⟨⟨d',t⟩,member⟩ := live_of_authorized counted passes
  obtain ⟨rfl,o,live,tab⟩ := mem_liveOf.mp member
  exact ⟨t,o,live,tab,standing.granted d' t o live⟩

/-- In its own right, a frame that passes the count is authorised. -/
theorem authorised (ok : Sound b w) (standing : Standing w) (counted : Counted (· ≤ ·) w)
    (passes : w.state.isTabAuthorizedForDevice (b.tab client) d = true) (own : inOwnRight b w client d = true) :
    Authorised b w client d := by
  obtain ⟨key,member⟩ := live_of_authorized counted passes
  obtain ⟨registered,kept⟩ := List.mem_filter.mp (List.mem_toFinset.mp member)
  have ofFrame := ((Bool.or_eq_true_iff).mp own).resolve_left fun none => by
    simp [List.all_eq_true.mp none key registered] at kept
  obtain ⟨⟨d',t⟩,member,still⟩ := List.any_eq_true.mp ofFrame
  obtain ⟨o,found,same⟩ := mem_collectDeviceSessions.mp member
  obtain ⟨device,frame⟩ : d' = d ∧ o.frameKey = client.frame := by simpa using same
  subst device
  obtain ⟨live,stays⟩ := undisturbed_live found still
  have origin : o.origin = b.origin client := by
    rw [(ok.sessions d' t o live.registered).2.2.origin,frame]
    rfl
  exact ⟨origin ▸ (standing.granted d' t o live).resolve_right stays,t,o,live,frame⟩

/-- What holds of the background in every run that never cleans up a live session. -/
structure Kept (b : Browser) (w : World) : Prop where
  sound : Sound b w
  standing : Standing w
  counted : Counted (· ≤ ·) w

theorem Kept.init : Kept b Background.init := ⟨Sound.init b,standing_init,counted_init tame_le⟩

theorem Kept.step (kept : Kept b w) {a : Action} (taken : Background.step b w a = some w')
    (spared : sparesLive w a = true) : Kept b w' :=
  ⟨step_sound kept.sound taken,step_standing kept.sound kept.standing taken,
    kept.counted.step tame_le kept.sound taken (Or.inl fun _ _ le => Nat.le_trans (Nat.sub_le _ _) le) (Or.inr spared)⟩

end

section
variable {b : Browser} {s s' : Addon}

/-- Every step of the add-on is one of the background, or does not concern it. -/
theorem step_world {e : Event} (taken : PageMessages.step b s e = some s') : s'.world = s.world ∨
    ∃ a, Background.step b s.world a = some s'.world ∧
      (e = .background a ∧ unasked a = true ∨ ∃ i, e = .deliver i ∧ s.sent[i]? = some a) := by
  cases e with
  | post client reserved message =>
    cases taken
    refine Or.inl ?_
    unfold Addon.handleRequest Addon.handleGenericRequest
    split_ifs <;> rfl
  | openAllowed client d =>
    simp only [PageMessages.step] at taken
    split_ifs at taken <;> cases taken <;> exact Or.inl rfl
  | dataPort client d =>
    simp only [PageMessages.step] at taken
    split_ifs at taken <;> cases taken <;> exact Or.inl rfl
  | dataMessage client d type =>
    simp only [PageMessages.step] at taken
    split_ifs at taken
    cases taken
    exact Or.inl rfl
  | loadAllowed bridge origin => cases taken; exact Or.inl rfl
  | deliver i =>
    simp only [PageMessages.step] at taken
    split at taken
    · cases taken
    · next a found =>
      obtain ⟨world,stepped,rfl⟩ := Option.map_eq_some_iff.mp taken
      exact Or.inr ⟨a,stepped,Or.inr ⟨i,rfl,found⟩⟩
  | background a =>
    simp only [PageMessages.step] at taken
    split_ifs at taken with free
    obtain ⟨world,stepped,rfl⟩ := Option.map_eq_some_iff.mp taken
    exact Or.inr ⟨a,stepped,Or.inl ⟨rfl,free⟩⟩

theorem orderly_spares {e : Event} (fine : orderly b s e = true) : spares s e = true := by
  cases e with
  | deliver i =>
    simp only [orderly] at fine
    simp only [spares]
    split at fine
    · next found => rw [found]; rfl
    · next found => rw [found]; exact fine
    · next found => rw [found]; rfl
  | background a => exact fine
  | post _ _ _ | openAllowed _ _ | dataPort _ _ | dataMessage _ _ _ | loadAllowed _ _ => rfl

theorem step_kept {e : Event} (kept : Kept b s.world) (taken : PageMessages.step b s e = some s')
    (fine : spares s e = true) : Kept b s'.world := by
  rcases step_world taken with same | ⟨a,stepped,⟨rfl,_⟩ | ⟨i,rfl,found⟩⟩
  · exact same ▸ kept
  · exact kept.step stepped fine
  · simp only [spares,found,Option.all_some] at fine
    exact kept.step stepped fine

/-- A report that is sent is delivered to the background and passes the check of the tab. -/
theorem step_forwards {e : Event} (taken : PageMessages.step b s e = some s') {n : Nat} {op : ReportOp} {d : DeviceId}
    (found : s'.world.inFlight.lookup n = some (.report op d)) : s.world.inFlight.lookup n = some (.report op d) ∨
      ∃ i client, e = .deliver i ∧ s.sent[i]? = some (.report client op d) ∧
        s.world.state.isTabAuthorizedForDevice (b.tab client) d = true := by
  rcases step_world taken with same | ⟨a,stepped,cause⟩
  · exact Or.inl (same ▸ found)
  by_cases report : ∃ client op d, a = .report client op d
  · obtain ⟨client,op',d',rfl⟩ := report
    rcases cause with ⟨_,free⟩ | ⟨i,rfl,waiting⟩
    · cases free
    have sent : World.handleReport b s.world client op' d' = s'.world := Option.some.inj stepped
    unfold World.handleReport at sent
    split_ifs at sent with passes
    · rw [← sent] at found
      rcases Sends.sendFrame (P := (· = .report op' d')) rfl n _ found with before | same
      · exact Or.inl before
      · cases same
        exact Or.inr ⟨i,client,rfl,waiting,passes⟩
    · exact Or.inl (sent ▸ found)
  · have other (client : Client) (op : ReportOp) (d : DeviceId) : a ≠ .report client op d :=
      fun same => report ⟨client,op,d,same⟩
    exact Or.inl ((step_sends stepped other n _ found).resolve_right fun plain => plain op d rfl)

theorem step_reports {e : Event} (kept : Kept b s.world) (taken : PageMessages.step b s e = some s')
    (fine : orderly b s e = true) : ReportsAuthorised b s e s' := by
  intro n op d found
  refine (step_forwards taken found).imp_right ?_
  rintro ⟨i,client,rfl,waiting,passes⟩
  simp only [orderly,waiting] at fine
  exact ⟨i,client,rfl,waiting,authorised kept.sound kept.standing kept.counted passes fine⟩

/-- In every run that never cleans up a live session, every report that reaches the
    native host comes from a tab with a live session on the device: this is what the
    check of the background gives by itself, whichever frame of the tab asks. -/
theorem reports_of_tabs {trace : List Event}
    (keeps : AllSteps (PageMessages.step b) (fun s e _ => spares s e = true) PageMessages.init trace) :
    AllSteps (PageMessages.step b) (ReportsOfTabs b) PageMessages.init trace := by
  refine allSteps_under (I := fun s => Kept b s.world) (fun _ _ _ kept taken fine => step_kept kept taken fine)
    ?_ Kept.init keeps
  intro s e s' kept taken _ n op d found
  refine (step_forwards taken found).imp_right ?_
  rintro ⟨i,client,same,waiting,passes⟩
  exact ⟨i,client,same,waiting,tabAuthorised kept.standing kept.counted passes⟩

/-- In every run in which reports come from frames with sessions of their own, every
    report that reaches the native host is authorised. -/
theorem reports_authorised {trace : List Event}
    (keeps : AllSteps (PageMessages.step b) (fun s e _ => orderly b s e = true) PageMessages.init trace) :
    AllSteps (PageMessages.step b) (ReportsAuthorised b) PageMessages.init trace :=
  allSteps_under (I := fun s => Kept b s.world)
    (fun _ _ _ kept taken fine => step_kept kept taken (orderly_spares fine))
    (fun _ _ _ kept taken fine => step_reports kept taken fine) Kept.init keeps

end

/-- The second frame of the bridge is an advertisement. -/
def twoOrigins : Browser :=
  ⟨fun _ => 1,fun frame => if frame.generation = 2 then "https://ads.example" else "https://example.org"⟩

/-- The first frame opens device 7, with a grant of its origin. -/
def firstOpens : List Event :=
  [.background (.pair "https://example.org" 7),.loadAllowed "bridge-a" "https://example.org",
    .post (frameWindow 1) "" { action := "open", payload := { deviceId := 7 } },.openAllowed (frameWindow 1) 7,
    .deliver 0,.background (.stored 0),.background (.answer 1 ⟨200,7,"first"⟩),.background (.stored 1)]

/-- Then the advertisement posts a report for it. -/
def advertisementReports : List Event :=
  firstOpens ++ [.post (frameWindow 2) "" { action := "sendReport", payload := { deviceId := 7 } }]

theorem sibling_origin_reports : ¬ AllSteps (PageMessages.step twoOrigins) (ReportsAuthorised twoOrigins)
    PageMessages.init (advertisementReports ++ [.deliver 0]) := by
  intro all
  obtain ⟨s,run⟩ := Option.isSome_iff_exists.mp
    (by decide : (exec (PageMessages.step twoOrigins) PageMessages.init advertisementReports).isSome = true)
  have before : (exec (PageMessages.step twoOrigins) PageMessages.init advertisementReports).map (fun s =>
      (s.sent,s.world.inFlight.lookup 2,decide (("https://ads.example",7) ∈ s.world.allowed))) =
      some ([.report (frameWindow 2) .sendReport 7],none,false) := by decide
  have delivered : (exec (PageMessages.step twoOrigins) PageMessages.init advertisementReports).bind (fun s =>
      (PageMessages.step twoOrigins s (.deliver 0)).map fun s' => s'.world.inFlight.lookup 2) =
      some (some (.report .sendReport 7)) := by decide
  rw [run] at before delivered
  obtain ⟨s',taken,sent⟩ := Option.map_eq_some_iff.mp delivered
  simp only [Option.map_some,Option.some.injEq,Prod.mk.injEq] at before
  obtain ⟨waiting,free,ungranted⟩ := before
  rcases all.at run taken 2 .sendReport 7 sent with already | ⟨i,client,same,found,granted,_⟩
  · rw [free] at already; cases already
  · cases same
    rw [waiting] at found
    cases found
    exact absurd granted (of_decide_eq_false ungranted)

/-- The first frame itself posts a report, and asks for another on a data port. -/
def frameReports : List Event :=
  firstOpens ++ [.dataPort (frameWindow 1) 7,
    .post (frameWindow 1) "" { action := "sendReport", payload := { deviceId := 7 } },
    .dataMessage (frameWindow 1) 7 "receiveFeature",.deliver 1,.deliver 0]

theorem reports_authorised_own : ∃ s : Addon,
    exec (PageMessages.step twoOrigins) PageMessages.init frameReports = some s ∧
    s.world.inFlight.lookup 2 = some (.report .receiveFeatureReport 7) ∧
    s.world.inFlight.lookup 3 = some (.report .sendReport 7) ∧
    AllSteps (PageMessages.step twoOrigins) (ReportsAuthorised twoOrigins) PageMessages.init frameReports := by
  obtain ⟨s,run⟩ := Option.isSome_iff_exists.mp
    (by decide : (exec (PageMessages.step twoOrigins) PageMessages.init frameReports).isSome = true)
  have facts : (exec (PageMessages.step twoOrigins) PageMessages.init frameReports).map (fun s =>
      (s.world.inFlight.lookup 2,s.world.inFlight.lookup 3)) =
      some (some (.report .receiveFeatureReport 7),some (.report .sendReport 7)) := by decide
  rw [run] at facts
  simp only [Option.map_some,Option.some.injEq,Prod.mk.injEq] at facts
  exact ⟨s,run,facts.1,facts.2,reports_authorised (allSteps_of_checkAll (by decide))⟩

end FFWebHid.ReportAuthority
