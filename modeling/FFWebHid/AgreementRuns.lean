import FFWebHid.Maps
import FFWebHid.Runs
import FFWebHid.StateOps
import FFWebHid.Background
import FFWebHid.Bookkeeping
import FFWebHid.LiveSessions
import FFWebHid.Effects
import FFWebHid.AuthorityLifetimes
import FFWebHid.Revocations
import FFWebHid.Callers
import FFWebHid.BridgeSessions
import FFWebHid.SessionAgreement

/-!
The background works on while the bridge keeps its sessions. A session that the background
takes from a client of the bridge is due there; a session that it registers for one is on
its way with the answer of the open. With the steps of the bridge itself this gives the
agreement of the two in every run that is orderly.
-/
namespace FFWebHid.AgreementRuns
open FFWebHid.Maps FFWebHid.Runs FFWebHid.StateOps FFWebHid.Bookkeeping FFWebHid.Effects FFWebHid.Callers
open FFWebHid.Background hiding World Action step init
open FFWebHid.LiveSessions hiding settled
open FFWebHid.Revocations hiding Stage
open FFWebHid.AuthorityLifetimes (clearDeviceOwnership_owner deviceGone_sound)
open FFWebHid.BridgeSessions FFWebHid.SessionAgreement

section
variable {b : Browser} {bridge : String} {w : World} {bg bg' : Background.World} {a : Background.Action} {c : Client}
  {d : DeviceId} {t : Token}

theorem registers_iff (ok : Sound b bg) {k : Nat} {r : NmResponse} (held : bg.store.lookup k = some (.openRecheck c d r)) :
    World.registers b bg c d r = true ↔ (b.origin c,d) ∈ bg.allowed ∧
      bg.state.isFrameLifetimeActive (b.tab c) c.frame = true ∧ d ≠ 0 ∧ b.origin c ≠ "" := by
  obtain ⟨device,issued⟩ := ok.rechecks k c d r held
  have nonempty := (ok.issued d r.t issued).2
  rw [World.registers,Bool.and_eq_true,Bool.and_eq_true,decide_eq_true_eq,and_assoc]
  refine and_congr_right fun _ => and_congr_right fun active => ?_
  rw [registerDeviceSession_active active,device]
  split_ifs with falsy
  · simp only [Option.isSome_none,Bool.false_eq_true,false_iff]
    rintro ⟨nonzero,origin⟩
    exact falsy.elim nonzero fun rest => rest.elim nonempty origin
  · simp only [Option.isSome_some,true_iff]
    exact ⟨fun zero => falsy (.inl zero),fun empty => falsy (.inr (.inr empty))⟩

/-- A session that is live after a step was live before, or its open has registered it. -/
theorem liveFor_step (ok : Sound b bg) (taken : Background.step b bg a = some bg') (alive : LiveFor bg' c d t) :
    LiveFor bg c d t ∧ (d,t) ∉ collected b bg a ∨ ∃ k r, a = .stored k ∧
      bg.store.lookup k = some (.openRecheck c d r) ∧ World.registers b bg c d r = true ∧ r.t = t := by
  obtain ⟨o,alive,frame,key⟩ := alive
  rcases (step_live ok taken).mp alive with ⟨before,kept⟩ | ⟨k,client,registers⟩
  · exact .inl ⟨⟨o,before,frame,key⟩,kept⟩
  · obtain ⟨r,held,token⟩ := registers.waits
    have same : client = c := by
      rw [registers.owner] at frame key
      cases client
      cases c
      cases frame
      cases key
      rfl
    subst same
    have passes := (registers_iff ok held).mpr ⟨registers.allowed,registers.active,registers.nonzero,registers.origin⟩
    exact .inr ⟨k,r,registers.action,held,passes,token⟩

theorem liveFor_kept (ok : Sound b bg) (taken : Background.step b bg a = some bg') (alive : LiveFor bg c d t) :
    LiveFor bg' c d t ∨ (d,t) ∈ collected b bg a := by
  obtain ⟨o,alive,owner⟩ := alive
  by_cases gone : (d,t) ∈ collected b bg a
  · exact .inr gone
  · exact .inl ⟨o,(step_live ok taken).mpr (.inl ⟨alive,gone⟩),owner⟩

/-- A token that was told is not registered again. -/
theorem dead_stays (ok : Sound b bg) (taken : Background.step b bg a = some bg') (told : Told bg t)
    (dead : ∀ o, ¬ Live bg d t o) (o : Owner) : ¬ Live bg' d t o := by
  intro alive
  rcases (step_live ok taken).mp alive with ⟨before,_⟩ | ⟨k,client,registers⟩
  · exact dead o before
  · obtain ⟨r,held,rfl⟩ := registers.waits
    exact held_untold held told

/-- The owner of a live session is its client. -/
theorem owner_of_live (ok : Sound b bg) {o : Owner} (alive : Live bg d t o) (frame : o.frameKey = c.frame) :
    o.tabId = b.tab c ∧ o.origin = b.origin c ∧ o.bridgeInstanceId = c.frame.bridgeInstanceId := by
  have owned := (ok.sessions d t o alive.registered).2.2
  exact ⟨by rw [owned.tab,frame,Browser.tab],by rw [owned.origin,frame,Browser.origin],by rw [owned.bridge,frame]⟩

/-- A request that settles takes the next session of a revocation, or the session whose
    own close was accepted. -/
theorem settled_ours (ok : Sound b bg) (listed : Listed bg) (owned : Owned bg) {n : Nat} {cont : Continuation}
    {accepted : Bool} (alive : LiveFor bg c d t) (waiting : bg.pending.lookup n = some cont)
    (gone : (d,t) ∈ settles accepted cont) :
    Revoking bg (b.origin c) d ∨ accepted = true ∧ callAt bg (.native n) = some (.closing c d t) := by
  obtain ⟨o,alive,frame,key⟩ := alive
  cases cont with
  | cleaned d' t' own rest =>
    cases rest with
    | none => cases gone
    | some rev =>
      refine .inl ?_
      obtain ⟨t₁,head,same⟩ := List.mem_map.mp gone
      cases same
      have member : t ∈ rev.tokens := List.mem_of_mem_take head
      have origin := ((ok.continuations n _ waiting).2.2 rev rfl t member).2 o alive.registered
      rw [← (owner_of_live ok alive frame).2.1,origin]
      have stands : At bg { Revocations.Stage.ofRevocation rev with
          closing := (d',t') :: (Revocations.Stage.ofRevocation rev).closing } := .inr ⟨n,_,waiting,rfl⟩
      exact ⟨_,stands,rfl,(listed _ stands).2 (rev.deviceId,t) (List.mem_cons_of_mem _ (List.mem_map.mpr ⟨t,member,rfl⟩))⟩
  | closed client d' t' =>
    cases accepted with
    | false => cases gone
    | true =>
      cases List.mem_singleton.mp gone
      have here : callAt bg (.native n) = some (.closing client d t) := closing_iff.mpr waiting
      obtain ⟨frame',key'⟩ := owned n client d t here
        (ok.issued d t (ok.sessions d t o alive.registered).1).2 o alive.registered
      have same : client = c := by
        cases client
        cases c
        cases frame'.symm.trans frame
        cases key'.symm.trans key
        rfl
      exact .inr ⟨rfl,same ▸ here⟩
  | opened client d' => cases gone
  | reported client op d' => cases gone

/-- What happens in the background without the bridge takes a session of its clients only
    for a revocation, or for a close that is accepted. -/
theorem collected_ours (ok : Accord b bridge w) (foreign : w.foreign b bridge a = true)
    (mine : c.frame.bridgeInstanceId = bridge) (alive : LiveFor w.background c d t)
    (gone : (d,t) ∈ collected b w.background a) :
    Revoking w.background (b.origin c) d ∨
      ∃ n r, a = .answer n r ∧ isOk r.s = true ∧ callAt w.background (.native n) = some (.closing c d t) := by
  obtain ⟨o,live,frame,key⟩ := id alive
  have owner := owner_of_live ok.sound live frame
  cases a with
  | cleanupSession d' t' =>
    cases List.mem_singleton.mp gone
    simp [World.foreign,ok.handed c d t mine alive] at foreign
  | frameDestroyed frame' =>
    obtain ⟨o',registered,_,same⟩ := mem_collectDeviceSessionsForFrame.mp gone
    cases Option.some.inj (live.registered.symm.trans registered)
    cases same.symm.trans frame
    simp [World.foreign,mine] at foreign
  | bridgeGone other =>
    obtain ⟨o',registered,_,same⟩ := mem_collectDeviceSessionsForBridge.mp gone
    cases Option.some.inj (live.registered.symm.trans registered)
    cases same.symm.trans (owner.2.2.trans mine)
    simp [World.foreign] at foreign
  | tabRemoved tab =>
    obtain ⟨o',registered,same⟩ := mem_collectDeviceSessionsForTab.mp gone
    cases Option.some.inj (live.registered.symm.trans registered)
    cases same.symm.trans owner.1
    simp [World.foreign,Browser.tab,mine] at foreign
  | retryOrphans =>
    have orphan := mem_orphanKeys.mp gone
    have none := (ok.sound.orphans t d orphan).2
    rw [live.registered] at none
    cases none
  | answer n r =>
    simp only [collected,released] at gone
    cases waiting : w.background.pending.lookup n with
    | none => rw [waiting] at gone; cases gone
    | some cont =>
      rw [waiting] at gone
      exact (settled_ours ok.sound ok.listed ok.owned alive waiting gone).imp_right fun own => ⟨n,r,rfl,own⟩
  | timeout n =>
    simp only [collected,released] at gone
    cases waiting : w.background.pending.lookup n with
    | none => rw [waiting] at gone; cases gone
    | some cont =>
      rw [waiting] at gone
      refine (settled_ours ok.sound ok.listed ok.owned alive waiting gone).imp_right fun own => ?_
      cases own.1
  | stored k =>
    simp only [collected,released] at gone
    split at gone
    · next origin d' rest call found =>
      obtain ⟨device,o',registered,same⟩ := mem_collectDeviceSessionsForOrigin.mp (List.mem_of_mem_take gone)
      cases Option.some.inj (live.registered.symm.trans registered)
      refine .inl ?_
      rw [← owner.2.1,same]
      have stands : At w.background ⟨origin,call,d' :: rest,[]⟩ := .inl ⟨k,_,found,rfl⟩
      exact ⟨_,stands,rfl,device ▸ (ok.listed _ stands).1 d' List.mem_cons_self⟩
    · cases gone
  | _ => cases gone

theorem follow_stage (job : Job) {p : Place} (free : takes a p = false) :
    World.follow b bg a job (Place.stage p) = Place.stage p := by
  cases p with
  | stored k =>
    have other : a ≠ .stored k := fun same => by simp [same,takes] at free
    have works : a ≠ .storeFailed k := fun same => by simp [same,takes] at free
    simp only [Place.stage,World.follow,if_neg other,if_neg works]
  | native n =>
    simp only [Place.stage,World.follow]
    split
    · exact if_neg fun same => by simp [same,takes] at free
    · exact if_neg fun same => by simp [same,takes] at free
    · rfl

theorem answer_cases {n : Nat} {r : NmResponse} {cont : Continuation} (waiting : bg.pending.lookup n = some cont)
    (taken : Background.step b bg (.answer n r) = some bg') :
    ∃ q, bg.inFlight.lookup n = some q ∧ bg.mayAnswer r q = true ∧ bg' =
      ({ bg with inFlight := bg.inFlight.erase n, pending := bg.pending.erase n }.record r q).resolve b r cont := by
  simp only [Background.step] at taken
  cases flying : bg.inFlight.lookup n with
  | none => rw [flying] at taken; cases taken
  | some q =>
    rw [flying] at taken
    dsimp only at taken
    split_ifs at taken with may
    rw [waiting] at taken
    cases taken
    exact ⟨q,rfl,may,rfl⟩

/-- A request that goes on in the background goes where its call goes. -/
theorem follow_stands (ok : Sound b bg) (taken : Background.step b bg a = some bg') {job : Job} {call : Call} {p : Place}
    {stage : Stage} (calls : Job.call job = some call) (here : ∀ p, stage = Place.stage p → callAt bg p = some call)
    (now : World.follow b bg a job stage = Place.stage p) : callAt bg' p = some call := by
  cases stage with
  | posted => cases p <;> cases now
  | discarding n =>
    cases p <;> simp only [World.follow,Place.stage] at now <;> split at now <;> (try split_ifs at now) <;> cases now
  | answered reply => cases p <;> cases now
  | stored k =>
    have before := here (.stored k) rfl
    obtain ⟨wait,found,waits⟩ := Option.bind_eq_some_iff.mp before
    by_cases ends : a = .stored k
    · subst ends
      obtain ⟨_,found',ran⟩ := Option.bind_eq_some_iff.mp taken
      cases Option.some.inj (found.symm.trans found')
      simp only [World.follow,if_true,found] at now
      cases wait with
      | openLookup client d =>
        cases waits
        cases ran
        dsimp only at now
        split_ifs at now with granted
        · have place : p = .native bg.nextId := by cases p <;> cases now; rfl
          subst place
          unfold World.openLookedUp
          rw [if_pos granted]
          exact congrArg (Option.bind · callOfRequest) ((lookup_insert_eq _ _ _ _).trans (if_pos rfl))
        · cases p <;> cases now
      | openRecheck client d r =>
        dsimp only at now
        split_ifs at now <;> cases p <;> cases now
      | _ => cases waits
    · simp only [World.follow,if_neg ends] at now
      split_ifs at now with fails
      · cases p <;> cases now
      · have place : p = .stored k := by cases p <;> cases now; rfl
        subst place
        refine callAt_kept ok taken before (Bool.eq_false_of_not_eq_true fun takes => ?_)
        cases a with
        | stored j => exact ends (by cases takes_stored takes; rfl)
        | storeFailed j => exact fails (by cases takes_storeFailed takes; rfl)
        | groupsRead j groups =>
          cases takes_groupsRead takes
          simp only [Background.step,found] at taken
          cases wait with
          | revokeGroups origin targets => cases waits
          | _ => cases taken
        | _ => cases takes
  | native n =>
    have before := here (.native n) rfl
    by_cases free : Callers.takes a (.native n) = true
    · cases a with
      | answer m r =>
        cases takes_answer free
        simp only [World.follow,if_true] at now
        cases job with
        | opening client d =>
          cases calls
          simp only [World.hostAnswered] at now
          split_ifs at now with fine device
          · cases p <;> cases now
          · have place : p = .stored bg.nextStore := by cases p <;> cases now; rfl
            subst place
            obtain ⟨cont,waiting,opens⟩ := Option.bind_eq_some_iff.mp before
            cases cont with
            | opened client' d' =>
              cases opens
              obtain ⟨q,_,_,rfl⟩ := answer_cases waiting taken
              have accepted : isOk r.s = true := by simpa using fine
              simp only [World.resolve,World.openAnswered]
              rw [if_pos ⟨accepted,device⟩]
              refine congrArg (Option.bind · callOfWait) ((lookup_insert_eq _ _ _ _).trans (if_pos ?_))
              rw [record_nextStore]
            | _ => cases opens
          · cases p <;> cases now
          · cases p <;> cases now
        | closing client d token =>
          simp only [World.hostAnswered] at now
          split_ifs at now <;> cases p <;> cases now
        | cleanupSession d t => cases calls
        | frameDestroyed frame => cases calls
      | timeout m =>
        cases takes_timeout free
        simp only [World.follow,if_true] at now
        cases p <;> cases now
      | _ => cases free
    · rw [Bool.not_eq_true] at free
      have same := (follow_stage job free).symm.trans now
      have place : p = .native n := by cases p <;> cases same; rfl
      exact place ▸ callAt_kept ok taken before free

/-- The token that an open is answered with has left the open, and nobody has seen it before. -/
theorem follow_opened (ok : Sound b bg) (taken : Background.step b bg a = some bg') {stage : Stage}
    (here : ∀ p, stage = Place.stage p → callAt bg p = some (.opening c d))
    (now : World.follow b bg a (.opening c d) stage = .answered (.opened t)) :
    stage = .answered (.opened t) ∨ Told bg' t ∧ ¬ Told bg t := by
  cases stage with
  | posted => cases now
  | discarding n =>
    simp only [World.follow] at now
    split at now <;> (try split_ifs at now) <;> cases now
  | answered reply => exact .inl now
  | stored k =>
    refine .inr ?_
    have before := here (.stored k) rfl
    obtain ⟨wait,found,waits⟩ := Option.bind_eq_some_iff.mp before
    simp only [World.follow] at now
    split_ifs at now with ends fails
    swap
    · cases now
    subst ends
    rw [found] at now
    cases wait with
    | openLookup client d' =>
      dsimp only at now
      split_ifs at now
      cases now
    | openRecheck client d' r =>
      dsimp only at now
      split_ifs at now with passes
      cases now
      obtain ⟨_,found',ran⟩ := Option.bind_eq_some_iff.mp taken
      cases Option.some.inj (found.symm.trans found')
      cases ran
      have after := step_sound ok taken
      refine ⟨?_,held_untold found⟩
      have fine := (registers_iff ok found).mp passes
      rcases openRechecked_cases ok found rfl with ⟨_,_,_,_,result⟩ | ⟨refused,_⟩
      · rw [result] at after ⊢
        exact (after.sessions d' r.t _ ((lookup_insert_eq _ _ _ _).trans (if_pos rfl))).2.1
      · exact absurd fine refused
    | _ => cases waits
  | native n =>
    refine .inr ?_
    have before := here (.native n) rfl
    obtain ⟨cont,waiting,opens⟩ := Option.bind_eq_some_iff.mp before
    cases cont with
    | opened client d' =>
      cases opens
      cases a with
      | answer m r =>
        simp only [World.follow] at now
        split_ifs at now with same
        subst same
        simp only [World.hostAnswered] at now
        split_ifs at now with fine device token
        · cases now
        swap
        · cases now
        cases now
        have accepted : isOk r.s = true := by simpa using fine
        obtain ⟨q,flying,may,rfl⟩ := answer_cases waiting taken
        cases Option.some.inj ((ok.awaited m _ waiting).symm.trans flying)
        obtain ⟨_,_,fresh⟩ := mayAnswer_open accepted may
        refine ⟨?_,fun told => fresh told.1⟩
        have unheld : ¬ bg.holds r.t = true := by
          intro held
          obtain ⟨k,client',d',r',found,same⟩ := holds_iff.mp held
          exact fresh (same ▸ (ok.issued _ _ (ok.rechecks k client' d' r' found).2).1)
        simp only [World.resolve,World.openAnswered]
        rw [if_neg fun both => both.2 (not_not.mp device)]
        simp only [Continuation.request,World.record,accepted,if_true]
        exact ⟨List.mem_cons_self,Bool.eq_false_of_not_eq_true unheld⟩
      | timeout m =>
        simp only [World.follow] at now
        split_ifs at now
        cases now
      | _ => cases now
    | _ => cases opens

/-- A close that is accepted has ended its session. -/
theorem follow_accepted (ok : Sound b bg) (taken : Background.step b bg a = some bg') {stage : Stage}
    (here : ∀ p, stage = Place.stage p → callAt bg p = some (.closing c d t))
    (now : World.follow b bg a (.closing c d (some t)) stage = .answered .ok) :
    stage = .answered .ok ∨ Told bg t ∧ ∀ o, ¬ Live bg' d t o := by
  cases stage with
  | posted => cases now
  | discarding n =>
    simp only [World.follow] at now
    split at now <;> (try split_ifs at now) <;> cases now
  | answered reply => exact .inl now
  | stored k =>
    obtain ⟨wait,_,waits⟩ := Option.bind_eq_some_iff.mp (here (.stored k) rfl)
    cases wait <;> cases waits
  | native n =>
    refine .inr ?_
    have waiting := closing_iff.mp (here (.native n) rfl)
    cases a with
    | answer m r =>
      simp only [World.follow] at now
      split_ifs at now with same
      subst same
      simp only [World.hostAnswered] at now
      split_ifs at now with fine
      swap
      · cases now
      obtain ⟨q,flying,may,_⟩ := answer_cases waiting taken
      cases Option.some.inj ((ok.awaited m _ waiting).symm.trans flying)
      have nonempty : t ≠ "" := by simpa [World.mayAnswer,Continuation.request,fine] using may
      refine ⟨(ok.continuations m _ waiting nonempty).1,fun o alive => ?_⟩
      rcases (step_live ok taken).mp alive with ⟨_,kept⟩ | ⟨k,client,registers⟩
      · refine kept ?_
        simp [collected,released,waiting,settles,fine]
      · cases registers.action
    | timeout m =>
      simp only [World.follow] at now
      split_ifs at now
      cases now
    | _ => cases now

/-! ### Steps of the background -/

/-- A step of the background that leaves the bridge alone but for the port and the events. -/
theorem Accord.moved (ok : Accord b bridge w) (taken : Background.step b w.background a = some bg')
    {pending : Option (Job × Stage)} {events : List Event} {tokens : List Token}
    (posted : ∀ job, pending = some (job,.posted) → w.controlPending = some (job,.posted))
    (places : ∀ p call, callAt bg' p = some call → (Call.client call).frame.bridgeInstanceId = bridge →
      ∃ job, pending = some (job,Place.stage p) ∧ Job.call job = some call)
    (stands : ∀ p job call, pending = some (job,Place.stage p) → Job.call job = some call → callAt bg' p = some call)
    (answer : ∀ c d t, pending = some (.opening c d,.answered (.opened t)) →
      w.controlPending = pending ∨ Told bg' t ∧ ¬ Told w.background t)
    (closed : ∀ c d t, pending = some (.closing c d (some t),.answered .ok) →
      w.controlPending = pending ∨ Told w.background t ∧ ∀ o, ¬ Live bg' d t o)
    (handed : ∀ c d t, c.frame.bridgeInstanceId = bridge → LiveFor bg' c d t → t ∈ tokens)
    (held : ∀ c d t, w.sessions.lookup (c,d) = some t → LiveFor bg' c d t ∨
      due b { w with background := bg', controlPending := pending, events := events, handed := tokens } c d t = true)
    (heard : ∀ c d t, c.frame.bridgeInstanceId = bridge → LiveFor bg' c d t → w.sessions.lookup (c,d) = some t ∨
      pending = some (.opening c d,.answered (.opened t)) ∨
      ToClean { w with background := bg', controlPending := pending, events := events, handed := tokens } d t ∨
      Ending { w with background := bg', controlPending := pending, events := events, handed := tokens } c.frame) :
    Accord b bridge { w with background := bg', controlPending := pending, events := events, handed := tokens } := by
  have later := (step_effect_any ok.sound taken).later ok.sound
  have clean {d : DeviceId} {t : Token} (cleaned : ToClean
      { w with background := bg', controlPending := pending, events := events, handed := tokens } d t) : ToClean w d t :=
    cleaned.imp_right fun more => more.imp_right (posted _)
  have seen {t : Token} (seen : Seen
      { w with background := bg', controlPending := pending, events := events, handed := tokens } t) : Seen w t :=
    seen.mono (fun _ _ found => found) (fun _ _ _ member => member) fun _ _ => clean
  exact { ok with
    sound := step_sound ok.sound taken
    owned := step_owned ok.sound ok.owned taken
    listed := step_listed ok.sound ok.listed taken
    places := places
    stands := stands
    ended := fun frame ending => ok.ended frame (ending.imp_right (posted _))
    seen := fun t here => later.told t (ok.seen t (seen here))
    answer := fun c d t opened => by
      rcases answer c d t opened with same | ⟨told,untold⟩
      · exact (ok.answer c d t (same.trans opened)).imp (later.told t) fun unseen here => unseen (seen here)
      · exact ⟨told,fun here => untold (ok.seen t (seen here))⟩
    closed := fun c d t accepted => by
      rcases closed c d t accepted with same | ⟨told,dead⟩
      · obtain ⟨told,dead⟩ := ok.closed c d t (same.trans accepted)
        exact ⟨later.told t told,dead_stays ok.sound taken told dead⟩
      · exact ⟨later.told t told,dead⟩
    handed := handed
    clean := fun d t cleaned => ok.clean d t (clean cleaned)
    held := held
    heard := heard }

theorem due_mono {w' : World} (is : due b w c d t = true) (events : ∀ e ∈ w.events, e ∈ w'.events)
    (tasks : w'.tasks = w.tasks) (revoking : Revoking w.background (b.origin c) d → due b w' c d t = true)
    (closing : w.controlPending = some (.closing c d (some t),.answered .ok) → w'.controlPending = w.controlPending) :
    due b w' c d t = true := by
  rcases due_iff.mp is with ⟨e,member,covered⟩ | ⟨task,member,reach⟩ | revokes | closes
  · exact due_iff.mpr (.inl ⟨e,events e member,covered⟩)
  · exact due_iff.mpr (.inr (.inl ⟨task,tasks ▸ member,reach⟩))
  · exact revoking revokes
  · exact due_iff.mpr (.inr (.inr (.inr ((closing closes).trans closes))))

theorem follow_posted {job : Job} {stage : Stage} (now : World.follow b bg a job stage = .posted) : stage = .posted := by
  cases stage with
  | posted => rfl
  | answered reply => cases now
  | stored k =>
    simp only [World.follow] at now
    split_ifs at now
    split at now <;> (try split_ifs at now)
    cases now
  | native n =>
    simp only [World.follow] at now
    split at now
    · split_ifs at now
      cases job <;> simp only [World.hostAnswered] at now <;> split_ifs at now
    · split_ifs at now
    · cases now
  | discarding n =>
    simp only [World.follow] at now
    split at now <;> (try split_ifs at now)
    cases now

/-- What happens in the background without the bridge. -/
theorem Accord.background (ok : Accord b bridge w) (foreign : w.foreign b bridge a = true)
    (fine : orderly b w (.background a) = true) (taken : Background.step b w.background a = some bg') :
    Accord b bridge (w.after b a bg') := by
  let pending := w.controlPending.map fun entry => (entry.1,World.follow b w.background a entry.1 entry.2)
  have moved {job : Job} {stage : Stage} (now : pending = some (job,stage)) :
      ∃ before, w.controlPending = some (job,before) ∧ World.follow b w.background a job before = stage := by
    obtain ⟨⟨job',before⟩,stood,same⟩ := Option.map_eq_some_iff.mp now
    cases same
    exact ⟨before,stood,rfl⟩
  have still {job : Job} {stage : Stage} (stood : w.controlPending = some (job,stage)) :
      pending = some (job,World.follow b w.background a job stage) := Option.map_eq_some_iff.mpr ⟨_,stood,rfl⟩
  have opens {c : Client} {d : DeviceId} {k : Nat} {r : NmResponse} (mine : c.frame.bridgeInstanceId = bridge)
      (action : a = .stored k) (found : w.background.store.lookup k = some (.openRecheck c d r))
      (passes : World.registers b w.background c d r = true) : pending = some (.opening c d,.answered (.opened r.t)) := by
    have here : callAt w.background (.stored k) = some (.opening c d) := by rw [callAt,found]; rfl
    obtain ⟨job,stood,calls⟩ := ok.places _ _ here mine
    have same : World.follow b w.background a job (.stored k) = .answered (.opened r.t) := by
      simp [World.follow,action,found,passes]
    cases job with
    | opening c' d' =>
      cases calls
      exact (still stood).trans (congrArg (fun stage => some (Job.opening c d,stage)) same)
    | _ => cases calls
  have goesOn {c : Client} {d : DeviceId} {t : Token} (other : ∀ k, a ≠ .storeFailed k)
      (revoking : Revoking w.background (b.origin c) d) : due b (w.after b a bg') c d t = true := by
    rcases step_revoking ok.sound taken revoking with after | ⟨k,call,rfl,found,member⟩ | ⟨k,_,_,rfl,_⟩
    · exact due_iff.mpr (.inr (.inr (.inl after)))
    · refine due_iff.mpr (.inl ⟨.revoked d (b.origin c),List.mem_append_right _ ?_,by simp [covers]⟩)
      simp only [World.announced,found]
      exact List.mem_map.mpr ⟨d,member,rfl⟩
    · exact absurd rfl (other k)
  have stays {c : Client} {d : DeviceId} {t : Token}
      (closes : w.controlPending = some (.closing c d (some t),.answered .ok)) : pending = w.controlPending :=
    (still closes).trans closes.symm
  refine Accord.moved ok taken (fun job now => ?_) (fun p call here mine => ?_) (fun p job call now calls => ?_)
    (fun c d t now => ?_) (fun c d t now => ?_) (fun c d t mine alive => ?_) (fun c d t held => ?_)
    fun c d t mine alive => ?_
  · obtain ⟨before,stood,same⟩ := moved now
    exact follow_posted same ▸ stood
  · rcases (step_calls ok.sound taken).calls p call here with ⟨before,free⟩ | arises
    · obtain ⟨job,stood,calls⟩ := ok.places p call before mine
      exact ⟨job,(still stood).trans (by rw [follow_stage job free]),calls⟩
    · cases arises with
      | asked client d action => subst action; simp [World.foreign,Call.client] at foreign mine; exact absurd mine foreign
      | closes client d t action owned =>
        subst action; simp [World.foreign,Call.client] at foreign mine; exact absurd mine foreign
      | lookedUp k client d action found granted =>
        have before : callAt w.background (.stored k) = some (.opening client d) := by rw [callAt,found]; rfl
        obtain ⟨job,stood,calls⟩ := ok.places _ _ before mine
        refine ⟨job,(still stood).trans ?_,calls⟩
        simp [World.follow,action,found,granted,Place.stage]
      | received n client d r action found fine =>
        have before : callAt w.background (.native n) = some (.opening client d) := by rw [callAt,found]; rfl
        obtain ⟨job,stood,calls⟩ := ok.places _ _ before mine
        refine ⟨job,(still stood).trans ?_,calls⟩
        cases job with
        | opening c' d' => simp [World.follow,action,World.hostAnswered,fine.1,fine.2,Place.stage]
        | _ => cases calls
  · obtain ⟨before,stood,same⟩ := moved now
    exact follow_stands ok.sound taken calls (fun p' here => ok.stands p' job call (here ▸ stood) calls) same
  · obtain ⟨before,stood,same⟩ := moved now
    refine (follow_opened ok.sound taken (fun p here => ok.stands p _ _ (here ▸ stood) rfl) same).imp_left fun known => ?_
    subst known
    exact stood.trans now.symm
  · obtain ⟨before,stood,same⟩ := moved now
    refine (follow_accepted ok.sound taken (fun p here => ok.stands p _ _ (here ▸ stood) rfl) same).imp_left fun known => ?_
    subst known
    exact stood.trans now.symm
  · rcases liveFor_step ok.sound taken alive with ⟨before,_⟩ | ⟨k,r,action,found,passes,rfl⟩
    · exact List.mem_append_right _ (ok.handed c d t mine before)
    · refine List.mem_append_left _ ?_
      show r.t ∈ World.handedOver pending
      rw [opens mine action found passes]
      exact List.mem_singleton.mpr rfl
  · have mine := ok.clients c (ok.own c d t held)
    by_cases fails : ∃ k, a = .storeFailed k
    · obtain ⟨k,rfl⟩ := fails
      have entry := List.all_eq_true.mp fine _ (lookup_eq_some.mp held)
      rw [Bool.or_eq_true,live_iff] at entry
      rcases entry with alive | is
      · exact .inl ((liveFor_kept ok.sound taken alive).resolve_right fun gone => by cases gone)
      · refine .inr (due_mono is (fun e member => List.mem_append_left _ member) rfl (fun revoking => ?_) stays)
        simp only [Background.step] at taken
        split at taken <;> cases taken
        exact due_iff.mpr (.inr (.inr (.inl revoking)))
    · have other (k : Nat) : a ≠ .storeFailed k := fun same => fails ⟨k,same⟩
      rcases ok.held c d t held with alive | is
      · rcases liveFor_kept ok.sound taken alive with after | gone
        · exact .inl after
        · refine .inr ?_
          rcases collected_ours ok foreign mine alive gone with revoking | ⟨n,r,rfl,accepted,here⟩
          · exact goesOn other revoking
          · obtain ⟨o,live,_⟩ := alive
            have nonempty := (ok.sound.issued d t (ok.sound.sessions d t o live.registered).1).2
            obtain ⟨job,stood,calls⟩ := ok.places _ _ here mine
            cases job with
            | closing c' d' token =>
              cases token with
              | none => cases calls; exact absurd rfl nonempty
              | some t' =>
                cases calls
                refine due_iff.mpr (.inr (.inr (.inr ((still stood).trans ?_))))
                simp [Place.stage,World.follow,World.hostAnswered,accepted]
            | _ => cases calls
      · exact .inr (due_mono is (fun e member => List.mem_append_left _ member) rfl (goesOn other) stays)
  · rcases liveFor_step ok.sound taken alive with ⟨before,_⟩ | ⟨k,r,action,found,passes,rfl⟩
    · rcases ok.heard c d t mine before with held | answered | cleaned | ending
      · exact .inl held
      · exact .inr (.inl (still answered))
      · exact .inr (.inr (.inl (cleaned.imp_right fun more => more.imp_right still)))
      · exact .inr (.inr (.inr (ending.imp_right still)))
    · exact .inr (.inl (opens mine action found passes))

theorem waits_stored (fresh : bg.nextStore < bg'.nextStore) : World.waits bg bg' = .stored bg.nextStore := if_pos fresh

theorem waits_native (store : bg'.nextStore = bg.nextStore) (fresh : bg.nextId < bg'.nextId) :
    World.waits bg bg' = .native bg.nextId := by
  rw [World.waits,store,if_neg (Nat.lt_irrefl _),if_pos fresh]

theorem waits_same (store : bg'.nextStore = bg.nextStore) (native : bg'.nextId = bg.nextId) :
    World.waits bg bg' = .answered .failed := by
  rw [World.waits,store,native,if_neg (Nat.lt_irrefl _),if_neg (Nat.lt_irrefl _)]

/-- The handler of the request on the port has run. -/
theorem Accord.handled (ok : Accord b bridge w) {job : Job} (stood : w.controlPending = some (job,.posted))
    (taken : Background.step b w.background a = some bg') {stage : Stage} (unposted : stage ≠ .posted)
    (unopened : ∀ t, stage ≠ .answered (.opened t)) (unclosed : ∀ c d t, job = .closing c d t → stage ≠ .answered .ok)
    (places : ∀ p call, callAt bg' p = some call → Arises b w.background a p call →
      stage = Place.stage p ∧ Job.call job = some call)
    (stands : ∀ p call, stage = Place.stage p → Job.call job = some call → callAt bg' p = some call)
    (handler : (∀ k, a ≠ .stored k) ∧ ∀ k, a ≠ .storeFailed k)
    (spares : ∀ c d t, w.sessions.lookup (c,d) = some t → LiveFor w.background c d t → (d,t) ∉ collected b w.background a)
    (cleans : ∀ d t, job = .cleanupSession d t → (d,t) ∈ collected b w.background a)
    (ends : ∀ c d t, job = .frameDestroyed c.frame → LiveFor w.background c d t → (d,t) ∈ collected b w.background a) :
    Accord b bridge { w with background := bg', controlPending := some (job,stage) } := by
  have before {c : Client} {d : DeviceId} {t : Token} (alive : LiveFor bg' c d t) :
      LiveFor w.background c d t ∧ (d,t) ∉ collected b w.background a :=
    (liveFor_step ok.sound taken alive).resolve_right fun ⟨k,_,stored,_⟩ => handler.1 k stored
  have revokes {c : Client} {d : DeviceId} (revoking : Revoking w.background (b.origin c) d) :
      Revoking bg' (b.origin c) d := by
    rcases step_revoking ok.sound taken revoking with after | ⟨k,_,stored,_⟩ | ⟨k,_,_,failed,_⟩
    · exact after
    · exact absurd stored (handler.1 k)
    · exact absurd failed (handler.2 k)
  refine Accord.moved ok taken (fun job' now => ?_) (fun p call here mine => ?_) (fun p job' call now calls => ?_)
    (fun c d t now => ?_) (fun c d t now => ?_) (fun c d t mine alive => ?_) (fun c d t held => ?_)
    fun c d t mine alive => ?_
  · cases now
    exact absurd rfl unposted
  · rcases (step_calls ok.sound taken).calls p call here with ⟨before,_⟩ | arises
    · obtain ⟨_,other,_⟩ := ok.places p call before mine
      rw [stood] at other
      cases p <;> cases other
    · obtain ⟨rfl,calls⟩ := places p call here arises
      exact ⟨job,rfl,calls⟩
  · cases now
    exact stands p call rfl calls
  · cases now
    exact absurd rfl (unopened t)
  · cases now
    exact absurd rfl (unclosed c d (some t) rfl)
  · exact ok.handed c d t mine (before alive).1
  · rcases ok.held c d t held with alive | is
    · exact .inl ((liveFor_kept ok.sound taken alive).resolve_right (spares c d t held alive))
    · refine .inr (due_mono is (fun _ member => member) rfl (fun revoking => ?_) fun closes => ?_)
      · exact due_iff.mpr (.inr (.inr (.inl (revokes revoking))))
      · rw [stood] at closes
        cases closes
  · obtain ⟨alive,kept⟩ := before alive
    rcases ok.heard c d t mine alive with held | answered | (task | queued | posted) | queued | posted
    · exact .inl held
    · rw [stood] at answered
      cases answered
    · exact .inr (.inr (.inl (.inl task)))
    · exact .inr (.inr (.inl (.inr (.inl queued))))
    · rw [stood] at posted
      cases posted
      exact absurd (cleans d t rfl) kept
    · exact .inr (.inr (.inr (.inl queued)))
    · rw [stood] at posted
      cases posted
      exact absurd (ends c d t rfl alive) kept

theorem Accord.handle (ok : Accord b bridge w) {job : Job} (stood : w.controlPending = some (job,.posted)) {w' : World}
    (taken : w.handle b job = some w') : Accord b bridge w' := by
  cases job with
  | opening c d =>
    simp only [World.handle,Option.map_eq_some_iff] at taken
    obtain ⟨bg',ran,rfl⟩ := taken
    have after := step_sound ok.sound ran
    have same : bg' = w.background.handleOpen b c d := (Option.some.inj ran).symm
    have stage : World.waits w.background bg' = .answered .failed ∧ bg'.nextStore = w.background.nextStore ∨
        World.waits w.background bg' = .stored w.background.nextStore ∧
          callAt bg' (.stored w.background.nextStore) = some (.opening c d) := by
      subst same
      unfold World.handleOpen
      cases w.background.state.registerFrameLifetime (b.tab c) c.frame with
      | none => exact .inl ⟨waits_same rfl rfl,rfl⟩
      | some s =>
        exact .inr ⟨waits_stored (Nat.lt_succ_self _),
          congrArg (Option.bind · callOfWait) ((lookup_insert_eq _ _ _ _).trans (if_pos rfl))⟩
    refine Accord.handled ok stood ran ?_ ?_ (fun _ _ _ same => by cases same) (fun p call here arises => ?_)
      (fun p call now calls => ?_) ⟨fun _ same => (by cases same),fun _ same => by cases same⟩
      (fun _ _ _ _ _ none => by cases none) (fun _ _ same => by cases same) fun _ _ _ same => by cases same
    · rcases stage with ⟨same,_⟩ | ⟨same,_⟩ <;> rw [same] <;> exact fun none => by cases none
    · rcases stage with ⟨same,_⟩ | ⟨same,_⟩ <;> rw [same] <;> exact fun _ none => by cases none
    · cases arises with
      | asked client d' action =>
        cases action
        refine ⟨(stage.resolve_left fun refused => ?_).1,rfl⟩
        obtain ⟨wait,found,_⟩ := Option.bind_eq_some_iff.mp here
        exact absurd (after.storeFresh _ wait found) (refused.2 ▸ Nat.lt_irrefl _)
      | closes client d' t action owned => cases action
      | lookedUp k client d' action found granted => cases action
      | received n client d' r action found fine => cases action
    · cases calls
      rcases stage with ⟨same,_⟩ | ⟨same,there⟩
      · rw [same] at now
        cases p <;> cases now
      · rw [same] at now
        cases p <;> cases now
        exact there
  | closing c d token =>
    simp only [World.handle,Option.map_eq_some_iff] at taken
    obtain ⟨bg',ran,rfl⟩ := taken
    have after := step_sound ok.sound ran
    have same : bg' = w.background.handleClose b c d (token.getD "") := (Option.some.inj ran).symm
    have stage : World.waits w.background bg' = .answered .failed ∧ bg'.nextId = w.background.nextId ∨
        World.waits w.background bg' = .native w.background.nextId ∧
          callAt bg' (.native w.background.nextId) = some (.closing c d (token.getD "")) := by
      subst same
      unfold World.handleClose
      split_ifs
      · exact .inr ⟨waits_native rfl (Nat.lt_succ_self _),
          congrArg (Option.bind · callOfRequest) ((lookup_insert_eq _ _ _ _).trans (if_pos rfl))⟩
      · exact .inl ⟨waits_same rfl rfl,rfl⟩
    refine Accord.handled ok stood ran ?_ ?_ (fun _ _ _ _ => ?_) (fun p call here arises => ?_)
      (fun p call now calls => ?_) ⟨fun _ same => (by cases same),fun _ same => by cases same⟩
      (fun _ _ _ _ _ none => by cases none) (fun _ _ same => by cases same) fun _ _ _ same => by cases same
    · rcases stage with ⟨same,_⟩ | ⟨same,_⟩ <;> rw [same] <;> exact fun none => by cases none
    · rcases stage with ⟨same,_⟩ | ⟨same,_⟩ <;> rw [same] <;> exact fun _ none => by cases none
    · rcases stage with ⟨same,_⟩ | ⟨same,_⟩ <;> rw [same] <;> exact fun none => by cases none
    · cases arises with
      | asked client d' action => cases action
      | closes client d' t action owned =>
        cases action
        refine ⟨(stage.resolve_left fun refused => ?_).1,rfl⟩
        obtain ⟨cont,found,_⟩ := Option.bind_eq_some_iff.mp here
        exact absurd (after.pendingFresh _ cont found) (refused.2 ▸ Nat.lt_irrefl _)
      | lookedUp k client d' action found granted => cases action
      | received n client d' r action found fine => cases action
    · cases calls
      rcases stage with ⟨same,_⟩ | ⟨same,there⟩
      · rw [same] at now
        cases p <;> cases now
      · rw [same] at now
        cases p <;> cases now
        exact there
  | cleanupSession d t =>
    simp only [World.handle,Option.map_eq_some_iff] at taken
    obtain ⟨bg',ran,rfl⟩ := taken
    have stage : World.waits w.background bg' = .native w.background.nextId := by
      simp only [Background.step] at ran
      split_ifs at ran
      cases ran
      exact waits_native rfl (Nat.lt_succ_self _)
    refine Accord.handled ok stood ran ?_ ?_ (fun _ _ _ same => by cases same) (fun p call here arises => ?_)
      (fun p call now calls => by cases calls) ⟨fun _ same => (by cases same),fun _ same => by cases same⟩
      (fun c' d' t' held alive gone => ?_) (fun d' t' same => ?_) fun _ _ _ same => by cases same
    · rw [stage]; exact fun none => by cases none
    · rw [stage]; exact fun _ none => by cases none
    · cases arises <;> contradiction
    · cases List.mem_singleton.mp gone
      exact ok.clean d t (.inr (.inr stood)) (c',d) held
    · cases same
      exact List.mem_singleton.mpr rfl
  | frameDestroyed frame =>
    simp only [World.handle,Option.map_eq_some_iff] at taken
    obtain ⟨bg',ran,rfl⟩ := taken
    have collects {c : Client} {d : DeviceId} {t : Token} (alive : LiveFor w.background c d t) :
        (d,t) ∈ collected b w.background (.frameDestroyed frame) ↔ c.frame = frame := by
      obtain ⟨o,live,own,_⟩ := alive
      have owner := owner_of_live ok.sound live own
      constructor
      · intro gone
        obtain ⟨o',registered,_,same⟩ := mem_collectDeviceSessionsForFrame.mp gone
        cases Option.some.inj (live.registered.symm.trans registered)
        exact own.symm.trans same
      · rintro rfl
        exact mem_collectDeviceSessionsForFrame.mpr ⟨o,live.registered,owner.1,own⟩
    refine Accord.handled ok stood ran (fun none => by cases none) (fun _ none => by cases none) (fun _ _ _ same => by cases same)
      (fun p call here arises => ?_) (fun p call now calls => by cases calls)
      ⟨fun _ same => (by cases same),fun _ same => by cases same⟩
      (fun c' d' t' held alive gone => ?_) (fun d' t' same => by cases same) fun c' d' t' same alive => ?_
    · cases arises <;> contradiction
    · have here := (collects alive).mp gone
      exact ok.present c' (ok.own c' d' t' held) (here ▸ ok.ended frame (.inr stood))
    · cases same
      exact (collects alive).mpr rfl

/-- Bookkeeping that drops sessions, with an event that deletes them in the bridge. -/
theorem Accord.dropped (ok : Accord b bridge w) {s : BgState} {e : Event} (firstId : Nat)
    (sound : Sound b { w.background with state := s })
    (sessions : ∀ d t, s.deviceSessions.lookup (d,t) = ownerOf w.background d t ∨ s.deviceSessions.lookup (d,t) = none)
    (covered : ∀ c d t, s.deviceSessions.lookup (d,t) ≠ ownerOf w.background d t → covers b c d e = true) :
    Accord b bridge { w with
      background := { w.background with state := s }, firstId := firstId, events := w.events ++ [e] } := by
  have fewer {d : DeviceId} {t : Token} {o : Owner} (here : s.deviceSessions.lookup (d,t) = some o) :
      ownerOf w.background d t = some o := by
    rcases sessions d t with same | none
    · exact same.symm.trans here
    · rw [none] at here; cases here
  have before {d : DeviceId} {t : Token} {o : Owner} (alive : Live { w.background with state := s } d t o) :
      Live w.background d t o := ⟨fewer alive.registered,alive.kept⟩
  have beforeFor {c : Client} {d : DeviceId} {t : Token} (alive : LiveFor { w.background with state := s } c d t) :
      LiveFor w.background c d t := alive.imp fun _ owned => owned.imp_left before
  have more {c : Client} {d : DeviceId} {t : Token} (is : due b w c d t = true) : due b { w with
      background := { w.background with state := s }, firstId := firstId, events := w.events ++ [e] } c d t = true :=
    due_mono is (fun _ member => List.mem_append_left _ member) rfl
      (fun revoking => due_iff.mpr (.inr (.inr (.inl revoking)))) fun _ => rfl
  exact { ok with
    sound := sound
    owned := fun n client d t here nonempty o registered => ok.owned n client d t here nonempty o (fewer registered)
    closed := fun c d t accepted => (ok.closed c d t accepted).imp_right fun dead o alive => dead o (before alive)
    handed := fun c d t mine alive => ok.handed c d t mine (beforeFor alive)
    held := fun c d t held => by
      rcases ok.held c d t held with ⟨o,alive,owner⟩ | is
      · by_cases same : s.deviceSessions.lookup (d,t) = ownerOf w.background d t
        · exact .inl ⟨o,⟨same.trans alive.registered,alive.kept⟩,owner⟩
        · exact .inr (due_iff.mpr (.inl ⟨e,List.mem_append_right _ (List.mem_singleton.mpr rfl),covered c d t same⟩))
      · exact .inr (more is)
    heard := fun c d t mine alive => ok.heard c d t mine (beforeFor alive) }

theorem accord_init (b : Browser) (bridge : String) : Accord b bridge init := by
  have free {s : Revocations.Stage} : ¬ At Background.init s := by
    rintro (⟨k,_,found,_⟩ | ⟨n,_,found,_⟩) <;> cases found
  have dead {c : Client} {d : DeviceId} {t : Token} : ¬ LiveFor Background.init c d t := by
    rintro ⟨o,alive,_⟩
    cases alive.registered
  have unseen {t : Token} : ¬ Seen init t := by
    rintro (⟨key,found⟩ | ⟨c,d,member⟩ | ⟨d,member | member | posted⟩)
    · cases found
    · cases member
    · cases member
    · cases member
    · cases posted
  exact {
    sound := Sound.init b
    owned := fun n client d t here => by cases here
    listed := fun s here => absurd here free
    clients := fun c member => by cases member
    own := fun c d t found => by cases found
    places := fun p call here => by cases p <;> cases here
    stands := fun p job call posted => by cases posted
    present := fun c member => by cases member
    ended := fun frame ending => by rcases ending with queued | posted <;> contradiction
    seen := fun t seen => absurd seen unseen
    answer := fun c d t posted => by cases posted
    closed := fun c d t posted => by cases posted
    handed := fun c d t mine alive => absurd alive dead
    plane := fun c d t member => by cases member
    clean := fun d t cleaned => absurd (.inr (.inr ⟨d,cleaned⟩)) unseen
    held := fun c d t found => by cases found
    heard := fun c d t mine alive => absurd alive dead }

theorem step_accord (ok : Accord b bridge w) {a : Action} {w' : World} (taken : step b bridge w a = some w')
    (fine : orderly b w a = true) : Accord b bridge w' := by
  cases a with
  | join c =>
    simp only [step] at taken
    split_ifs at taken with fits
    cases taken
    exact ok.join fits.1 fits.2.2
  | leave frame =>
    simp only [step] at taken
    split_ifs at taken
    cases taken
    exact ok.destroyFrame frame
  | openRequest c d =>
    simp only [step] at taken
    split_ifs at taken
    cases taken
    exact ok.enqueue (fun _ _ same => nomatch same) fun _ same => nomatch same
  | closeRequest c d =>
    simp only [step] at taken
    split_ifs at taken
    cases taken
    exact ok.enqueue (fun _ _ same => nomatch same) fun _ same => nomatch same
  | send =>
    simp only [step] at taken
    split at taken
    · next job rest free queue =>
      cases taken
      exact ok.send free queue
    · cases taken
  | handle =>
    simp only [step] at taken
    split at taken
    · next job stood => exact Accord.handle ok stood taken
    · cases taken
  | deliver =>
    simp only [step] at taken
    split at taken
    · next job reply pending =>
      cases taken
      exact ok.deliver pending fine
    · cases taken
  | resume k accepted =>
    obtain ⟨task,found,rfl⟩ := Option.map_eq_some_iff.mp taken
    exact ok.resume found fine
  | event k =>
    obtain ⟨e,found,rfl⟩ := Option.map_eq_some_iff.mp taken
    exact ok.event found fine
  | background a =>
    simp only [step] at taken
    split_ifs at taken with foreign
    obtain ⟨bg',ran,rfl⟩ := Option.map_eq_some_iff.mp taken
    exact Accord.background ok foreign fine ran
  | deviceLost d =>
    cases taken
    refine Accord.dropped ok w.firstId (deviceGone_sound ok.sound) (fun d' t => ?_) fun c d' t lost => ?_
    · rw [clearDeviceOwnership_owner]
      split_ifs
      · exact .inr rfl
      · exact .inl rfl
    · rw [clearDeviceOwnership_owner] at lost
      split_ifs at lost with same
      · exact beq_iff_eq.mpr same.symm
      · exact absurd rfl lost
  | daemonLost =>
    cases taken
    have cleared : Sound b { w.background with state := w.background.state.clearAuthorityOwnership } :=
      ok.sound.withState (fun _ => .inr rfl) (fun _ _ orphan => nomatch orphan) fun _ zero => nomatch zero
    exact Accord.dropped ok w.background.nextId cleared (fun _ _ => .inr rfl) fun _ _ _ _ => rfl

/-- Where nothing is under way, nothing is due and nothing is on its way. -/
theorem Accord.agrees (ok : Accord b bridge w) (rest : settled w = true) : Agrees bridge w := by
  simp only [settled,Bool.and_eq_true,List.isEmpty_iff,Option.isNone_iff_eq_none] at rest
  obtain ⟨⟨⟨⟨⟨queue,port⟩,tasks⟩,events⟩,pending⟩,store⟩ := rest
  have noRequest (n : Nat) : w.background.pending.lookup n = none := by
    rw [AList.lookup,pending]
    rfl
  have noWait (k : Nat) : w.background.store.lookup k = none := by
    rw [AList.lookup,store]
    rfl
  have idle {origin : Origin} {d : DeviceId} : ¬ Revoking w.background origin d := by
    rintro ⟨s,⟨k,_,found,_⟩ | ⟨n,_,found,_⟩,_⟩
    · rw [noWait] at found; cases found
    · rw [noRequest] at found; cases found
  intro c d t mine
  constructor
  · intro found
    rcases ok.held c d t found with alive | is
    · have both := live_iff.mpr alive
      rw [live,Bool.and_eq_true] at both
      exact both.1
    · rcases due_iff.mp is with ⟨e,member,_⟩ | ⟨task,member,_⟩ | revoking | closing
      · rw [events] at member; cases member
      · rw [tasks] at member; cases member
      · exact absurd revoking idle
      · rw [port] at closing; cases closing
  · intro here
    have calm : ending w.background d t = false := by
      refine Bool.eq_false_of_not_eq_true fun busy => ?_
      obtain ⟨n,_,found,_⟩ := ending_iff.mp busy
      rw [noRequest] at found
      cases found
    have alive : LiveFor w.background c d t := live_iff.mp (by rw [live,here,calm]; rfl)
    rcases ok.heard c d t mine alive with found | answered | (task | queued | posted) | queued | posted
    · exact found
    · rw [port] at answered; cases answered
    · rw [tasks] at task; cases task
    · rw [queue] at queued; cases queued
    · rw [port] at posted; cases posted
    · rw [queue] at queued; cases queued
    · rw [port] at posted; cases posted

/-- In a run that is orderly the bridge and the background agree whenever all has settled. -/
theorem sessions_agree {trace : List Action} (run : exec (step b bridge) init trace = some w)
    (fine : AllSteps (step b bridge) (fun w a _ => orderly b w a = true) init trace) (rest : settled w = true) :
    Agrees bridge w := by
  have ok : Accord b bridge w := exec_invariant_under
    (fun w a w' ok taken fine => step_accord ok taken fine) (accord_init b bridge) run fine
  exact Accord.agrees ok rest

/-- The window of a frame opens the device. -/
def opens : List Action :=
  [.background (.pair "https://example.org" 7),.join (frameWindow 1),.openRequest (frameWindow 1) 7,.send,.handle,
    .background (.stored 0),.background (.answer 1 ⟨200,7,"first"⟩),.background (.stored 1),.deliver,.resume 0 true]

/-- It closes the device and opens it once more. -/
def reopens : List Action := opens ++
  [.closeRequest (frameWindow 1) 7,.send,.handle,.background (.answer 2 ⟨200,0,""⟩),.deliver,
    .openRequest (frameWindow 1) 7,.send,.handle,.background (.stored 2),.background (.answer 3 ⟨200,7,"second"⟩),
    .background (.stored 3),.deliver,.resume 0 true]

theorem sessions_agree_reopened : ∃ w, exec (step oneTab "bridge-a") init reopens = some w ∧
    w.sessions.lookup (frameWindow 1,7) = some "second" ∧ Agrees "bridge-a" w := by
  obtain ⟨w,run⟩ := Option.isSome_iff_exists.mp
    (by decide : (exec (step oneTab "bridge-a") init reopens).isSome = true)
  have facts : (exec (step oneTab "bridge-a") init reopens).map (fun w =>
      (settled w,w.sessions.lookup (frameWindow 1,7))) = some (true,some "second") := by decide
  rw [run] at facts
  simp only [Option.map_some,Option.some.injEq,Prod.mk.injEq] at facts
  exact ⟨w,run,facts.2,sessions_agree run (allSteps_of_checkAll (by decide)) facts.1⟩

/-- Two closes of one session: the second finds that the background has dropped the token,
    and puts it back. -/
def closesTwice : List Action := opens ++
  [.closeRequest (frameWindow 1) 7,.closeRequest (frameWindow 1) 7,.send,.handle,
    .background (.answer 2 ⟨200,0,""⟩),.deliver,.send,.handle,.deliver]

theorem closed_twice_disagrees : ∃ w, exec (step oneTab "bridge-a") init closesTwice = some w ∧ settled w = true ∧
    w.sessions.lookup (frameWindow 1,7) = some "first" ∧ registered w (frameWindow 1) 7 "first" = false ∧
    ¬ Agrees "bridge-a" w := by
  obtain ⟨w,run⟩ := Option.isSome_iff_exists.mp
    (by decide : (exec (step oneTab "bridge-a") init closesTwice).isSome = true)
  have facts : (exec (step oneTab "bridge-a") init closesTwice).map (fun w => (settled w,
      w.sessions.lookup (frameWindow 1,7),registered w (frameWindow 1) 7 "first")) =
      some (true,some "first",false) := by decide
  rw [run] at facts
  simp only [Option.map_some,Option.some.injEq,Prod.mk.injEq] at facts
  obtain ⟨rest,held,dropped⟩ := facts
  refine ⟨w,run,rest,held,dropped,fun agrees => ?_⟩
  have there := (agrees (frameWindow 1) 7 "first" rfl).mp held
  rw [dropped] at there
  cases there

end
end FFWebHid.AgreementRuns
