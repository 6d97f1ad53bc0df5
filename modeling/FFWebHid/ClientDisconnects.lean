import FFWebHid.Runs
import FFWebHid.Maps
import FFWebHid.Types
import FFWebHid.Registry
import FFWebHid.Lifecycle
import FFWebHid.Coherence
import FFWebHid.Sections
import FFWebHid.Threads
import FFWebHid.Safety
import FFWebHid.Operations

/-!
The end of a client. Its handler waits for the request that it is executing, takes the
sink away, and closes the sessions of the client one by one. While it does, sessions of
the client can only disappear, and what belongs to other clients stays.
-/
namespace FFWebHid.ClientDisconnects
open FFWebHid.Runs FFWebHid.Types FFWebHid.Maps FFWebHid.Registry FFWebHid.Lifecycle FFWebHid.Coherence
open FFWebHid.Sections FFWebHid.Threads FFWebHid.Safety FFWebHid.Operations FFWebHid.Registry.DeviceManager

variable {daemon : Daemon} {w w' : World} {m m' : DeviceManager}

private theorem registered_sinks {d : DeviceId} {t : Token} {owner : ClientId} {h : String}
    (done : m.registerAndRefresh d t owner h = some m') : m'.nmSinks = m.nmSinks := by
  obtain ⟨_,rfl⟩ := registerAndRefresh_eq.mp done
  exact refresh_sinks ..

private theorem refreshes_sinks {c : ClientId} {d : DeviceId} {t : Token} (refreshes : Refreshes c d t m m') :
    m'.nmSinks = m.nmSinks := by
  obtain ⟨middle,touched,rfl⟩ := refreshes
  exact (refresh_sinks ..).trans touched.sinks

private theorem opening_sinks {operation : Operation} (opening : isOpening operation = true) :
    (operation.run m).nmSinks = m.nmSinks := by
  cases operation with
  | openEnter d t owner h =>
    rcases openEnter_cases m d t owner h with ⟨m₁,done,result⟩ | ⟨g,seen,result⟩ | result
    all_goals simp only [Operation.run,result]
    exact registered_sinks done
  | openRecheck d t owner h =>
    rcases openRecheck_cases m d t owner h with ⟨m₁,done,result⟩ | result | result
    all_goals simp only [Operation.run,result]
    exact registered_sinks done
  | openCheck d id g t owner h =>
    rcases openCheck_cases m d id g t owner h with ⟨m₁,done,result⟩ | result | result
    all_goals simp only [Operation.run,result]
    exact registered_sinks done
  | openInstall d id g e t owner h =>
    simp only [Operation.run,openInstall]
    split
    · split
      next done => exact registered_sinks done
      next =>
        dsimp only
        cases done : ({ m with devices := m.devices.insert id e } : DeviceManager).registerAndRefresh id t owner h with
        | none => rfl
        | some m₁ => exact (registered_sinks done :)
    · rfl
  | releaseReservation d g =>
    simp only [Operation.run,releaseReservation]
    split <;> rfl
  | _ => cases opening

/-- Only the two sections of a client's own sink change it. -/
theorem run_sinks (coherent : Coherent m) (operation : Operation) (c : ClientId) :
    (operation.run m).nmSinks.lookup c = m.nmSinks.lookup c ∨ operation = .unregisterNmSink c ∨
      ∃ sink, operation = .registerNmSink c sink := by
  have kept {operation : Operation} (same : (operation.run m).nmSinks = m.nmSinks) :
      (operation.run m).nmSinks.lookup c = m.nmSinks.lookup c ∨ operation = .unregisterNmSink c ∨
        ∃ sink, operation = .registerNmSink c sink := Or.inl (by rw [same])
  cases operation with
  | newClientId | notifyWaiters | cancel => exact Or.inl rfl
  | subNonNm n => cases m; exact Or.inl rfl
  | unregisterNmSink other =>
    by_cases same : c = other
    · exact Or.inr (Or.inl (same ▸ rfl))
    · exact Or.inl (AList.lookup_erase_ne same)
  | registerNmSink other sink =>
    by_cases same : c = other
    · exact Or.inr (Or.inr ⟨sink,same ▸ rfl⟩)
    · have folded (ds : List DeviceId) (m : DeviceManager) :
          (ds.foldl (fun m d => m.refreshNmHotLocked d other) m).nmSinks = m.nmSinks := by
        induction ds generalizing m with
        | nil => rfl
        | cons d rest ih => exact (ih _).trans (refresh_sinks ..)
      refine Or.inl ((congrArg (·.lookup c) (folded _ _)).trans ?_)
      exact AList.lookup_insert_ne same
  | openEnter | openRecheck | openCheck | openInstall | releaseReservation =>
    exact kept (opening_sinks rfl)
  | close d t owner =>
    apply kept
    rcases close_cases coherent d t owner with ⟨_,same⟩ | ⟨s,_,_,_,⟨_,_,refreshes⟩ | ⟨_,_,detached⟩⟩
    · simp only [Operation.run,same]
    · exact refreshes_sinks refreshes
    · exact detached.sinks
  | setDataplaneMode d t mode owner =>
    apply kept
    simp only [Operation.run]
    cases done : m.setDataplaneMode d t mode owner with
    | error _ => rfl
    | ok m₁ => exact refreshes_sinks (setDataplaneMode_changes coherent done).refreshes
  | connect kind d t =>
    apply kept
    simp only [Operation.run]
    cases done : m.connect kind d t with
    | none => rfl
    | some granted =>
      obtain ⟨_,_,_,changes⟩ := connect_changes coherent done
      exact refreshes_sinks changes.refreshes
  | disconnect kind d t g f =>
    apply kept
    rcases disconnect_cases coherent kind d t g f with ⟨_,_,changes⟩ | ⟨_,same⟩
    · exact refreshes_sinks changes.refreshes
    · simp only [Operation.run,same]
  | forceClose d => exact kept (forceClose_detached coherent d).1.sinks
  | detachDeadReaderLifetime d =>
    apply kept
    simp only [Operation.run]
    cases done : m.detachDeadReaderLifetime d with
    | none => rfl
    | some removed => exact (detachDeadReaderLifetime_detached coherent done).1.sinks

/-! ### The clean-up -/

/-- The handler is past the removal of the sink. -/
def silenced : ClientPc → Bool
  | .collecting => true
  | .closingAll _ _ => true
  | .gone => true
  | _ => false

/-- The sessions that the handler has still to close, once it has collected them. -/
def remaining : ClientPc → Option (List (DeviceId × Token))
  | .closingAll rest _ => some rest
  | .gone => some []
  | _ => none

/-- The handler has no sink left past its removal, and of its sessions only those that
    it has still to close. -/
structure Leaving (w : World) (c : ClientId) : Prop where
  silent : silenced (w.client c) = true → w.mgr.nmSinks.lookup c = none
  listed : ∀ rest, remaining (w.client c) = some rest →
    ∀ t s, w.mgr.sessions.lookup t = some s → s.ownerClientId = c → (s.deviceId,t) ∈ rest

/-- A handler changes only in a step of its own client. -/
theorem step_client {a : Action} (c : ClientId) (taken : step daemon w a = some w') :
    w'.client c = w.client c ∨ ∃ action pc sh, a = .client c action ∧
      clientStep daemon w.shared c (w.client c) action = some (pc,sh) ∧ w'.client c = pc ∧ w'.mgr = sh.mgr := by
  cases a with
  | client c' action =>
    obtain ⟨⟨pc,sh⟩,ran,rfl⟩ := Option.map_eq_some_iff.mp taken
    by_cases own : c = c'
    · subst own
      exact Or.inr ⟨action,pc,sh,rfl,ran,Function.update_self ..,rfl⟩
    · exact Or.inl (Function.update_of_ne own _ _)
  | relay c' action =>
    obtain ⟨⟨pc,sh⟩,_,rfl⟩ := Option.map_eq_some_iff.mp taken
    exact Or.inl rfl
  | transport n action =>
    obtain ⟨⟨pc,sh⟩,_,rfl⟩ := Option.map_eq_some_iff.mp taken
    exact Or.inl rfl
  | reader l action =>
    obtain ⟨config,_,stepped⟩ := Option.bind_eq_some_iff.mp taken
    obtain ⟨⟨pc,sh⟩,_,rfl⟩ := Option.map_eq_some_iff.mp stepped
    exact Or.inl rfl
  | worker l =>
    simp only [step] at taken
    split at taken
    · obtain ⟨⟨pc,sh⟩,_,rfl⟩ := Option.map_eq_some_iff.mp taken
      exact Or.inl rfl
    · cases taken
  | hotplug connected info => cases taken; exact Or.inl rfl

/-- What a step of a client does to its handler while the handler ends. -/
inductive Ends (c : ClientId) (m : DeviceManager) : ClientPc → ClientPc → DeviceManager → Prop where
  | apart {pc pc' : ClientPc} {m' : DeviceManager} (silent : silenced pc' = false) (none : remaining pc' = none) :
      Ends c m pc pc' m'
  | still {pc pc' : ClientPc} {m' : DeviceManager} (silent : silenced pc' = silenced pc)
      (same : remaining pc' = remaining pc) : Ends c m pc pc' m'
  | unregistered : Ends c m .unregistering .collecting (m.unregisterNmSink c)
  | collected : Ends c m .collecting (.closingAll (m.sessionsOfClient c) []) m
  | closed (d : DeviceId) (t : Token) (rest : List (DeviceId × Token)) (steps : List TeardownStep) :
      Ends c m (.closingAll ((d,t) :: rest) []) (.closingAll rest steps) (m.close d t c).2

private theorem openStep_apart {sh sh' : Shared} {c : ClientId} {call : OpenCall} {pc : OpenPc} {pc' : ClientPc}
    (taken : openStep daemon sh c call pc = some (pc',sh')) : silenced pc' = false ∧ remaining pc' = none := by
  cases pc with
  | enter | recheck | check | install =>
    simp only [openStep] at taken
    split at taken <;> cases taken <;> exact ⟨rfl,rfl⟩
  | wait g seen =>
    obtain ⟨_,same⟩ := Option.ite_none_right_eq_some.mp taken
    cases same; exact ⟨rfl,rfl⟩
  | stopLocal g steps =>
    cases steps with
    | nil => cases taken; exact ⟨rfl,rfl⟩
    | cons instruction rest =>
      obtain ⟨sh₁,_,result⟩ := Option.map_eq_some_iff.mp taken
      cases result; exact ⟨rfl,rfl⟩
  | release g =>
    obtain ⟨rfl,_⟩ := Prod.mk.inj (Option.some.inj taken)
    split <;> exact ⟨rfl,rfl⟩
  | physical g => cases taken
  | spawn | start | notify => cases taken; exact ⟨rfl,rfl⟩

private theorem nmStep_apart {sh sh' : Shared} {c : ClientId} {d : DeviceId} {op : ReportOp} {pc : NmPc} {pc' : ClientPc}
    (taken : nmStep sh c d op pc = some (pc',sh')) : silenced pc' = false ∧ remaining pc' = none := by
  unfold nmStep at taken
  split at taken
  · split at taken <;> cases taken <;> exact ⟨rfl,rfl⟩
  · cases taken; exact ⟨rfl,rfl⟩
  · cases taken; exact ⟨rfl,rfl⟩
  · split at taken
    · cases taken; exact ⟨rfl,rfl⟩
    · obtain ⟨sh₁,_,result⟩ := Option.map_eq_some_iff.mp taken
      cases result; exact ⟨rfl,rfl⟩
  · split at taken <;> cases taken
    exact ⟨rfl,rfl⟩

theorem client_ends {sh sh' : Shared} {c : ClientId} {pc pc' : ClientPc} {a : ClientAction}
    (taken : clientStep daemon sh c pc a = some (pc',sh')) : Ends c sh.mgr pc pc' sh'.mgr := by
  unfold clientStep at taken
  split at taken
  · obtain ⟨_,result⟩ := Option.ite_none_right_eq_some.mp taken
    cases result; exact .apart rfl rfl
  · cases taken; exact .apart rfl rfl
  · obtain ⟨_,result⟩ := Option.ite_none_right_eq_some.mp taken
    cases result; exact .apart rfl rfl
  · obtain ⟨rfl,_⟩ := Prod.mk.inj (Option.some.inj taken)
    split <;> exact .apart rfl rfl
  · cases taken; exact .apart rfl rfl
  · exact .apart (openStep_apart taken).1 (openStep_apart taken).2
  · dsimp only at taken
    split at taken <;> cases taken <;> exact .apart rfl rfl
  · cases taken; exact .apart rfl rfl
  · obtain ⟨sh₁,_,result⟩ := Option.map_eq_some_iff.mp taken
    cases result; exact .apart rfl rfl
  · split at taken <;> cases taken <;> exact .apart rfl rfl
  · split at taken <;> cases taken <;> exact .apart rfl rfl
  · exact .apart (nmStep_apart taken).1 (nmStep_apart taken).2
  · cases taken; exact .apart rfl rfl
  · cases taken; exact .apart rfl rfl
  · cases taken; exact .unregistered
  · cases taken; exact .collected
  · obtain ⟨sh₁,_,result⟩ := Option.map_eq_some_iff.mp taken
    cases result
    exact .still rfl rfl
  next d t rest =>
    dsimp only at taken
    split at taken <;> cases taken <;> exact .closed d t rest _
  · cases taken; exact .still rfl rfl
  · cases taken

/-- Only a client that is connecting registers its sink. -/
theorem registers_connecting {a : Action} {c : ClientId} {sink : Sink}
    (runs : operationOf daemon w a = some (.registerNmSink c sink)) :
    ∃ action, a = .client c action ∧ w.client c = .connecting := by
  have teardown {instruction : TeardownStep} : ofTeardown instruction ≠ some (.registerNmSink c sink) := by
    cases instruction <;> exact fun same => by cases same
  cases a with
  | client c' action =>
    simp only [operationOf] at runs
    unfold ofClient at runs
    split at runs
    all_goals first | (cases runs; exact ⟨_,rfl,by assumption⟩) | cases runs | exact absurd runs teardown | skip
    next call pc here =>
      cases pc with
      | stopLocal g steps => cases steps <;> first | cases runs | exact absurd runs teardown
      | _ => cases runs
  | relay c' action =>
    simp only [operationOf,ofRelay] at runs
    split at runs
    · obtain ⟨d,_,same⟩ := Option.map_eq_some_iff.mp runs
      cases same
    · exact absurd runs teardown
    · cases runs
  | transport n action =>
    simp only [operationOf,ofTransport] at runs
    split at runs <;> cases runs
  | reader l action =>
    obtain ⟨config,_,runs⟩ := Option.bind_eq_some_iff.mp runs
    simp only [ofReader] at runs
    split at runs
    · cases runs
    · exact absurd runs teardown
    · cases runs
  | worker l => cases runs
  | hotplug connected info => cases runs

/-- A sink that is not there stays away, unless its client is connecting. -/
theorem sink_absent (ok : WorldOk daemon w) {a : Action} {c : ClientId} (taken : step daemon w a = some w')
    (absent : w.mgr.nmSinks.lookup c = none) (connected : w.client c ≠ .connecting) : w'.mgr.nmSinks.lookup c = none := by
  rw [step_operation taken]
  cases runs : operationOf daemon w a with
  | none => exact absent
  | some operation =>
    rcases run_sinks ok.coherent operation c with same | rfl | ⟨sink,rfl⟩
    · exact same.trans absent
    · exact AList.lookup_erase _ _
    · exact absurd (registers_connecting runs).choose_spec.2 connected

/-- A session of a client that opens nothing was there before. -/
theorem session_before (ok : WorldOk daemon w) {a : Action} {c : ClientId} (taken : step daemon w a = some w')
    (settled : pendingCall (w.client c) = none) {t : Token} {s' : Session} (found : w'.mgr.sessions.lookup t = some s')
    (owner : s'.ownerClientId = c) :
    ∃ s, w.mgr.sessions.lookup t = some s ∧ s.ownerClientId = c ∧ s.deviceId = s'.deviceId := by
  have move := step_move ok taken
  rcases move.effect.session found with absent | ⟨s,before,owned,device,_⟩
  · obtain ⟨call,pending⟩ := move.opener absent found
    rw [owner,settled] at pending
    cases pending
  · exact ⟨s,before,owned.trans owner,device⟩

/-- A client whose handler has done nothing more to itself keeps leaving. -/
private theorem Leaving.stays {c : ClientId} {a : Action} (leaving : Leaving w c) (ok : WorldOk daemon w)
    (taken : step daemon w a = some w') (silent : silenced (w'.client c) = silenced (w.client c))
    (same : remaining (w'.client c) = remaining (w.client c)) : Leaving w' c where
  silent gone := by
    rw [silent] at gone
    exact sink_absent ok taken (leaving.silent gone) (fun here => by rw [here] at gone; cases gone)
  listed rest lists t s' found owner := by
    rw [same] at lists
    have settled : pendingCall (w.client c) = none := by
      cases here : w.client c <;> rw [here] at lists <;> first | rfl | cases lists
    obtain ⟨s,before,owned,device⟩ := session_before ok taken settled found owner
    exact device ▸ leaving.listed rest lists t s before owned

/-- A client's own session is gone once it is closed. -/
theorem close_removes {d : DeviceId} {t : Token} {c : ClientId} {s : Session} (found : m.sessions.lookup t = some s)
    (device : s.deviceId = d) (owner : s.ownerClientId = c) (active : s.active = true) :
    (m.close d t c).2.sessions.lookup t = none := by
  have ended : (m.endSession t s).sessions.lookup t = none :=
    (congrArg (·.lookup t) (same_updateNonNmCount _ _ _).sessions).trans (AList.lookup_erase _ _)
  simp only [close,found,device,owner,active,ne_eq,not_true_eq_false,if_false,Bool.not_true,Bool.false_eq_true]
  split
  · exact ended
  · exact (congrArg (·.lookup t) (refresh_sessions _ _ _)).trans ended

/-- What a step of the client itself keeps. -/
private theorem Leaving.own {c : ClientId} {action : ClientAction} (leaving : Leaving w c) (ok : WorldOk daemon w)
    (taken : step daemon w (.client c action) = some w') (ends : Ends c w.mgr (w.client c) (w'.client c) w'.mgr) :
    Leaving w' c := by
  generalize before : w.client c = pc at ends
  generalize after : w'.client c = pc' at ends
  generalize result : w'.mgr = m' at ends
  cases ends with
  | apart silent none =>
    refine ⟨fun gone => ?_,fun rest lists => ?_⟩
    · rw [after,silent] at gone; cases gone
    · rw [after,none] at lists; cases lists
  | still silent same => exact leaving.stays ok taken (by rw [after,before,silent]) (by rw [after,before,same])
  | unregistered =>
    refine ⟨fun _ => ?_,fun rest lists => ?_⟩
    · rw [result]; exact AList.lookup_erase _ _
    · rw [after] at lists; cases lists
  | collected =>
    refine ⟨fun _ => ?_,fun rest lists t s found owner => ?_⟩
    · rw [result]; exact leaving.silent (by rw [before]; rfl)
    · rw [after] at lists
      rw [result] at found
      obtain rfl := Option.some.inj lists
      obtain ⟨token,active⟩ := ok.coherent.registry.keyed t s found
      refine List.mem_map.mpr ⟨s,List.mem_filter.mpr ⟨mem_values.mpr ⟨t,found⟩,?_⟩,by rw [token]⟩
      simp [owner,active]
  | closed d t rest steps =>
    refine ⟨fun _ => ?_,fun rest' lists t' s' found owner => ?_⟩
    · exact sink_absent ok taken (leaving.silent (by rw [before]; rfl)) (by rw [before]; exact fun same => by cases same)
    · rw [after] at lists
      obtain rfl := Option.some.inj lists
      obtain ⟨s,there,owned,device⟩ := session_before ok taken (by rw [before]; rfl) found owner
      rcases List.mem_cons.mp (device ▸ leaving.listed _ (by rw [before]; rfl) t' s there owned) with first | later
      swap
      · exact later
      -- The session that was first in the list has just been closed.
      obtain ⟨rfl,rfl⟩ := Prod.mk.inj first
      rw [result,close_removes there device owned (ok.coherent.registry.keyed t' s there).2] at found
      cases found

theorem Leaving.next (leaving : ∀ c, Leaving w c) (ok : WorldOk daemon w) {a : Action} (taken : step daemon w a = some w')
    (c : ClientId) : Leaving w' c := by
  rcases step_client c taken with same | ⟨action,pc,sh,rfl,ran,here,mgr⟩
  · exact (leaving c).stays ok taken (by rw [same]) (by rw [same])
  · exact (leaving c).own ok taken (by rw [here,mgr]; exact client_ends ran)

/-- The sessions and sinks of other clients stay, and the entries of those sessions. -/
structure Spares (c : ClientId) (m m' : DeviceManager) : Prop where
  sessions : ∀ t s, m.sessions.lookup t = some s → s.ownerClientId ≠ c → m'.sessions.lookup t = some s
  entries : ∀ t s, m.sessions.lookup t = some s → s.ownerClientId ≠ c →
    m'.devices.lookup s.deviceId = m.devices.lookup s.deviceId
  sinks : ∀ other, other ≠ c → m'.nmSinks.lookup other = m.nmSinks.lookup other

theorem Spares.of_same {c : ClientId} (same : SameRegistry m m') : Spares c m m' :=
  ⟨fun _ _ found _ => by rwa [same.sessions],fun _ _ _ _ => by rw [same.devices],fun _ _ => by rw [same.sinks]⟩

theorem spares_unregister (c : ClientId) : Spares c m (m.unregisterNmSink c) :=
  ⟨fun _ _ found _ => found,fun _ _ _ _ => rfl,fun _ different => AList.lookup_erase_ne different⟩

theorem spares_close (coherent : Coherent m) (d : DeviceId) (t : Token) (c : ClientId) : Spares c m (m.close d t c).2 := by
  rcases close_cases coherent d t c with ⟨_,same⟩ | ⟨s,found,device,owner,⟨_,_,refreshes⟩ | ⟨last,_,detached⟩⟩
  · rw [same]; exact .of_same (.refl m)
  · have apart {t' : Token} {s' : Session} (there : m.sessions.lookup t' = some s') (other : s'.ownerClientId ≠ c) :
        t' ≠ t := by
      rintro rfl
      rw [found] at there
      exact other (Option.some.inj there ▸ owner)
    have sinks := refreshes_sinks refreshes
    obtain ⟨middle,touched,result⟩ := refreshes
    refine ⟨?_,?_,fun _ _ => by rw [sinks]⟩
    · intro t' s' there other
      rw [result,refresh_sessions,touched.others t' (apart there other),there]
    · intro t' s' there other
      rw [result,refresh_devices]
      rcases touched.devices s'.deviceId with same | ⟨same,absent⟩
      · exact same
      · obtain ⟨e,present⟩ := (coherent.registry.published s'.deviceId).mpr ⟨t',s',there,rfl⟩
        rw [same,absent] at present
        cases present
  · have elsewhere {t' : Token} {s' : Session} (there : m.sessions.lookup t' = some s') (other : s'.ownerClientId ≠ c) :
        s'.deviceId ≠ d := by
      refine last t' s' ?_ there
      rintro rfl
      rw [found] at there
      exact other (Option.some.inj there ▸ owner)
    refine ⟨?_,?_,fun _ _ => by rw [detached.sinks]⟩
    · exact fun t' s' there other => (detached.session_iff t' s').mpr ⟨there,elsewhere there other⟩
    · intro t' s' there other
      rw [detached.devices,if_neg (elsewhere there other)]

/-- The request loop has ended and the handler has not returned. -/
def cleansUp : ClientPc → Bool
  | .aborting => true
  | .unregistering => true
  | .collecting => true
  | .closingAll _ _ => true
  | _ => false

theorem cleanup_spares (coherent : Coherent w.mgr) {c : ClientId} {action : ClientAction}
    (cleaning : cleansUp (w.client c) = true) (taken : step daemon w (.client c action) = some w') :
    Spares c w.mgr w'.mgr := by
  rw [step_operation taken]
  have teardown (instruction : TeardownStep) : Spares c w.mgr (after w.mgr (ofTeardown instruction)) := by
    cases instruction with
    | subNonNm n => exact .of_same ⟨rfl,rfl,rfl,rfl,rfl,rfl,rfl,rfl⟩
    | _ => exact .of_same ⟨rfl,rfl,rfl,rfl,rfl,rfl,rfl,rfl⟩
  have same : Spares c w.mgr (after w.mgr none) := .of_same (.refl _)
  simp only [operationOf]
  cases here : w.client c with
  | aborting | collecting => cases action <;> exact same
  | unregistering => cases action <;> first | exact spares_unregister c | exact same
  | closingAll rest steps =>
    rcases steps with _ | ⟨instruction,steps⟩
    · rcases rest with _ | ⟨⟨d,t⟩,rest⟩
      · cases action <;> exact same
      · cases action <;> first | exact spares_close coherent d t c | exact same
    · cases action <;> first | exact teardown instruction | exact same
  | _ => rw [here] at cleaning; cases cleaning

/-- Nothing of the client is left in the registry. -/
structure Departed (c : ClientId) (m : DeviceManager) : Prop where
  sessions : ∀ t s, m.sessions.lookup t = some s → s.ownerClientId ≠ c
  hot : ∀ d, m.nmHot.lookup (c,d) = none
  sink : m.nmSinks.lookup c = none

theorem Leaving.departed {c : ClientId} (leaving : Leaving w c) (coherent : Coherent w.mgr) (gone : w.client c = .gone) :
    Departed c w.mgr := by
  have silent := leaving.silent (by rw [gone]; rfl)
  refine ⟨?_,?_,silent⟩
  · intro t s found owner
    exact absurd (leaving.listed [] (by rw [gone]; rfl) t s found owner) (List.not_mem_nil)
  · intro d
    by_contra present
    obtain ⟨hot,stored⟩ := Option.ne_none_iff_exists'.mp present
    obtain ⟨⟨sink,there⟩,_⟩ := (binding_iff coherent c d).mp ⟨hot,stored⟩
    rw [silent] at there
    cases there

theorem gone_stays {c : ClientId} {a : Action} (gone : w.client c = .gone) (taken : step daemon w a = some w') :
    w'.client c = .gone := by
  rcases step_client c taken with same | ⟨action,pc,sh,_,ran,_⟩
  · exact same.trans gone
  · rw [gone] at ran
    cases action <;> cases ran

theorem reachable_leaving {trace : List Action} (run : exec (step daemon) {} trace = some w) :
    WorldOk daemon w ∧ ∀ c, Leaving w c := by
  refine exec_invariant (I := fun w => WorldOk daemon w ∧ ∀ c, Leaving w c) ?_ ⟨init_ok daemon,?_⟩ run
  · rintro w a w' ⟨ok,leaving⟩ taken
    exact ⟨step_ok ok taken,Leaving.next leaving ok taken⟩
  · exact fun c => ⟨fun gone => (by cases gone),fun _ lists => (by cases lists)⟩

/-- Once the handler of a client has returned, nothing of the client is in the registry
    any more, now or later; and no step of its clean-up takes anything from the others. -/
theorem disconnect_leaves {trace : List Action} (run : exec (step daemon) {} trace = some w) (c : ClientId) :
    (w.client c = .gone → ∀ later w', exec (step daemon) w later = some w' → Departed c w'.mgr) ∧
      ∀ action w', cleansUp (w.client c) = true → step daemon w (.client c action) = some w' → Spares c w.mgr w'.mgr := by
  constructor
  · intro gone later w' rest
    have still : w'.client c = .gone :=
      exec_invariant (I := fun w => w.client c = .gone) (fun _ _ _ gone taken => gone_stays gone taken) gone rest
    obtain ⟨ok,leaving⟩ := reachable_leaving (exec_append.mpr ⟨w,run,rest⟩)
    exact (leaving c).departed ok.coherent still
  · intro action w' cleaning taken
    exact cleanup_spares (reachable_leaving run).1.coherent cleaning taken

/-- Two clients share the device, and the first leaves. -/
def sharedThenLeaves : List Action :=
  connecting 1 ++ openingFirst 1 tokenA ++ connecting 2 ++ [.client 2 (.openDevice 7 tokenB),.client 2 .advance] ++
    .client 1 .disconnect :: List.replicate 3 (.client 1 .advance)

/-- The session of the second client is spared when that of the first is closed. -/
theorem disconnect_leaves_shared : ∃ w w' w'',
    exec (step vendorDaemon) {} sharedThenLeaves = some w ∧ step vendorDaemon w (.client 1 .advance) = some w' ∧
    step vendorDaemon w' (.client 1 .advance) = some w'' ∧ Spares 1 w.mgr w'.mgr ∧ Departed 1 w''.mgr ∧
    (w.mgr.sessions.lookup tokenA).isSome ∧ (w''.mgr.sessions.lookup tokenB).isSome := by
  obtain ⟨w'',whole,facts⟩ := Option.map_eq_some_iff.mp (by decide :
    (exec (step vendorDaemon) {} (sharedThenLeaves ++ [.client 1 .advance,.client 1 .advance])).map (fun w =>
      (w.client 1 matches .gone,(w.mgr.sessions.lookup tokenB).isSome)) = some (true,true))
  obtain ⟨w,run,rest⟩ := exec_append.mp whole
  obtain ⟨w',taken,rest⟩ := exec_cons.mp rest
  obtain ⟨last,taken',done⟩ := exec_cons.mp rest
  obtain rfl : last = w'' := Option.some.inj done
  have before : (exec (step vendorDaemon) {} sharedThenLeaves).map (fun w =>
      (cleansUp (w.client 1),(w.mgr.sessions.lookup tokenA).isSome)) = some (true,true) := by decide
  rw [run] at before
  obtain ⟨cleaning,present⟩ := Prod.mk.inj (Option.some.inj before)
  obtain ⟨gone,other⟩ := Prod.mk.inj facts
  have left : last.client 1 = .gone := by
    cases here : last.client 1 <;> rw [here] at gone <;> first | rfl | cases gone
  refine ⟨w,w',last,run,taken,taken',?_,?_,present,other⟩
  · exact (disconnect_leaves run 1).2 _ w' cleaning taken
  · exact (disconnect_leaves whole 1).1 left [] last rfl

end FFWebHid.ClientDisconnects
