import FFWebHid.Runs
import FFWebHid.Maps
import FFWebHid.Tallies
import FFWebHid.Types
import FFWebHid.Registry
import FFWebHid.Lifecycle
import FFWebHid.Coherence
import FFWebHid.Sections
import FFWebHid.Threads
import FFWebHid.Safety
import FFWebHid.Operations

/-!
The counter of sessions that are not on native messaging. Sections count a session when its
mode changes; the two that detach a device leave the subtraction to the thread that runs
them, after the mutex is released. At any time the counter is what the sessions say plus
what the threads have still to subtract.
-/
namespace FFWebHid.NonNmCount
open FFWebHid.Runs FFWebHid.Types FFWebHid.Maps FFWebHid.Tallies FFWebHid.Registry FFWebHid.Lifecycle FFWebHid.Coherence
open FFWebHid.Sections FFWebHid.Threads FFWebHid.Safety FFWebHid.Operations FFWebHid.Registry.DeviceManager

variable {daemon : Daemon} {w w' : World} {m m' : DeviceManager}

def nonNm (s : Session) : Bool := s.active && s.mode.isNonNm

/-- The live sessions whose mode is not `nm`. -/
def live (m : DeviceManager) : Nat := tally nonNm m.sessions

/-- What the instructions of a teardown have still to subtract. -/
def debt : List TeardownStep → Nat
  | [] => 0
  | .subNonNm n :: rest => n + debt rest
  | _ :: rest => debt rest

def relayOwes : RelayPc → Nat
  | .teardown steps => debt steps
  | .idle => 0

def readerOwes : ReaderPc → Nat
  | .cleanup steps => debt steps
  | _ => 0

/-- The subtractions that force-closing event tasks and dead readers have still to make. -/
noncomputable def owed (w : World) : Nat :=
  finsum (fun c => relayOwes (w.relay c)) + finsum fun l => readerOwes (w.reader l)

/-- Only finitely many threads owe anything. -/
structure Finite (w : World) : Prop where
  relays : (Function.support fun c => relayOwes (w.relay c)).Finite
  readers : (Function.support fun l => readerOwes (w.reader l)).Finite

/-- The teardowns of a client's own requests. -/
def clientOwes : ClientPc → Nat
  | .opening _ (.stopLocal _ steps) => debt steps
  | .closing steps => debt steps
  | .closingAll _ steps => debt steps
  | _ => 0

/-- What a section adds to what its thread owes. -/
def charge (m : DeviceManager) : Operation → Nat
  | .forceClose d => m.nonNmOn d
  | .detachDeadReaderLifetime d => if (m.devices.lookup d).isSome then m.nonNmOn d else 0
  | _ => 0

/-- What it pays off. -/
def payment : Operation → Nat
  | .subNonNm n => n
  | _ => 0

/-- A section that charges and pays the given amounts keeps the balance. The total rises
    only when a session is counted. -/
structure Balanced (m : DeviceManager) (charge payment : Nat) (m' : DeviceManager) : Prop where
  counter : ∀ x y, y + payment = x + charge → m.nonNmSessions = (live m + x) % 0x10000000000000000 →
    m'.nonNmSessions = (live m' + y) % 0x10000000000000000
  total : live m' + charge ≤ live m ∨ live m' = live m + 1 ∧ charge = 0 ∧ payment = 0

theorem Balanced.same (sessions : m'.sessions = m.sessions) (count : m'.nonNmSessions = m.nonNmSessions) :
    Balanced m 0 0 m' := by
  have lives : live m' = live m := congrArg (tally nonNm) sessions
  refine ⟨?_,Or.inl lives.le⟩
  intro x y owes counted
  rw [count,counted,lives,show y = x from owes]

theorem Balanced.pays (n : Nat) : Balanced m 0 n (m.subNonNm n) := by
  have lives : live (m.subNonNm n) = live m := rfl
  refine ⟨?_,Or.inl lives.le⟩
  intro x y owes counted
  rw [lives]
  show fetchSub m.nonNmSessions n = _
  unfold fetchSub
  omega

/-- The counter after `update_non_nm_count`. -/
def counted (n : Nat) : Bool → Bool → Nat
  | false,true => fetchAdd n 1
  | true,false => fetchSub n 1
  | _,_ => n

theorem updateNonNmCount_count (was now : Bool) : (m.updateNonNmCount was now).nonNmSessions = counted m.nonNmSessions was now := by
  cases was <;> cases now <;> rfl

theorem refresh_count (d : DeviceId) (c : ClientId) : (m.refreshNmHotLocked d c).nonNmSessions = m.nonNmSessions := by
  unfold refreshNmHotLocked
  split <;> rfl

/-- One session changes, and is counted as it should be. -/
theorem Balanced.changes {t : Token} (others : ∀ t', t' ≠ t → m'.sessions.lookup t' = m.sessions.lookup t')
    (count : m'.nonNmSessions = counted m.nonNmSessions ((m.sessions.lookup t).any nonNm) ((m'.sessions.lookup t).any nonNm)) :
    Balanced m 0 0 m' := by
  have changed : live m' + weigh nonNm (m.sessions.lookup t) = live m + weigh nonNm (m'.sessions.lookup t) :=
    tally_change others
  unfold weigh at changed
  cases was : (m.sessions.lookup t).any nonNm <;> cases now : (m'.sessions.lookup t).any nonNm
  all_goals
    simp only [was,now,if_true,Bool.false_eq_true,if_false] at changed
    rw [was,now] at count
    simp only [counted,fetchAdd,fetchSub] at count
    exact ⟨fun x y owes counted => by omega,by omega⟩

theorem nonNmOn_eq (coherent : Coherent m) (d : DeviceId) :
    m.nonNmOn d = tally (fun s => !(s.deviceId != d) && nonNm s) m.sessions := by
  unfold nonNmOn tally
  rw [← List.countP_eq_length_filter]
  refine List.countP_congr fun s member => ?_
  obtain ⟨t,found⟩ := mem_values.mp member
  simp [nonNm,(coherent.registry.keyed t s found).2,Mode.isNonNm]

theorem Balanced.detached (coherent : Coherent m) {d : DeviceId} (detached : Detached d m m')
    (count : m'.nonNmSessions = m.nonNmSessions) : Balanced m (m.nonNmOn d) 0 m' := by
  have parts : live m' + m.nonNmOn d = live m := by
    rw [nonNmOn_eq coherent]
    exact tally_filter detached.sessions
  exact ⟨fun x y owes counted => by omega,Or.inl parts.le⟩

private theorem registered_balanced {d : DeviceId} {t : Token} {c : ClientId} {h : String}
    (absent : m.sessions.lookup t = none) (done : m.registerAndRefresh d t c h = some m') : Balanced m 0 0 m' := by
  obtain ⟨registered,_⟩ := registerAndRefresh_registered done
  refine Balanced.changes registered.others ?_
  rw [absent,registered.session]
  obtain ⟨_,rfl⟩ := registerAndRefresh_eq.mp done
  exact refresh_count ..

/-- The sections of an open, for a token that is not in use. -/
private theorem opening_balanced {hash : String} {c : ClientId} {call : OpenCall} {pc : OpenPc} {operation : Operation}
    (runs : ofOpen hash c call pc = some operation) (opening : isOpening operation = true)
    (absent : pendingCall (.opening call pc) = some call → m.sessions.lookup call.token = none) :
    Balanced m 0 0 (operation.run m) := by
  cases pc with
  | enter =>
    cases runs
    rcases openEnter_cases m call.deviceId call.token c hash with ⟨m₁,done,result⟩ | ⟨g,seen,result⟩ | result
    all_goals simp only [Operation.run,result]
    · exact registered_balanced (absent rfl) done
    all_goals exact .same rfl rfl
  | recheck =>
    cases runs
    rcases openRecheck_cases m call.deviceId call.token c hash with ⟨m₁,done,result⟩ | result | result
    all_goals simp only [Operation.run,result]
    · exact registered_balanced (absent rfl) done
    all_goals exact .same rfl rfl
  | check g info numbered =>
    cases runs
    rcases openCheck_cases m call.deviceId info.deviceId g call.token c hash with ⟨m₁,done,result⟩ | result | result
    all_goals simp only [Operation.run,result]
    · exact registered_balanced (absent rfl) done
    all_goals exact .same rfl rfl
  | install g id entry =>
    cases runs
    simp only [Operation.run,openInstall]
    split
    · split
      next done => exact registered_balanced (absent rfl) done
      next =>
        let published : DeviceManager := { m with devices := m.devices.insert id entry }
        dsimp only
        cases done : published.registerAndRefresh id call.token c hash with
        | none => exact .same rfl rfl
        | some m₁ =>
          have balanced : Balanced published 0 0 m₁ := registered_balanced (absent rfl) done
          exact ⟨balanced.counter,balanced.total⟩
    · exact .same rfl rfl
  | stopLocal g steps =>
    cases steps with
    | nil => cases runs
    | cons instruction rest => rw [ofTeardown_outside runs] at opening; cases opening
  | release g =>
    cases runs
    simp only [Operation.run,releaseReservation]
    split <;> exact .same rfl rfl
  | notify g => cases runs; cases opening
  | wait g seen => cases runs
  | physical g => cases runs
  | spawn g info numbered => cases runs
  | start g => cases runs

/-- The session of a token becomes another, or goes. -/
private theorem switched_balanced {t : Token} {s : Session} {s' : Option Session} (was now : Bool)
    (found : m.sessions.lookup t = some s) (before : was = nonNm s) (after : now = s'.any nonNm)
    (sessions : ∀ t', m'.sessions.lookup t' = if t' = t then s' else m.sessions.lookup t')
    (count : m'.nonNmSessions = counted m.nonNmSessions was now) : Balanced m 0 0 m' := by
  refine .changes (t := t) (fun t' other => by rw [sessions,if_neg other]) ?_
  rw [sessions,if_pos rfl,found,count,before,after]
  rfl

private theorem close_balanced (coherent : Coherent m) (d : DeviceId) (t : Token) (c : ClientId) :
    Balanced m 0 0 (m.close d t c).2 := by
  unfold close
  split
  · exact .same rfl rfl
  next s found =>
  split
  · exact .same rfl rfl
  split
  · exact .same rfl rfl
  split
  · exact .same rfl rfl
  have before : s.mode.isNonNm = nonNm s := by simp [nonNm,(coherent.registry.keyed t s found).2]
  have sessions (t' : Token) : (m.endSession t s).sessions.lookup t' = if t' = t then none else m.sessions.lookup t' :=
    (congrArg (·.lookup t') (same_updateNonNmCount _ _ _).sessions).trans (lookup_erase_eq _ _ _)
  have count : (m.endSession t s).nonNmSessions = counted m.nonNmSessions s.mode.isNonNm false :=
    updateNonNmCount_count ..
  dsimp only
  split
  · exact switched_balanced s.mode.isNonNm false found before rfl sessions count
  · have refreshed (t' : Token) : ((m.endSession t s).refreshNmHotLocked d c).sessions.lookup t' =
        if t' = t then none else m.sessions.lookup t' := by
      rw [refresh_sessions,sessions]
    exact switched_balanced s.mode.isNonNm false found before rfl refreshed ((refresh_count _ _).trans count)

private theorem setDataplaneMode_balanced {d : DeviceId} {t : Token} {mode : Option Mode} {c : ClientId}
    (coherent : Coherent m) (done : m.setDataplaneMode d t mode c = .ok m') : Balanced m 0 0 m' := by
  cases mode with
  | none => cases done
  | some mode =>
    obtain ⟨s,found,_,sessions⟩ := setDataplaneMode_switches done
    have active := (coherent.registry.keyed t s found).2
    refine switched_balanced s.mode.isNonNm mode.isNonNm found ?_ ?_ sessions ?_
    · simp [nonNm,active]
    · simp [nonNm,active]
    · unfold setDataplaneMode at done
      rw [found] at done
      dsimp only at done
      split_ifs at done
      cases done
      exact (refresh_count _ _).trans (updateNonNmCount_count _ _)

private theorem connect_balanced {kind : TransportKind} {d : DeviceId} {t : Token} {grant : TransportGrant}
    (coherent : Coherent m) (done : m.connect kind d t = some (grant,m')) : Balanced m 0 0 m' := by
  obtain ⟨s,found,_,_,sessions⟩ := connect_grants done
  have active := (coherent.registry.keyed t s found).2
  refine switched_balanced s.mode.isNonNm true found ?_ ?_ sessions ?_
  · simp [nonNm,active]
  · cases kind <;> simp [nonNm,active,TransportKind.connected,Mode.isNonNm]
  · unfold connect at done
    rw [found] at done
    dsimp only at done
    split_ifs at done
    cases done
    exact (refresh_count _ _).trans (updateNonNmCount_count _ _)

private theorem disconnect_balanced (coherent : Coherent m) (kind : TransportKind) (d : DeviceId) (t : Token) (g : Nat)
    (f : Flag) : Balanced m 0 0 (m.disconnect kind d t g f) := by
  rcases disconnect_cases coherent kind d t g f with ⟨s,counts,_⟩ | ⟨_,same⟩
  swap
  · rw [same]; exact .same rfl rfl
  obtain ⟨_,sessions⟩ := disconnect_switches counts
  obtain ⟨found,fits,current⟩ := counts
  have active := (coherent.registry.keyed t s found).2
  refine switched_balanced s.mode.isNonNm false found ?_ ?_ sessions ?_
  · simp [nonNm,active]
  · simp [nonNm,Mode.isNonNm]
  · unfold disconnect
    rw [found]
    dsimp only
    rw [if_pos fits,if_pos current]
    exact (refresh_count _ _).trans (updateNonNmCount_count _ _)

/-- Every other section. -/
private theorem outside_balanced (coherent : Coherent m) {operation : Operation} (outside : isOpening operation = false) :
    Balanced m (charge m operation) (payment operation) (operation.run m) := by
  cases operation with
  | openEnter | openRecheck | openCheck | openInstall | releaseReservation => cases outside
  | newClientId | unregisterNmSink | notifyWaiters | cancel => exact .same rfl rfl
  | subNonNm n => exact .pays n
  | registerNmSink c sink =>
    have folded (ds : List DeviceId) (m : DeviceManager) :
        (ds.foldl (fun m d => m.refreshNmHotLocked d c) m).sessions = m.sessions ∧
          (ds.foldl (fun m d => m.refreshNmHotLocked d c) m).nonNmSessions = m.nonNmSessions := by
      induction ds generalizing m with
      | nil => exact ⟨rfl,rfl⟩
      | cons d rest ih => exact ⟨(ih _).1.trans (refresh_sessions ..),(ih _).2.trans (refresh_count ..)⟩
    exact .same (folded _ _).1 (folded _ _).2
  | close d t c => exact close_balanced coherent d t c
  | setDataplaneMode d t mode c =>
    simp only [Operation.run]
    cases done : m.setDataplaneMode d t mode c with
    | error _ => exact .same rfl rfl
    | ok m' => exact setDataplaneMode_balanced coherent done
  | connect kind d t =>
    simp only [Operation.run]
    cases done : m.connect kind d t with
    | none => exact .same rfl rfl
    | some granted => exact connect_balanced coherent done
  | disconnect kind d t g f => exact disconnect_balanced coherent kind d t g f
  | forceClose d =>
    refine .detached coherent (forceClose_detached coherent d).1 ?_
    simp only [Operation.run,forceClose,tellOpener]
    split <;> rfl
  | detachDeadReaderLifetime d =>
    simp only [Operation.run,charge]
    cases done : m.detachDeadReaderLifetime d with
    | none =>
      rw [Option.map_eq_none_iff.mp done]
      exact .same rfl rfl
    | some removed =>
      obtain ⟨detached,present⟩ := detachDeadReaderLifetime_detached coherent done
      obtain ⟨entry,_,result⟩ := Option.map_eq_some_iff.mp done
      rw [present]
      exact .detached coherent detached (by cases result; rfl)

/-! ### What a step changes -/

def charges (m : DeviceManager) (operation : Option Operation) : Nat := operation.elim 0 (charge m)

def pays (operation : Option Operation) : Nat := operation.elim 0 payment

theorem debt_append (first rest : List TeardownStep) : debt (first ++ rest) = debt first + debt rest := by
  induction first with
  | nil => simp [debt]
  | cons instruction steps ih =>
    cases instruction <;> simp only [List.cons_append,debt,ih]
    omega

theorem debt_cons (instruction : TeardownStep) (rest : List TeardownStep) :
    debt (instruction :: rest) = pays (ofTeardown instruction) + debt rest := by
  cases instruction with
  | subNonNm n => rfl
  | _ => exact (Nat.zero_add _).symm

theorem debt_stopEntry (e : Entry) : debt (stopEntry e) = 0 := by
  unfold stopEntry
  cases e.ioTx <;> rfl

theorem debt_stopEntryIoWorker (e : Entry) : debt (stopEntryIoWorker e) = 0 := by
  unfold stopEntryIoWorker
  cases e.ioTx <;> rfl

theorem debt_cancels (tokens : List Token) : debt (tokens.map .cancel) = 0 := by
  induction tokens with
  | nil => rfl
  | cons t rest ih => exact ih

theorem debt_count (n : Nat) : debt (if n > 0 then [.subNonNm n] else []) = n := by
  by_cases some : n > 0
  · rw [if_pos some]; rfl
  · rw [if_neg some]
    exact (Nat.eq_zero_of_not_pos some).symm

theorem debt_forceClose (removed : List Token × Nat × Option Entry) : debt (forceCloseTeardown removed) = removed.2.1 := by
  obtain ⟨cancels,n,entry⟩ := removed
  simp only [forceCloseTeardown,debt_append,debt_cancels,debt_count]
  cases entry with
  | none => simp [debt]
  | some e => simp [debt_stopEntry]

theorem debt_deadReader (info : DeviceInfo) (removed : Entry × List Token × Nat) :
    debt (deadReaderTeardown info removed) = removed.2.2 := by
  obtain ⟨entry,cancels,n⟩ := removed
  simp [deadReaderTeardown,debt_append,debt_stopEntryIoWorker,debt_cancels,debt_count,debt]

theorem forceClose_count (d : DeviceId) : (m.forceClose d).1.2.1 = m.nonNmOn d := by
  simp only [forceClose,tellOpener]
  split <;> rfl

/-- A teardown pays what its instruction subtracts. -/
private theorem relay_accounts {sh sh' : Shared} {c : ClientId} {running : Bool} {pc pc' : RelayPc} {a : RelayAction}
    (taken : relayStep sh c running pc a = some (pc',sh')) :
    relayOwes pc' + pays (ofRelay (sh.events c) pc a) = relayOwes pc + charges sh.mgr (ofRelay (sh.events c) pc a) := by
  unfold relayStep at taken
  split at taken
  · split at taken
    · split at taken
      · cases taken
      next first rest queued =>
        obtain ⟨event,stamp⟩ := first
        simp only [ofRelay,queued]
        cases event with
        | deviceDisconnected info =>
          cases taken
          exact (debt_forceClose _).trans ((forceClose_count _).trans (Nat.zero_add _).symm)
        | _ => cases taken; rfl
    · cases taken
  · split at taken <;> cases taken
    rfl
  · cases taken; rfl
  next instruction rest =>
    obtain ⟨sh₁,_,result⟩ := Option.map_eq_some_iff.mp taken
    cases result
    simp only [relayOwes,debt_cons,ofRelay]
    have free : charges sh.mgr (ofTeardown instruction) = 0 := by cases instruction <;> rfl
    omega
  · cases taken

private theorem reader_accounts {sh sh' : Shared} {l : Lifetime} {config : ReaderConfig} {pc pc' : ReaderPc}
    {a : ReaderAction} (taken : readerStep sh l config pc a = some (pc',sh')) :
    readerOwes pc' + pays (ofReader config pc a) = readerOwes pc + charges sh.mgr (ofReader config pc a) := by
  unfold readerStep at taken
  split at taken
  · split at taken <;> cases taken
    rfl
  · split at taken <;> cases taken <;> rfl
  next buf =>
    obtain ⟨rfl,_⟩ := Prod.mk.inj (Option.some.inj taken)
    generalize config.filter.drops _ = drop
    cases drop <;> rfl
  · cases taken; rfl
  · cases taken; rfl
  · cases taken; rfl
  · cases taken; rfl
  · obtain ⟨rfl,_⟩ := Prod.mk.inj (Option.some.inj taken)
    split <;> rfl
  · obtain ⟨rfl,_⟩ := Prod.mk.inj (Option.some.inj taken)
    split <;> rfl
  · cases taken; rfl
  · simp only [ofReader,charges,Option.elim_some,charge]
    split at taken
    next absent =>
      cases taken
      rw [Option.map_eq_none_iff.mp absent]
      rfl
    next removed mgr done =>
      cases taken
      obtain ⟨entry,present,result⟩ := Option.map_eq_some_iff.mp done
      cases result
      simp only [present,Option.isSome_some,if_true]
      have owes := debt_deadReader config.deviceInfo
        (entry,sh.mgr.tokensOn config.deviceId,sh.mgr.nonNmOn config.deviceId)
      exact owes.trans (Nat.zero_add _).symm
  · cases taken; rfl
  next instruction rest =>
    obtain ⟨sh₁,_,result⟩ := Option.map_eq_some_iff.mp taken
    cases result
    simp only [readerOwes,debt_cons,ofReader]
    have free : charges sh.mgr (ofTeardown instruction) = 0 := by cases instruction <;> rfl
    omega
  · cases taken

private theorem openStep_owes {sh sh' : Shared} {c : ClientId} {call : OpenCall} {pc : OpenPc} {pc' : ClientPc}
    (taken : openStep daemon sh c call pc = some (pc',sh')) (none : clientOwes (.opening call pc) = 0) :
    clientOwes pc' = 0 := by
  cases pc with
  | enter | recheck | check =>
    simp only [openStep] at taken
    split at taken <;> cases taken <;> rfl
  | install g id entry =>
    simp only [openStep] at taken
    split at taken <;> cases taken
    · rfl
    · exact debt_stopEntry entry
  | wait g seen =>
    obtain ⟨_,same⟩ := Option.ite_none_right_eq_some.mp taken
    cases same; rfl
  | stopLocal g steps =>
    cases steps with
    | nil => cases taken; rfl
    | cons instruction rest =>
      obtain ⟨sh₁,_,result⟩ := Option.map_eq_some_iff.mp taken
      cases result
      simp only [clientOwes,debt_cons] at none
      exact (Nat.add_eq_zero_iff.mp none).2
  | release g =>
    obtain ⟨rfl,_⟩ := Prod.mk.inj (Option.some.inj taken)
    split <;> rfl
  | physical g => cases taken
  | spawn | start | notify => cases taken; rfl

private theorem nmStep_owes {sh sh' : Shared} {c : ClientId} {d : DeviceId} {op : ReportOp} {pc : NmPc} {pc' : ClientPc}
    (taken : nmStep sh c d op pc = some (pc',sh')) : clientOwes pc' = 0 := by
  unfold nmStep at taken
  split at taken
  · split at taken <;> cases taken <;> rfl
  · cases taken; rfl
  · cases taken; rfl
  · split at taken
    · cases taken; rfl
    · obtain ⟨sh₁,_,result⟩ := Option.map_eq_some_iff.mp taken
      cases result; rfl
  · split at taken <;> cases taken
    rfl

/-- A client closes entries whose sessions it has counted, and owes nothing. -/
private theorem client_owes {sh sh' : Shared} {c : ClientId} {pc pc' : ClientPc} {a : ClientAction}
    (taken : clientStep daemon sh c pc a = some (pc',sh')) (none : clientOwes pc = 0) : clientOwes pc' = 0 := by
  unfold clientStep at taken
  split at taken
  · obtain ⟨_,result⟩ := Option.ite_none_right_eq_some.mp taken
    cases result; rfl
  · cases taken; rfl
  · obtain ⟨_,result⟩ := Option.ite_none_right_eq_some.mp taken
    cases result; rfl
  · obtain ⟨rfl,_⟩ := Prod.mk.inj (Option.some.inj taken)
    split <;> rfl
  · cases taken; rfl
  · exact openStep_owes taken none
  · dsimp only at taken
    split at taken <;> cases taken
    · exact debt_stopEntry _
    · rfl
  · cases taken; rfl
  · obtain ⟨sh₁,_,result⟩ := Option.map_eq_some_iff.mp taken
    cases result
    simp only [clientOwes,debt_cons] at none
    exact (Nat.add_eq_zero_iff.mp none).2
  · split at taken <;> cases taken <;> rfl
  · split at taken <;> cases taken <;> rfl
  · exact nmStep_owes taken
  · cases taken; rfl
  · cases taken; rfl
  · cases taken; rfl
  · cases taken; rfl
  · obtain ⟨sh₁,_,result⟩ := Option.map_eq_some_iff.mp taken
    cases result
    simp only [clientOwes,debt_cons] at none
    exact (Nat.add_eq_zero_iff.mp none).2
  · dsimp only at taken
    split at taken <;> cases taken
    · exact debt_stopEntry _
    · rfl
  · cases taken; rfl
  · cases taken

private theorem client_free (daemon : Daemon) (m : DeviceManager) (c : ClientId) {pc : ClientPc} (a : ClientAction)
    (none : clientOwes pc = 0) :
    pays (ofClient daemon c pc a) = 0 ∧ charges m (ofClient daemon c pc a) = 0 := by
  have teardown {instruction : TeardownStep} {rest : List TeardownStep} (none : debt (instruction :: rest) = 0) :
      pays (ofTeardown instruction) = 0 ∧ charges m (ofTeardown instruction) = 0 := by
    rw [debt_cons] at none
    exact ⟨(Nat.add_eq_zero_iff.mp none).1,by cases instruction <;> rfl⟩
  unfold ofClient
  split
  · exact ⟨rfl,rfl⟩
  · exact ⟨rfl,rfl⟩
  next call pc =>
    cases pc with
    | stopLocal g steps =>
      cases steps with
      | nil => exact ⟨rfl,rfl⟩
      | cons instruction rest => exact teardown none
    | _ => exact ⟨rfl,rfl⟩
  · exact ⟨rfl,rfl⟩
  · exact teardown none
  · exact ⟨rfl,rfl⟩
  · exact ⟨rfl,rfl⟩
  · exact teardown none
  · exact ⟨rfl,rfl⟩
  · exact ⟨rfl,rfl⟩

/-- The debts before and after a step. -/
structure Accounts (daemon : Daemon) (w : World) (a : Action) (w' : World) : Prop where
  clients : ∀ c, clientOwes (w'.client c) = 0
  finite : Finite w'
  owed : owed w' + pays (operationOf daemon w a) = owed w + charges w.mgr (operationOf daemon w a)

theorem step_accounts {a : Action} (clients : ∀ c, clientOwes (w.client c) = 0) (finite : Finite w)
    (taken : step daemon w a = some w') : Accounts daemon w a w' := by
  cases a with
  | client c action =>
    obtain ⟨⟨pc,sh⟩,ran,rfl⟩ := Option.map_eq_some_iff.mp taken
    obtain ⟨nothing,free⟩ := client_free daemon w.mgr c action (clients c)
    refine ⟨fun c' => ?_,⟨finite.relays,finite.readers⟩,?_⟩
    · by_cases own : c' = c
      · subst own
        simpa using client_owes ran (clients c')
      · simpa [own] using clients c'
    · simp only [operationOf,nothing,free]
      rfl
  | relay c action =>
    obtain ⟨⟨pc,sh⟩,ran,rfl⟩ := Option.map_eq_some_iff.mp taken
    have updated : (fun c' => relayOwes (Function.update w.relay c pc c')) =
        Function.update (fun c' => relayOwes (w.relay c')) c (relayOwes pc) := by
      funext c'
      by_cases own : c' = c
      · subst own; simp
      · simp [own]
    have accounts := relay_accounts ran
    have total := finsum_update finite.relays c (relayOwes pc)
    refine ⟨clients,⟨?_,finite.readers⟩,?_⟩
    · dsimp only
      rw [updated]
      exact support_update finite.relays c _
    · simp only [owed,operationOf,updated]
      simp only [World.mgr]
      omega
  | reader l action =>
    obtain ⟨config,configured,stepped⟩ := Option.bind_eq_some_iff.mp taken
    obtain ⟨⟨pc,sh⟩,ran,rfl⟩ := Option.map_eq_some_iff.mp stepped
    have updated : (fun l' => readerOwes (Function.update w.reader l pc l')) =
        Function.update (fun l' => readerOwes (w.reader l')) l (readerOwes pc) := by
      funext l'
      by_cases own : l' = l
      · subst own; simp
      · simp [own]
    have accounts := reader_accounts ran
    have total := finsum_update finite.readers l (readerOwes pc)
    refine ⟨clients,⟨finite.relays,?_⟩,?_⟩
    · dsimp only
      rw [updated]
      exact support_update finite.readers l _
    · simp only [owed,operationOf,configured,Option.bind_some,updated]
      simp only [World.mgr]
      omega
  | transport n action =>
    obtain ⟨⟨pc,sh⟩,_,rfl⟩ := Option.map_eq_some_iff.mp taken
    refine ⟨clients,⟨finite.relays,finite.readers⟩,?_⟩
    simp only [operationOf,ofTransport]
    split <;> rfl
  | worker l =>
    simp only [step] at taken
    split at taken
    · obtain ⟨⟨pc,sh⟩,_,rfl⟩ := Option.map_eq_some_iff.mp taken
      exact ⟨clients,⟨finite.relays,finite.readers⟩,rfl⟩
    · cases taken
  | hotplug connected info =>
    cases taken
    exact ⟨clients,⟨finite.relays,finite.readers⟩,rfl⟩

theorem step_balanced {a : Action} (ok : WorldOk daemon w) (taken : step daemon w a = some w') :
    Balanced w.mgr (charges w.mgr (operationOf daemon w a)) (pays (operationOf daemon w a)) w'.mgr := by
  rw [step_operation taken]
  cases runs : operationOf daemon w a with
  | none => exact .same rfl rfl
  | some operation =>
    cases opening : isOpening operation with
    | false => exact outside_balanced ok.coherent opening
    | true =>
      have free : charge w.mgr operation = 0 ∧ payment operation = 0 := by
        cases operation <;> first | exact ⟨rfl,rfl⟩ | cases opening
      simp only [charges,pays,Option.elim_some,free]
      cases a with
      | client c action =>
        cases here : w.client c with
        | opening call pc =>
          rw [operationOf,here] at runs
          cases action with
          | advance => exact opening_balanced runs opening fun pending => (ok.pending c call (here ▸ pending)).2
          | _ => cases runs
        | _ =>
          have outside := operationOf_outside runs (by rintro c' action' ⟨⟩ call pc; rw [here]; intro same; cases same)
          rw [outside] at opening; cases opening
      | _ =>
        have outside := operationOf_outside runs (by rintro c action ⟨⟩)
        rw [outside] at opening; cases opening

/-- The counter is right, but for the size of its type. -/
structure Counted (daemon : Daemon) (w : World) : Prop where
  ok : WorldOk daemon w
  clients : ∀ c, clientOwes (w.client c) = 0
  finite : Finite w
  counter : w.mgr.nonNmSessions = (live w.mgr + owed w) % 0x10000000000000000

theorem Counted.next {a : Action} (counted : Counted daemon w) (taken : step daemon w a = some w') : Counted daemon w' := by
  have accounts := step_accounts counted.clients counted.finite taken
  have balanced := step_balanced counted.ok taken
  exact ⟨step_ok counted.ok taken,accounts.clients,accounts.finite,balanced.counter _ _ accounts.owed counted.counter⟩

theorem Counted.init (daemon : Daemon) : Counted daemon {} where
  ok := init_ok daemon
  clients _ := rfl
  finite :=
    { relays := by simp [relayOwes]
      readers := by simp [readerOwes] }
  counter := by
    simp only [owed,relayOwes,readerOwes,finsum_zero]
    rfl

/-- In every state of a run only finitely many threads owe anything, and the counter is the
    number of live sessions whose mode is not `nm`, plus what is owed, as far as its type
    goes. As long as the total fits the type, the counter is never smaller than the number of
    those sessions and is that number when nothing is being torn down, and a step raises it
    only when it makes one more such session: no subtraction underflows. -/
theorem non_nm_counted (daemon : Daemon) {trace : List Action} (run : exec (step daemon) {} trace = some w) :
    Finite w ∧ w.mgr.nonNmSessions = (live w.mgr + owed w) % 0x10000000000000000 ∧
      (live w.mgr + owed w < 0x10000000000000000 → w.mgr.nonNmSessions = live w.mgr + owed w ∧
        live w.mgr ≤ w.mgr.nonNmSessions ∧
        ((∀ c, w.relay c = .idle) → (∀ l steps, w.reader l ≠ .cleanup steps) → w.mgr.nonNmSessions = live w.mgr) ∧
        ∀ a w', step daemon w a = some w' → live w'.mgr + owed w' < 0x10000000000000000 →
          w'.mgr.nonNmSessions ≤ w.mgr.nonNmSessions ∨
            w'.mgr.nonNmSessions = w.mgr.nonNmSessions + 1 ∧ live w'.mgr = live w.mgr + 1) := by
  have counted : Counted daemon w :=
    exec_invariant (I := Counted daemon) (fun _ _ _ counted taken => counted.next taken) (Counted.init daemon) run
  refine ⟨counted.finite,counted.counter,fun fits => ?_⟩
  have exact : w.mgr.nonNmSessions = live w.mgr + owed w := by rw [counted.counter,Nat.mod_eq_of_lt fits]
  refine ⟨exact,by omega,?_,?_⟩
  · intro idle alive
    have nothing : owed w = 0 := by
      have relays : (fun c => relayOwes (w.relay c)) = fun _ => 0 := funext fun c => by rw [idle]; rfl
      have readers : (fun l => readerOwes (w.reader l)) = fun _ => 0 := by
        funext l
        have running := alive l
        cases here : w.reader l with
        | cleanup steps => exact absurd here (running steps)
        | _ => rfl
      rw [owed,relays,readers,finsum_zero]
      rfl
    omega
  · intro a w' taken fits'
    have exact' : w'.mgr.nonNmSessions = live w'.mgr + owed w' := by
      rw [(counted.next taken).counter,Nat.mod_eq_of_lt fits']
    have accounts := (step_accounts counted.clients counted.finite taken).owed
    rcases (step_balanced counted.ok taken).total with falls | ⟨rises,free,unpaid⟩ <;> omega

/-- A client's session is on a WebSocket when its device is unplugged, and the event task has
    detached the device. -/
def lostOnWs : List Action :=
  connecting 1 ++ openingFirst 1 tokenA ++ [.client 1 (.setDataPlane 7 tokenA "ws"),.hotplug false vendorInfo,.relay 1 .take]

/-- The session is gone, and the counter holds the subtraction that the task has to make. -/
theorem non_nm_counted_lost : ∃ w, exec (step vendorDaemon) {} lostOnWs = some w ∧ Finite w ∧ live w.mgr = 0 ∧ owed w = 1 ∧
    w.mgr.nonNmSessions = live w.mgr + owed w := by
  obtain ⟨w,run,facts⟩ := Option.map_eq_some_iff.mp (by decide :
    (exec (step vendorDaemon) {} lostOnWs).map (fun w => (live w.mgr,relayOwes (w.relay 1))) = some (0,1))
  have relays : (exec (step vendorDaemon) {} lostOnWs).map (fun w => w.relay) =
      (exec (step vendorDaemon) {} lostOnWs).map fun w => Function.update (fun _ => .idle) 1 (w.relay 1) := rfl
  have readers : (exec (step vendorDaemon) {} lostOnWs).map (fun w => w.reader) = some fun _ => .waiting := rfl
  rw [run] at relays readers
  have relays : w.relay = Function.update (fun _ => .idle) 1 (w.relay 1) := Option.some.inj relays
  have readers : w.reader = fun _ => .waiting := Option.some.inj readers
  obtain ⟨none,one⟩ := Prod.mk.inj facts
  have owes : (fun c => relayOwes (w.relay c)) = Function.update (fun _ => 0) 1 1 := by
    funext c
    rw [relays]
    by_cases own : c = 1
    · rw [own,Function.update_self,Function.update_self,one]
    · rw [Function.update_of_ne own,Function.update_of_ne own]
      rfl
  have alone : owed w = 1 := by
    have total := finsum_update (ι := ClientId) (f := fun _ => 0) (by simp) 1 1
    rw [owed,owes,readers]
    simp only [readerOwes,finsum_zero] at total ⊢
    exact total
  obtain ⟨finite,_,fits⟩ := non_nm_counted vendorDaemon run
  exact ⟨w,run,finite,none,alone,(fits (by rw [none,alone]; decide)).1⟩

end FFWebHid.NonNmCount
