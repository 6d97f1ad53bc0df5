import FFWebHid.Maps
import FFWebHid.Types
import FFWebHid.Registry
import FFWebHid.Lifecycle
import FFWebHid.Coherence
import FFWebHid.Sections
import FFWebHid.Threads
import FFWebHid.Safety

/-!
The critical sections as data. Every step of the daemon runs at most one of them,
so what holds of each section holds of each step.
-/
namespace FFWebHid.Operations
open FFWebHid.Types FFWebHid.Maps FFWebHid.Registry FFWebHid.Lifecycle FFWebHid.Coherence FFWebHid.Threads
open FFWebHid.Sections FFWebHid.Safety FFWebHid.Registry.DeviceManager

inductive Operation where
  | newClientId
  | registerNmSink (clientId : ClientId) (sink : Sink)
  | unregisterNmSink (clientId : ClientId)
  | openEnter (deviceId : DeviceId) (token : Token) (clientId : ClientId) (hash : String)
  | openRecheck (deviceId : DeviceId) (token : Token) (clientId : ClientId) (hash : String)
  | openCheck (deviceId id : DeviceId) (generation : Nat) (token : Token) (clientId : ClientId) (hash : String)
  | openInstall (deviceId id : DeviceId) (generation : Nat) (entry : Entry) (token : Token) (clientId : ClientId)
      (hash : String)
  | releaseReservation (deviceId : DeviceId) (generation : Nat)
  | notifyWaiters (generation : Nat)
  | close (deviceId : DeviceId) (token : Token) (clientId : ClientId)
  | setDataplaneMode (deviceId : DeviceId) (token : Token) (mode : Option Mode) (clientId : ClientId)
  | connect (kind : TransportKind) (deviceId : DeviceId) (token : Token)
  | disconnect (kind : TransportKind) (deviceId : DeviceId) (token : Token) (generation : Nat) (capability : Flag)
  | forceClose (deviceId : DeviceId)
  | detachDeadReaderLifetime (deviceId : DeviceId)
  | cancel (token : Token)
  | subNonNm (count : Nat)

/-- The registry after a section; one that is refused leaves it alone. -/
def Operation.run (m : DeviceManager) : Operation → DeviceManager
  | .newClientId => m.newClientId.2
  | .registerNmSink c sink => m.registerNmSink c sink
  | .unregisterNmSink c => m.unregisterNmSink c
  | .openEnter d t c h => (m.openEnter d t c h).2
  | .openRecheck d t c h => (m.openRecheck d t c h).2
  | .openCheck d id g t c h => (m.openCheck d id g t c h).2
  | .openInstall d id g e t c h => (m.openInstall d id g e t c h).2
  | .releaseReservation d g => (m.releaseReservation d g).2
  | .notifyWaiters g => m.notifyWaiters g
  | .close d t c => (m.close d t c).2
  | .setDataplaneMode d t mode c => (m.setDataplaneMode d t mode c).toOption.getD m
  | .connect kind d t => ((m.connect kind d t).map (·.2)).getD m
  | .disconnect kind d t g f => m.disconnect kind d t g f
  | .forceClose d => (m.forceClose d).2
  | .detachDeadReaderLifetime d => ((m.detachDeadReaderLifetime d).map (·.2)).getD m
  | .cancel t => m.cancel t
  | .subNonNm n => m.subNonNm n

/-- Only two instructions of a teardown touch the registry. -/
def ofTeardown : TeardownStep → Option Operation
  | .cancel t => some (.cancel t)
  | .subNonNm n => some (.subNonNm n)
  | _ => none

def ofOpen (hash : String) (c : ClientId) (call : OpenCall) : OpenPc → Option Operation
  | .enter => some (.openEnter call.deviceId call.token c hash)
  | .recheck => some (.openRecheck call.deviceId call.token c hash)
  | .check g info _ => some (.openCheck call.deviceId info.deviceId g call.token c hash)
  | .install g id entry => some (.openInstall call.deviceId id g entry call.token c hash)
  | .stopLocal _ (step :: _) => ofTeardown step
  | .release g => some (.releaseReservation call.deviceId g)
  | .notify g => some (.notifyWaiters g)
  | _ => none

def ofClient (daemon : Daemon) (c : ClientId) : ClientPc → ClientAction → Option Operation
  | .absent,.connect => some .newClientId
  | .connecting,.advance => some (.registerNmSink c c)
  | .opening call pc,.advance => ofOpen (daemon.computeWsAuthHash call.token) c call pc
  | .idle,.closeSession d t => some (.close d t c)
  | .closing (step :: _),.advance => ofTeardown step
  | .idle,.setDataPlane d t mode => some (.setDataplaneMode d t (Mode.ofString mode) c)
  | .unregistering,.advance => some (.unregisterNmSink c)
  | .closingAll _ (step :: _),.advance => ofTeardown step
  | .closingAll ((d,t) :: _) [],.advance => some (.close d t c)
  | _,_ => none

/-- The device that an event task closes when it takes its next event. -/
def lostDevice : List Emitted → Option DeviceId
  | ⟨.deviceDisconnected info,_⟩ :: _ => some info.deviceId
  | _ => none

def ofRelay (events : List Emitted) : RelayPc → RelayAction → Option Operation
  | .idle,.take => (lostDevice events).map .forceClose
  | .teardown (step :: _),.advance => ofTeardown step
  | _,_ => none

def ofTransport : TransportPc → TransportAction → Option Operation
  | .authenticated kind d t,.connect => some (.connect kind d t)
  | .connected link _,.disconnect =>
    some (.disconnect link.kind link.deviceId link.token link.grant.generation link.grant.capability)
  | _,_ => none

def ofReader (config : ReaderConfig) : ReaderPc → ReaderAction → Option Operation
  | .failed,.advance => some (.detachDeadReaderLifetime config.deviceId)
  | .cleanup (step :: _),.advance => ofTeardown step
  | _,_ => none

/-- The section that a step runs. -/
def operationOf (daemon : Daemon) (w : World) : Action → Option Operation
  | .client c action => ofClient daemon c (w.client c) action
  | .relay c action => ofRelay (w.shared.events c) (w.relay c) action
  | .transport t action => ofTransport (w.transport t) action
  | .reader l action => (w.shared.readerConfig l).bind fun config => ofReader config (w.reader l) action
  | .worker _ => none
  | .hotplug _ _ => none

/-- The registry after the section of a step, if it runs one. -/
def after (m : DeviceManager) (operation : Option Operation) : DeviceManager := operation.elim m (·.run m)

/-! ### Every step runs at most one section -/

private theorem push_mgr {sh sh' : Shared} {l : Lifetime} {item : Queued} (pushed : sh.push l item = some sh') :
    sh'.mgr = sh.mgr := by
  unfold Shared.push at pushed
  split at pushed
  · cases pushed
  · cases pushed; rfl

theorem teardown_operation {sh sh' : Shared} {instruction : TeardownStep}
    (ran : sh.teardown instruction = some sh') : sh'.mgr = after sh.mgr (ofTeardown instruction) := by
  cases instruction with
  | requestShutdown l =>
    simp only [Shared.teardown] at ran
    split at ran
    · cases ran; rfl
    · exact push_mgr ran
  | joinReader l =>
    simp only [Shared.teardown,Option.ite_none_right_eq_some] at ran
    obtain ⟨_,same⟩ := ran
    cases same; rfl
  | joinWorker l =>
    simp only [Shared.teardown,Option.ite_none_right_eq_some] at ran
    obtain ⟨_,same⟩ := ran
    cases same; rfl
  | _ => cases ran; rfl

private theorem openStep_operation {daemon : Daemon} {sh sh' : Shared} {c : ClientId} {call : OpenCall} {pc : OpenPc}
    {pc' : ClientPc} (taken : openStep daemon sh c call pc = some (pc',sh')) :
    sh'.mgr = after sh.mgr (ofOpen (daemon.computeWsAuthHash call.token) c call pc) := by
  cases pc with
  | enter =>
    simp only [openStep] at taken
    split at taken <;> cases taken <;> rfl
  | recheck =>
    simp only [openStep] at taken
    split at taken <;> cases taken <;> rfl
  | check g info numbered =>
    simp only [openStep] at taken
    split at taken <;> cases taken <;> rfl
  | install g id entry =>
    simp only [openStep] at taken
    split at taken <;> cases taken <;> rfl
  | wait g seen =>
    simp only [openStep,Option.ite_none_right_eq_some] at taken
    obtain ⟨_,same⟩ := taken
    cases same; rfl
  | stopLocal g steps =>
    cases steps with
    | nil => cases taken; rfl
    | cons instruction rest =>
      obtain ⟨sh₁,ran,result⟩ := Option.map_eq_some_iff.mp taken
      cases result
      exact teardown_operation ran
  | release g => cases taken; rfl
  | physical g => cases taken
  | _ => cases taken; rfl

private theorem nmStep_mgr {sh sh' : Shared} {c : ClientId} {d : DeviceId} {op : ReportOp} {pc : NmPc} {pc' : ClientPc}
    (taken : nmStep sh c d op pc = some (pc',sh')) : sh'.mgr = sh.mgr := by
  unfold nmStep at taken
  split at taken
  · split at taken <;> cases taken <;> rfl
  · cases taken; rfl
  · cases taken; rfl
  · split at taken
    · cases taken; rfl
    · obtain ⟨sh₁,pushed,result⟩ := Option.map_eq_some_iff.mp taken
      cases result; exact push_mgr pushed
  · split at taken <;> cases taken
    rfl

private theorem clientStep_operation {daemon : Daemon} {sh sh' : Shared} {c : ClientId} {pc pc' : ClientPc}
    {a : ClientAction} (taken : clientStep daemon sh c pc a = some (pc',sh')) :
    sh'.mgr = after sh.mgr (ofClient daemon c pc a) := by
  unfold clientStep at taken
  split at taken
  · obtain ⟨_,result⟩ := Option.ite_none_right_eq_some.mp taken
    cases result; rfl
  · cases taken; rfl
  · obtain ⟨_,result⟩ := Option.ite_none_right_eq_some.mp taken
    cases result; rfl
  · cases taken; rfl
  · cases taken; rfl
  · exact openStep_operation taken
  · dsimp only at taken
    split at taken <;> cases taken <;> rfl
  · cases taken; rfl
  · obtain ⟨sh₁,ran,result⟩ := Option.map_eq_some_iff.mp taken
    cases result; exact teardown_operation ran
  · split at taken
    next done =>
      cases taken
      show _ = (Except.toOption _).getD _
      rw [done]; rfl
    next refused =>
      cases taken
      show _ = (Except.toOption _).getD _
      rw [refused]; rfl
  · split at taken <;> cases taken <;> rfl
  · exact nmStep_mgr taken
  · cases taken; rfl
  · cases taken; rfl
  · cases taken; rfl
  · cases taken; rfl
  · obtain ⟨sh₁,ran,result⟩ := Option.map_eq_some_iff.mp taken
    cases result; exact teardown_operation ran
  · dsimp only at taken
    split at taken <;> cases taken <;> rfl
  · cases taken; rfl
  · cases taken

private theorem relayStep_operation {sh sh' : Shared} {c : ClientId} {running : Bool} {pc pc' : RelayPc}
    {a : RelayAction} (taken : relayStep sh c running pc a = some (pc',sh')) :
    sh'.mgr = after sh.mgr (ofRelay (sh.events c) pc a) := by
  unfold relayStep at taken
  split at taken
  · split at taken
    · split at taken
      · cases taken
      next first rest queued =>
        obtain ⟨event,stamp⟩ := first
        simp only [ofRelay,queued]
        cases event <;> cases taken <;> rfl
    · cases taken
  · split at taken <;> cases taken
    rfl
  · cases taken; rfl
  · obtain ⟨sh₁,ran,result⟩ := Option.map_eq_some_iff.mp taken
    cases result; exact teardown_operation ran
  · cases taken

private theorem frameStep_mgr {sh sh' : Shared} {t : Nat} {link : Link} {pc pc' : FramePc}
    (taken : frameStep sh t link pc = some (pc',sh')) : sh'.mgr = sh.mgr := by
  unfold frameStep at taken
  split at taken
  · cases taken
  · cases taken; rfl
  · split at taken <;> cases taken <;> rfl
  · cases taken; rfl
  · split at taken
    · cases taken; rfl
    · split at taken <;> cases taken <;> rfl
  · cases taken; rfl
  · split at taken
    · cases taken; rfl
    · obtain ⟨sh₁,pushed,result⟩ := Option.map_eq_some_iff.mp taken
      cases result; exact push_mgr pushed
  · split at taken <;> cases taken
    rfl

private theorem transportStep_operation {sh sh' : Shared} {t : Nat} {pc pc' : TransportPc} {a : TransportAction}
    (taken : transportStep sh t pc a = some (pc',sh')) : sh'.mgr = after sh.mgr (ofTransport pc a) := by
  unfold transportStep at taken
  split at taken
  · obtain ⟨found,_,result⟩ := Option.map_eq_some_iff.mp taken
    cases result; rfl
  · split at taken
    next refused => cases taken; simp [ofTransport,after,Operation.run,refused]
    next connected => cases taken; simp [ofTransport,after,Operation.run,connected]
  · cases taken; rfl
  · obtain ⟨⟨frame,sh₁⟩,ran,result⟩ := Option.map_eq_some_iff.mp taken
    cases result; exact frameStep_mgr ran
  · cases taken; rfl
  · obtain ⟨⟨frame,sh₁⟩,ran,result⟩ := Option.map_eq_some_iff.mp taken
    cases result; exact frameStep_mgr ran
  · cases taken

private theorem readerStep_operation {sh sh' : Shared} {l : Lifetime} {config : ReaderConfig} {pc pc' : ReaderPc}
    {a : ReaderAction} (taken : readerStep sh l config pc a = some (pc',sh')) :
    sh'.mgr = after sh.mgr (ofReader config pc a) := by
  unfold readerStep at taken
  split at taken
  · split at taken <;> cases taken
    rfl
  · split at taken <;> cases taken <;> rfl
  · cases taken; rfl
  · cases taken; rfl
  · cases taken; rfl
  · cases taken; rfl
  · cases taken; rfl
  · cases taken; rfl
  · cases taken; rfl
  · cases taken
    show Shared.mgr (if _ then _ else _) = _
    split <;> rfl
  · split at taken
    next absent => cases taken; simp [ofReader,after,Operation.run,absent]
    next removed => cases taken; simp [ofReader,after,Operation.run,removed]
  · cases taken; rfl
  · obtain ⟨sh₁,ran,result⟩ := Option.map_eq_some_iff.mp taken
    cases result; exact teardown_operation ran
  · cases taken

private theorem workerStep_mgr {sh sh' : Shared} {l : Lifetime} {pc pc' : WorkerPc}
    (taken : workerStep sh l pc = some (pc',sh')) : sh'.mgr = sh.mgr := by
  unfold workerStep at taken
  split at taken
  · split at taken
    · cases taken
    · cases taken
      exact (answers_frame _ sh).1
    · cases taken; rfl
  · split at taken <;> cases taken <;> rfl
  · split at taken <;> cases taken <;> rfl
  · cases taken; rfl
  · cases taken

/-- Every step of the daemon runs the section that its thread is about to run, or
    leaves the registry alone. -/
theorem step_operation {daemon : Daemon} {w w' : World} {a : Action} (taken : step daemon w a = some w') :
    w'.mgr = after w.mgr (operationOf daemon w a) := by
  cases a with
  | client c action =>
    obtain ⟨⟨pc,sh⟩,ran,rfl⟩ := Option.map_eq_some_iff.mp taken
    exact clientStep_operation ran
  | relay c action =>
    obtain ⟨⟨pc,sh⟩,ran,rfl⟩ := Option.map_eq_some_iff.mp taken
    exact relayStep_operation ran
  | transport t action =>
    obtain ⟨⟨pc,sh⟩,ran,rfl⟩ := Option.map_eq_some_iff.mp taken
    exact transportStep_operation ran
  | reader l action =>
    obtain ⟨config,configured,stepped⟩ := Option.bind_eq_some_iff.mp taken
    obtain ⟨⟨pc,sh⟩,ran,rfl⟩ := Option.map_eq_some_iff.mp stepped
    rw [operationOf,configured]
    exact readerStep_operation ran
  | worker l =>
    simp only [step] at taken
    split at taken
    · obtain ⟨⟨pc,sh⟩,ran,rfl⟩ := Option.map_eq_some_iff.mp taken
      exact workerStep_mgr ran
    · cases taken
  | hotplug connected info => cases taken; rfl

/-- The sections of an open that depend on its call. -/
def isOpening : Operation → Bool
  | .openEnter _ _ _ _ => true
  | .openRecheck _ _ _ _ => true
  | .openCheck _ _ _ _ _ _ => true
  | .openInstall _ _ _ _ _ _ _ => true
  | .releaseReservation _ _ => true
  | _ => false

/-- They register no session and take no reservation. -/
theorem run_quiet {m : DeviceManager} (coherent : Coherent m) (operation : Operation)
    (outside : isOpening operation = false) : Quiet m (operation.run m) := by
  cases operation with
  | openEnter d t c h => cases outside
  | openRecheck d t c h => cases outside
  | openCheck d id g t c h => cases outside
  | openInstall d id g e t c h => cases outside
  | releaseReservation d g => cases outside
  | newClientId => exact .of_same ⟨rfl,rfl,rfl,rfl,rfl,rfl,rfl,rfl⟩ rfl
  | registerNmSink c sink => exact registerNmSink_quiet coherent c sink
  | unregisterNmSink c => exact unregisterNmSink_quiet coherent c
  | notifyWaiters g => exact .of_same (same_notifyWaiters m g) rfl
  | close d t c => exact close_quiet coherent d t c
  | setDataplaneMode d t mode c =>
    simp only [Operation.run]
    cases done : m.setDataplaneMode d t mode c with
    | error _ => exact .refl m
    | ok m' => exact setDataplaneMode_quiet coherent done
  | connect kind d t =>
    simp only [Operation.run]
    cases done : m.connect kind d t with
    | none => exact .refl m
    | some granted => exact connect_quiet coherent done
  | disconnect kind d t g f => exact disconnect_quiet coherent
  | forceClose d => exact forceClose_quiet coherent d
  | detachDeadReaderLifetime d =>
    simp only [Operation.run]
    cases done : m.detachDeadReaderLifetime d with
    | none => exact .refl m
    | some removed => exact detachDeadReaderLifetime_quiet coherent done
  | cancel t => exact .of_same ⟨rfl,rfl,rfl,rfl,rfl,rfl,rfl,rfl⟩ rfl
  | subNonNm n => cases m; exact .of_same ⟨rfl,rfl,rfl,rfl,rfl,rfl,rfl,rfl⟩ rfl

theorem ofTeardown_outside {instruction : TeardownStep} {operation : Operation}
    (runs : ofTeardown instruction = some operation) : isOpening operation = false := by
  cases instruction <;> cases runs <;> rfl

private theorem ofClient_outside {daemon : Daemon} {c : ClientId} {pc : ClientPc} {a : ClientAction}
    {operation : Operation} (runs : ofClient daemon c pc a = some operation)
    (outside : ∀ call pc', pc ≠ .opening call pc') : isOpening operation = false := by
  unfold ofClient at runs
  split at runs
  · cases runs; rfl
  · cases runs; rfl
  · exact absurd rfl (outside _ _)
  · cases runs; rfl
  · exact ofTeardown_outside runs
  · cases runs; rfl
  · cases runs; rfl
  · exact ofTeardown_outside runs
  · cases runs; rfl
  · cases runs

/-- A step that is not one of a client with an open in progress runs no section of
    an open. -/
theorem operationOf_outside {daemon : Daemon} {w : World} {a : Action} {operation : Operation}
    (runs : operationOf daemon w a = some operation)
    (outside : ∀ c action, a = .client c action → ∀ call pc, w.client c ≠ .opening call pc) :
    isOpening operation = false := by
  cases a with
  | client c action => exact ofClient_outside runs (outside c action rfl)
  | relay c action =>
    simp only [operationOf,ofRelay] at runs
    split at runs
    · obtain ⟨d,_,rfl⟩ := Option.map_eq_some_iff.mp runs
      rfl
    · exact ofTeardown_outside runs
    · cases runs
  | transport t action =>
    simp only [operationOf,ofTransport] at runs
    split at runs <;> cases runs <;> rfl
  | reader l action =>
    obtain ⟨config,_,runs⟩ := Option.bind_eq_some_iff.mp runs
    simp only [ofReader] at runs
    split at runs
    · cases runs; rfl
    · exact ofTeardown_outside runs
    · cases runs
  | worker l => cases runs
  | hotplug connected info => cases runs

end FFWebHid.Operations
