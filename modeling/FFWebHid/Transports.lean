import FFWebHid.Maps
import FFWebHid.Runs
import FFWebHid.Capabilities
import FFWebHid.Types
import FFWebHid.Registry
import FFWebHid.Lifecycle
import FFWebHid.Coherence
import FFWebHid.Sections
import FFWebHid.Threads
import FFWebHid.Safety
import FFWebHid.Operations

/-!
The capabilities of transports. A session has one slot for both kinds of transport:
whatever is in the slot was granted last and is of the kind of the session's mode,
and a section that changes the mode empties the slot or fills it anew. What was
handed out to transports is recorded beside the state of the daemon.
-/
namespace FFWebHid.Transports
open FFWebHid.Runs FFWebHid.Types FFWebHid.Maps FFWebHid.Capabilities FFWebHid.Registry FFWebHid.Lifecycle
open FFWebHid.Coherence FFWebHid.Sections FFWebHid.Threads FFWebHid.Safety FFWebHid.Operations
open FFWebHid.Registry.DeviceManager

/-- A capability that is in its slot afterwards was there before, and its session is
    as it was. -/
def Settled (m m' : DeviceManager) : Prop :=
  ∀ t f, m'.transportValidity.lookup t = some f →
    m.transportValidity.lookup t = some f ∧ m'.sessions.lookup t = m.sessions.lookup t

theorem Settled.refl (m : DeviceManager) : Settled m m := fun _ _ held => ⟨held,rfl⟩

theorem Settled.of_eq {m m' : DeviceManager} (transports : m'.transportValidity = m.transportValidity)
    (sessions : m'.sessions = m.sessions) : Settled m m' :=
  fun _ _ held => ⟨transports ▸ held,by rw [sessions]⟩

/-- The sessions whose slot a section empties may change, the others may not. -/
theorem Settled.of_emptied {m m' : DeviceManager} (emptied : Token → Bool)
    (transports : ∀ t, m'.transportValidity.lookup t = if emptied t then none else m.transportValidity.lookup t)
    (sessions : ∀ t, emptied t = false → m'.sessions.lookup t = m.sessions.lookup t) : Settled m m' := by
  intro t f held
  rw [transports] at held
  split at held
  · cases held
  next kept => exact ⟨held,sessions t (Bool.eq_false_iff.mpr kept)⟩

theorem Settled.trans {m₁ m₂ m₃ : DeviceManager} (first : Settled m₁ m₂) (second : Settled m₂ m₃) : Settled m₁ m₃ := by
  intro t f held
  obtain ⟨middle,later⟩ := second t f held
  obtain ⟨before,earlier⟩ := first t f middle
  exact ⟨before,later.trans earlier⟩

private theorem settled_refresh (m : DeviceManager) (d : DeviceId) (c : ClientId) :
    Settled m (m.refreshNmHotLocked d c) := .of_eq (refresh_transports m d c) (refresh_sessions m d c)

private theorem settled_count (m : DeviceManager) (was now : Bool) : Settled m (m.updateNonNmCount was now) :=
  .of_eq (same_updateNonNmCount m was now).transports (same_updateNonNmCount m was now).sessions

/-- Revoking the capability of a session and storing the session. -/
private theorem settled_put (m : DeviceManager) (t : Token) (s : Session) :
    Settled m ((m.putSession t s).invalidateTransportValidity t) := by
  refine .of_emptied (· == t) (fun t' => lookup_dropTransports _ _ t') ?_
  intro t' other
  exact AList.lookup_insert_ne (by simpa using other)

/-- Registering a session of a new token, over any entries. -/
private theorem settled_register {m m₀ m' : DeviceManager} {d : DeviceId} {t : Token} {c : ClientId} {h : String}
    (coherent : Coherent m) (absent : m.sessions.lookup t = none) (done : m₀.registerAndRefresh d t c h = some m')
    (transports : m₀.transportValidity = m.transportValidity) (sessions : m₀.sessions = m.sessions) :
    Settled m m' := by
  obtain ⟨registered,_⟩ := registerAndRefresh_registered done
  obtain ⟨_,rfl⟩ := registerAndRefresh_eq.mp done
  intro t' f held
  rw [refresh_transports] at held
  have before : m.transportValidity.lookup t' = some f := transports ▸ held
  obtain ⟨s,found⟩ := coherent.registry.transports t' f before
  refine ⟨before,?_⟩
  rw [registered.others t' (by rintro rfl; rw [absent] at found; cases found),sessions]

private theorem settled_endSession (m : DeviceManager) (t : Token) (s : Session) : Settled m (m.endSession t s) := by
  have counted := same_updateNonNmCount
    (({ m with sessions := m.sessions.erase t }.invalidateTransportValidity t).cancel t) s.mode.isNonNm false
  refine .of_emptied (· == t) ?_ ?_
  · intro t'
    exact (congrArg (·.lookup t') counted.transports).trans (lookup_dropTransports _ _ t')
  · intro t' other
    exact (congrArg (·.lookup t') counted.sessions).trans (AList.lookup_erase_ne (by simpa using other))

private theorem settled_close (m : DeviceManager) (d : DeviceId) (t : Token) (c : ClientId) :
    Settled m (m.close d t c).2 := by
  unfold close
  split
  · exact .refl m
  next s _ =>
  split
  · exact .refl m
  split
  · exact .refl m
  split
  · exact .refl m
  have ended := settled_endSession m t s
  dsimp only
  split
  · exact ended.trans (.of_eq rfl rfl)
  · exact ended.trans (settled_refresh _ _ _)

/-- Switching a session to a mode outside a connect. -/
private theorem settled_switch (m : DeviceManager) (d : DeviceId) (t : Token) (c : ClientId) (s : Session)
    (was now : Bool) :
    Settled m ((((m.putSession t s).invalidateTransportValidity t).updateNonNmCount was now).refreshNmHotLocked d c) :=
  ((settled_put m t s).trans (settled_count _ was now)).trans (settled_refresh _ d c)

private theorem settled_setDataplaneMode {m m' : DeviceManager} {d : DeviceId} {t : Token} {mode : Option Mode}
    {c : ClientId} (done : m.setDataplaneMode d t mode c = .ok m') : Settled m m' := by
  unfold setDataplaneMode at done
  split at done
  · cases done
  split at done
  · cases done
  split at done
  · cases done
  split at done
  · cases done
  split at done
  · cases done
  cases done
  exact settled_switch m d t _ _ _ _

private theorem settled_disconnect (m : DeviceManager) (kind : TransportKind) (d : DeviceId) (t : Token) (g : Nat)
    (f : Flag) : Settled m (m.disconnect kind d t g f) := by
  unfold disconnect
  split
  · exact .refl m
  split
  · split
    · exact settled_switch m d t _ _ _ _
    · exact .refl m
  · exact .refl m

private theorem settled_detached {d : DeviceId} {m m' : DeviceManager} (detached : Detached d m m') : Settled m m' := by
  intro t f held
  obtain ⟨before,s,found⟩ := (detached.transports t f).mp held
  exact ⟨before,found.trans ((detached.session_iff t s).mp found).1.symm⟩

private theorem settled_registerNmSink (m : DeviceManager) (c : ClientId) (sink : Sink) :
    Settled m (m.registerNmSink c sink) := by
  have folded (ds : List DeviceId) (m : DeviceManager) :
      Settled m (ds.foldl (fun m d => m.refreshNmHotLocked d c) m) := by
    induction ds generalizing m with
    | nil => exact .refl m
    | cons d rest ih => exact (settled_refresh m d c).trans (ih _)
  exact (Settled.of_eq rfl rfl : Settled m { m with nmSinks := m.nmSinks.insert c sink }).trans (folded _ _)

section
variable {m : DeviceManager} {t : Token} (coherent : Coherent m) (absent : m.sessions.lookup t = none)
include coherent absent

private theorem settled_openEnter (d : DeviceId) (c : ClientId) (h : String) : Settled m (m.openEnter d t c h).2 := by
  rcases openEnter_cases m d t c h with ⟨m',done,result⟩ | ⟨g,seen,result⟩ | result
  · rw [result]; exact settled_register coherent absent done rfl rfl
  · rw [result]; exact .refl m
  · rw [result]; exact .of_eq rfl rfl

private theorem settled_openRecheck (d : DeviceId) (c : ClientId) (h : String) :
    Settled m (m.openRecheck d t c h).2 := by
  rcases openRecheck_cases m d t c h with ⟨m',done,result⟩ | result | result
  · rw [result]; exact settled_register coherent absent done rfl rfl
  · rw [result]; exact .refl m
  · rw [result]; exact .refl m

private theorem settled_openCheck (d id : DeviceId) (g : Nat) (c : ClientId) (h : String) :
    Settled m (m.openCheck d id g t c h).2 := by
  rcases openCheck_cases m d id g t c h with ⟨m',done,result⟩ | result | result
  · rw [result]; exact settled_register coherent absent done rfl rfl
  · rw [result]; exact .refl m
  · rw [result]; exact .refl m

private theorem settled_openInstall (d id : DeviceId) (g : Nat) (e : Entry) (c : ClientId) (h : String) :
    Settled m (m.openInstall d id g e t c h).2 := by
  unfold openInstall
  split
  · split
    next m' done => exact settled_register coherent absent done rfl rfl
    next =>
      dsimp only
      cases done : ({ m with devices := m.devices.insert id e } : DeviceManager).registerAndRefresh id t c h with
      | none => exact .of_eq rfl rfl
      | some m' => exact settled_register coherent absent done rfl rfl
  · exact .refl m

end

/-- The token of an open and the device that one of its sections is for. -/
private theorem ofOpen_settled {m : DeviceManager} (coherent : Coherent m) {hash : String} {c : ClientId}
    {call : OpenCall} {pc : OpenPc} {operation : Operation} (runs : ofOpen hash c call pc = some operation)
    (opening : isOpening operation = true)
    (absent : pendingCall (.opening call pc) = some call → m.sessions.lookup call.token = none) :
    Settled m (operation.run m) := by
  cases pc with
  | enter => cases runs; exact settled_openEnter coherent (absent rfl) _ _ _
  | recheck => cases runs; exact settled_openRecheck coherent (absent rfl) _ _ _
  | check g info numbered => cases runs; exact settled_openCheck coherent (absent rfl) _ _ _ _ _
  | install g id entry => cases runs; exact settled_openInstall coherent (absent rfl) _ _ _ _ _ _
  | stopLocal g steps =>
    cases steps with
    | nil => cases runs
    | cons instruction rest => rw [ofTeardown_outside runs] at opening; cases opening
  | release g =>
    cases runs
    simp only [Operation.run,releaseReservation]
    split
    · exact .of_eq rfl rfl
    · exact .refl m
  | notify g => cases runs; cases opening
  | wait g seen => cases runs
  | physical g => cases runs
  | spawn g info numbered => cases runs
  | start g => cases runs

/-- Of all other sections only a connect grants a capability. -/
private theorem outside_settled {m : DeviceManager} (coherent : Coherent m) {operation : Operation}
    (outside : isOpening operation = false) (grants : ∀ kind d t, operation ≠ .connect kind d t) :
    Settled m (operation.run m) := by
  cases operation with
  | openEnter d t c h => cases outside
  | openRecheck d t c h => cases outside
  | openCheck d id g t c h => cases outside
  | openInstall d id g e t c h => cases outside
  | releaseReservation d g => cases outside
  | connect kind d t => exact absurd rfl (grants kind d t)
  | newClientId => exact .of_eq rfl rfl
  | registerNmSink c sink => exact settled_registerNmSink m c sink
  | unregisterNmSink c => exact .of_eq rfl rfl
  | notifyWaiters g => exact .of_eq rfl rfl
  | cancel t => exact .of_eq rfl rfl
  | subNonNm n => exact .of_eq rfl rfl
  | close d t c => exact settled_close m d t c
  | setDataplaneMode d t mode c =>
    simp only [Operation.run]
    cases done : m.setDataplaneMode d t mode c with
    | error _ => exact .refl m
    | ok m' => exact settled_setDataplaneMode done
  | disconnect kind d t g f => exact settled_disconnect m kind d t g f
  | forceClose d => exact settled_detached (forceClose_detached coherent d).1
  | detachDeadReaderLifetime d =>
    simp only [Operation.run]
    cases done : m.detachDeadReaderLifetime d with
    | none => exact .refl m
    | some removed => exact settled_detached (detachDeadReaderLifetime_detached coherent done).1

variable {daemon : Daemon} {w w' : World}

/-- The section that a client runs for its open. -/
private theorem client_runs {c : ClientId} {action : ClientAction} {operation : Operation}
    (runs : operationOf daemon w (.client c action) = some operation) (opening : isOpening operation = true) :
    ∃ call pc, w.client c = .opening call pc ∧ ofOpen (daemon.computeWsAuthHash call.token) c call pc = some operation := by
  cases here : w.client c with
  | opening call pc =>
    rw [operationOf,here] at runs
    refine ⟨call,pc,rfl,?_⟩
    cases action <;> first | exact runs | cases runs
  | _ =>
    have outside := operationOf_outside runs (by rintro c' action' ⟨⟩ call pc; rw [here]; intro same; cases same)
    rw [outside] at opening; cases opening

/-- A step that is no connect settles the sessions. -/
private theorem step_settled (ok : WorldOk daemon w) {a : Action} (taken : step daemon w a = some w')
    (grants : ∀ kind d t, operationOf daemon w a ≠ some (.connect kind d t)) : Settled w.mgr w'.mgr := by
  rw [step_operation taken]
  cases runs : operationOf daemon w a with
  | none => exact .refl w.mgr
  | some operation =>
    cases opening : isOpening operation with
    | false => exact outside_settled ok.coherent opening (by rintro kind d t rfl; exact grants kind d t runs)
    | true =>
      cases a with
      | client c action =>
        obtain ⟨call,pc,here,operates⟩ := client_runs runs opening
        refine ofOpen_settled ok.coherent operates opening ?_
        intro pending
        exact (ok.pending c call (here ▸ pending)).2
      | _ =>
        have outside := operationOf_outside runs (by rintro c action ⟨⟩)
        rw [outside] at opening; cases opening

/-- The link of a transport that connected. -/
def linkOf : TransportPc → Option Link
  | .connected link _ => some link
  | .closed link _ => some link
  | _ => none

/-- The link that a step handed out. -/
def grantedAt (w' : World) : Action → Option Link
  | .transport n .connect => linkOf (w'.transport n)
  | _ => none

/-- The daemon with the links that it handed out, the latest first. -/
structure Observed where
  world : World
  links : List Link

def observe (daemon : Daemon) (o : Observed) (a : Action) : Option Observed :=
  (step daemon o.world a).map fun w' => ⟨w',(grantedAt w' a).toList ++ o.links⟩

/-- The link that was handed out last for a session. -/
def Observed.latest (o : Observed) (t : Token) : Option Link := o.links.find? (·.token == t)

/-- The transport of a link is the current one of its session: no later link was
    handed out, its capability is valid, and mode and generation are still its own. -/
def Observed.Current (o : Observed) (link : Link) : Prop :=
  o.latest link.token = some link ∧ o.world.mgr.valid link.grant.capability = true ∧
    ∃ s, o.world.mgr.sessions.lookup link.token = some s ∧ s.mode = link.kind.mode ∧
      link.kind.generation s = link.grant.generation

/-- What a step hands out: nothing, and it settles the sessions; or the link of a
    connect. -/
inductive Handout (w : World) (granted : Option Link) (w' : World) : Prop where
  | nothing (none : granted = none) (settled : Settled w.mgr w'.mgr)
      (links : ∀ n link, linkOf (w'.transport n) = some link → linkOf (w.transport n) = some link)
  | link (kind : TransportKind) (d : DeviceId) (t : Token) (grant : TransportGrant)
      (given : granted = some ⟨kind,d,t,grant⟩) (done : w.mgr.connect kind d t = some (grant,w'.mgr))
      (links : ∀ n link, linkOf (w'.transport n) = some link →
        link = ⟨kind,d,t,grant⟩ ∨ linkOf (w.transport n) = some link)

/-- A transport keeps its link, and only a connect gives it one. -/
private theorem transportStep_link {sh sh' : Shared} {n : Nat} {pc pc' : TransportPc} {a : TransportAction}
    (taken : transportStep sh n pc a = some (pc',sh')) :
    (∃ kind d t, pc = .authenticated kind d t ∧ a = .connect) ∨
      a ≠ .connect ∧ (∀ kind d t, ofTransport pc a ≠ some (.connect kind d t)) ∧
        ∀ link, linkOf pc' = some link → linkOf pc = some link := by
  unfold transportStep at taken
  split at taken
  · obtain ⟨found,_,result⟩ := Option.map_eq_some_iff.mp taken
    cases result; exact Or.inr ⟨by simp,by simp [ofTransport],fun _ => id⟩
  · exact Or.inl ⟨_,_,_,rfl,rfl⟩
  · cases taken; exact Or.inr ⟨by simp,by simp [ofTransport],fun _ => id⟩
  · obtain ⟨found,_,result⟩ := Option.map_eq_some_iff.mp taken
    cases result; exact Or.inr ⟨by simp,by simp [ofTransport],fun _ => id⟩
  · cases taken; exact Or.inr ⟨by simp,by simp [ofTransport],fun _ => id⟩
  · obtain ⟨found,_,result⟩ := Option.map_eq_some_iff.mp taken
    cases result; exact Or.inr ⟨by simp,by simp [ofTransport],fun _ => id⟩
  · cases taken

private theorem ofTeardown_connect {instruction : TeardownStep} {kind : TransportKind} {d : DeviceId} {t : Token} :
    ofTeardown instruction ≠ some (.connect kind d t) := by cases instruction <;> simp [ofTeardown]

/-- Only transports run the section of a connect. -/
private theorem operationOf_connect {a : Action} {kind : TransportKind} {d : DeviceId} {t : Token}
    (runs : operationOf daemon w a = some (.connect kind d t)) : ∃ n action, a = .transport n action := by
  cases a with
  | transport n action => exact ⟨n,action,rfl⟩
  | client c action =>
    simp only [operationOf,ofClient] at runs
    split at runs
    · cases runs
    · cases runs
    next call pc _ =>
      cases pc with
      | stopLocal g steps =>
        cases steps with
        | nil => cases runs
        | cons instruction rest => exact absurd runs ofTeardown_connect
      | _ => cases runs
    · cases runs
    · exact absurd runs ofTeardown_connect
    · cases runs
    · cases runs
    · exact absurd runs ofTeardown_connect
    · cases runs
    · cases runs
  | relay c action =>
    simp only [operationOf,ofRelay] at runs
    split at runs
    · obtain ⟨_,_,result⟩ := Option.map_eq_some_iff.mp runs
      cases result
    · exact absurd runs ofTeardown_connect
    · cases runs
  | reader l action =>
    obtain ⟨config,_,runs⟩ := Option.bind_eq_some_iff.mp runs
    simp only [ofReader] at runs
    split at runs
    · cases runs
    · exact absurd runs ofTeardown_connect
    · cases runs
  | worker l => cases runs
  | hotplug connected info => cases runs

private theorem step_transport {a : Action} (taken : step daemon w a = some w')
    (other : ∀ n action, a ≠ .transport n action) : w'.transport = w.transport := by
  cases a with
  | transport n action => exact absurd rfl (other n action)
  | client c action => obtain ⟨_,_,rfl⟩ := Option.map_eq_some_iff.mp taken; rfl
  | relay c action => obtain ⟨_,_,rfl⟩ := Option.map_eq_some_iff.mp taken; rfl
  | reader l action =>
    obtain ⟨_,_,stepped⟩ := Option.bind_eq_some_iff.mp taken
    obtain ⟨_,_,rfl⟩ := Option.map_eq_some_iff.mp stepped; rfl
  | worker l =>
    obtain ⟨_,stepped⟩ := Option.ite_none_right_eq_some.mp taken
    obtain ⟨_,_,rfl⟩ := Option.map_eq_some_iff.mp stepped; rfl
  | hotplug connected info => cases taken; rfl

/-- Every step hands out the link of a connect, or nothing. -/
private theorem step_handout (ok : WorldOk daemon w) {a : Action} (taken : step daemon w a = some w') :
    Handout w (grantedAt w' a) w' := by
  cases a with
  | transport n action =>
    obtain ⟨⟨pc',sh⟩,ran,result⟩ := Option.map_eq_some_iff.mp taken
    have here : w'.transport n = pc' := by rw [← result]; exact Function.update_self ..
    have others (n' : Nat) (apart : n' ≠ n) : w'.transport n' = w.transport n' := by
      rw [← result]; exact Function.update_of_ne apart ..
    have mgr : w'.mgr = sh.mgr := by rw [← result]; rfl
    rcases transportStep_link ran with ⟨kind,d,t,at_,rfl⟩ | ⟨apart,grants,kept⟩
    · rw [at_] at ran
      simp only [transportStep] at ran
      cases done : w.shared.mgr.connect kind d t with
      | none =>
        rw [done] at ran
        cases ran
        refine .nothing (by simp only [grantedAt,here]; rfl) (.of_eq (congrArg _ mgr) (congrArg _ mgr)) ?_
        intro n' link holds
        by_cases this : n' = n
        · rw [this,here] at holds; cases holds
        · rw [others n' this] at holds; exact holds
      | some connected =>
        obtain ⟨grant,m⟩ := connected
        rw [done] at ran
        cases ran
        refine .link kind d t grant (by simp only [grantedAt,here]; rfl) (by rw [mgr]; exact done) ?_
        intro n' link holds
        by_cases this : n' = n
        · rw [this,here] at holds
          exact Or.inl (Option.some.inj holds).symm
        · rw [others n' this] at holds; exact Or.inr holds
    · refine .nothing (by cases action <;> first | rfl | exact absurd rfl apart) (step_settled ok taken grants) ?_
      intro n' link holds
      by_cases this : n' = n
      · rw [this,here] at holds; rw [this]; exact kept link holds
      · rw [others n' this] at holds; exact holds
  | _ =>
    refine .nothing rfl (step_settled ok taken fun kind d t runs => ?_) fun n link holds => ?_
    · obtain ⟨n,action,⟨⟩⟩ := operationOf_connect runs
    · rw [step_transport taken (by rintro n action ⟨⟩)] at holds; exact holds

/-! ### The invariant -/

/-- Capabilities of links are distinct, a valid one is in the slot of its session,
    and a slot that is filled holds the latest one with the session of its kind. -/
structure LinksOk (daemon : Daemon) (o : Observed) : Prop where
  world : WorldOk daemon o.world
  granted : ∀ link ∈ o.links, link.grant.capability < o.world.mgr.nextFlag
  distinct : (o.links.map (·.grant.capability)).Nodup
  held : ∀ n link, linkOf (o.world.transport n) = some link → link ∈ o.links
  slot : ∀ link ∈ o.links, o.world.mgr.valid link.grant.capability = true →
    o.world.mgr.transportValidity.lookup link.token = some link.grant.capability
  current : ∀ t f, o.world.mgr.transportValidity.lookup t = some f → ∃ link, o.latest t = some link ∧
    link.grant.capability = f ∧ ∃ s, o.world.mgr.sessions.lookup t = some s ∧ s.mode = link.kind.mode ∧
      link.kind.generation s = link.grant.generation

theorem LinksOk.init (daemon : Daemon) : LinksOk daemon ⟨{},[]⟩ := by
  refine ⟨init_ok daemon,by simp,by simp,?_,by simp,?_⟩
  · intro n link holds; cases holds
  · intro t f held; cases held

variable {o o' : Observed} {a : Action}

/-- A valid capability is that of the current transport of its session. -/
theorem LinksOk.isCurrent (ok : LinksOk daemon o) {link : Link} (member : link ∈ o.links)
    (valid : o.world.mgr.valid link.grant.capability = true) : o.Current link := by
  obtain ⟨last,latest,same,s,found,mode,generation⟩ := ok.current link.token _ (ok.slot link member valid)
  obtain rfl : last = link := List.inj_on_of_nodup_map ok.distinct (List.mem_of_find?_eq_some latest) member same
  exact ⟨latest,valid,s,found,mode,generation⟩

/-- A capability that was granted and is not valid stays so. -/
private theorem step_cleared (ok : LinksOk daemon o) (taken : step daemon o.world a = some w') {f : Flag}
    (granted : f < o.world.mgr.nextFlag) (valid : w'.mgr.valid f = true) : o.world.mgr.valid f = true :=
  ((step_move ok.world taken).effect.evolves ok.world.coherent).cleared f granted valid

private theorem step_slot (ok : LinksOk daemon o) (taken : step daemon o.world a = some w') {link : Link}
    (member : link ∈ o.links) (valid : w'.mgr.valid link.grant.capability = true) :
    w'.mgr.transportValidity.lookup link.token = some link.grant.capability := by
  have before := ok.slot link member (step_cleared ok taken (ok.granted link member) valid)
  exact ((step_move ok.world taken).effect.evolves ok.world.coherent).stays (.transport link.token) _ before valid

/-- Every step keeps the invariant: it settles the sessions, or its connect fills a
    slot with a fresh capability. -/
theorem LinksOk.step (ok : LinksOk daemon o) (taken : observe daemon o a = some o') : LinksOk daemon o' := by
  obtain ⟨w',stepped,rfl⟩ := Option.map_eq_some_iff.mp taken
  have world := step_ok ok.world stepped
  have next : o.world.mgr.nextFlag ≤ w'.mgr.nextFlag :=
    ((step_move ok.world stepped).effect.evolves ok.world.coherent).next
  have granted (link : Link) (member : link ∈ o.links) : link.grant.capability < w'.mgr.nextFlag :=
    Nat.lt_of_lt_of_le (ok.granted link member) next
  have slot (link : Link) (member : link ∈ o.links) (valid : w'.mgr.valid link.grant.capability = true) :=
    step_slot ok stepped member valid
  cases step_handout ok.world stepped with
  | nothing none settled links =>
    simp only [none,Option.toList_none,List.nil_append]
    refine ⟨world,granted,ok.distinct,fun n link holds => ok.held n link (links n link holds),slot,?_⟩
    intro t f held
    obtain ⟨before,session⟩ := settled t f held
    obtain ⟨link,latest,same,s,found,fits⟩ := ok.current t f before
    exact ⟨link,latest,same,s,session.trans found,fits⟩
  | link kind d t grant given done links =>
    obtain ⟨s,found,rfl,slots,sessions⟩ := connect_grants done
    simp only [given,Option.toList_some,List.singleton_append]
    have filled : w'.mgr.transportValidity.lookup t = some o.world.mgr.nextFlag := by rw [slots,if_pos rfl]
    refine ⟨world,?_,?_,?_,?_,?_⟩
    · intro link member
      rcases List.mem_cons.mp member with rfl | old
      · exact world.coherent.flagsOk.granted (.transport t) _ filled
      · exact granted link old
    · refine List.nodup_cons.mpr ⟨?_,ok.distinct⟩
      intro again
      obtain ⟨link,old,same⟩ := List.mem_map.mp again
      exact Nat.ne_of_lt (ok.granted link old) same
    · intro n link holds
      rcases links n link holds with rfl | before
      · exact List.mem_cons_self
      · exact List.mem_cons_of_mem _ (ok.held n link before)
    · intro link member valid
      rcases List.mem_cons.mp member with rfl | old
      · exact filled
      · exact slot link old valid
    · intro t' f held
      rw [slots] at held
      by_cases here : t' = t
      · subst here
        rw [if_pos rfl] at held
        refine ⟨⟨kind,d,t',⟨kind.generation (kind.connected s),o.world.mgr.nextFlag⟩⟩,by simp [Observed.latest],
          Option.some.inj held,kind.connected s,by rw [sessions,if_pos rfl],?_,rfl⟩
        cases kind <;> rfl
      · rw [if_neg here] at held
        obtain ⟨link,latest,same,s',found',fits⟩ := ok.current t' f held
        refine ⟨link,?_,same,s',by rw [sessions,if_neg here]; exact found',fits⟩
        rw [Observed.latest,List.find?_cons_of_neg (by simpa using fun same => here same.symm)]
        exact latest

/-- A disconnect of a transport that is not the current one leaves the registry alone. -/
private theorem disconnect_stale (ok : LinksOk daemon o) {n : Nat} {link : Link} {frame : FramePc}
    (here : o.world.transport n = .connected link frame) (stale : ¬ o.Current link)
    (taken : observe daemon o (.transport n .disconnect) = some o') : o'.world.mgr = o.world.mgr := by
  obtain ⟨w',stepped,rfl⟩ := Option.map_eq_some_iff.mp taken
  have member : link ∈ o.links := ok.held n link (by rw [here]; rfl)
  have result := step_operation stepped
  simp only [operationOf,here,ofTransport,after,Option.elim_some,Operation.run] at result
  rcases disconnect_cases ok.world.coherent link.kind link.deviceId link.token link.grant.generation
    link.grant.capability with ⟨s,⟨_,_,counts⟩,_⟩ | ⟨_,same⟩
  · refine absurd (ok.isCurrent member ?_) stale
    simp only [Bool.and_eq_true,transportCapabilityCurrent,beq_iff_eq] at counts
    exact ok.world.coherent.flagsOk.set (.transport link.token) _ counts.2
  · exact result.trans same

/-- At every moment of every run: a valid capability is that of the transport that
    connected last to its session, and the session is of its kind; a session has at
    most one; one that became invalid stays so; and a disconnect of any other
    transport leaves the registry alone. -/
theorem transport_capabilities {trace : List Action} (run : exec (observe daemon) ⟨{},[]⟩ trace = some o) :
    (∀ link ∈ o.links, o.world.mgr.valid link.grant.capability = true → o.Current link) ∧
    (∀ link ∈ o.links, ∀ link' ∈ o.links, link.token = link'.token →
      o.world.mgr.valid link.grant.capability = true → o.world.mgr.valid link'.grant.capability = true →
      link = link') ∧
    (∀ link ∈ o.links, o.world.mgr.valid link.grant.capability = false → ∀ later o',
      exec (observe daemon) o later = some o' → o'.world.mgr.valid link.grant.capability = false) ∧
    ∀ n link frame o', o.world.transport n = .connected link frame → ¬ o.Current link →
      observe daemon o (.transport n .disconnect) = some o' → o'.world.mgr = o.world.mgr := by
  have ok : LinksOk daemon o := exec_invariant (fun _ _ _ ok taken => ok.step taken) (LinksOk.init daemon) run
  refine ⟨fun link member valid => ok.isCurrent member valid,?_,?_,?_⟩
  · intro link member link' member' same valid valid'
    have latest := (ok.isCurrent member valid).1
    rw [same,(ok.isCurrent member' valid').1] at latest
    exact (Option.some.inj latest).symm
  · intro link member cleared later o' run'
    have kept := exec_invariant (I := fun o : Observed => LinksOk daemon o ∧ link.grant.capability < o.world.mgr.nextFlag ∧
      o.world.mgr.valid link.grant.capability = false) ?_ ⟨ok,ok.granted link member,cleared⟩ run'
    · exact kept.2.2
    · intro o₁ a o₂ ⟨ok₁,granted,invalid⟩ taken
      obtain ⟨w',stepped,rfl⟩ := Option.map_eq_some_iff.mp taken
      refine ⟨ok₁.step taken,?_,?_⟩
      · exact Nat.lt_of_lt_of_le granted ((step_move ok₁.world stepped).effect.evolves ok₁.world.coherent).next
      · by_contra valid
        rw [Bool.not_eq_false] at valid
        rw [step_cleared ok₁ stepped granted valid] at invalid
        cases invalid
  · intro n link frame o' here stale taken
    exact disconnect_stale ok here stale taken

/-- A WebTransport connection takes a session over from a WebSocket connection. -/
def takeover : List Action :=
  connecting 1 ++ openingFirst 1 tokenA ++
    [.transport 1 (.authenticate .ws (vendorDaemon.computeWsAuthHash tokenA)),.transport 1 .connect] ++
    [.transport 2 (.authenticate .wt (vendorDaemon.computeWsAuthHash tokenA)),.transport 2 .connect]

def connectedPc : TransportPc → Bool
  | .connected _ _ => true
  | _ => false

/-- The late disconnect of the WebSocket connection changes nothing. -/
theorem transport_capabilities_takeover : ∃ o link frame o',
    exec (observe vendorDaemon) ⟨{},[]⟩ takeover = some o ∧ o.world.transport 1 = .connected link frame ∧
    link.kind = .ws ∧ (o.world.mgr.sessions.lookup tokenA).map (·.mode) = some .wt ∧
    o.world.mgr.valid link.grant.capability = false ∧ observe vendorDaemon o (.transport 1 .disconnect) = some o' ∧
    o'.world.mgr = o.world.mgr := by
  obtain ⟨o,run⟩ := Option.isSome_iff_exists.mp
    (by decide : (exec (observe vendorDaemon) ⟨{},[]⟩ takeover).isSome = true)
  have facts : (exec (observe vendorDaemon) ⟨{},[]⟩ takeover).map (fun o =>
      ((linkOf (o.world.transport 1)).map fun link => (link.kind,o.world.mgr.valid link.grant.capability),
        (o.world.mgr.sessions.lookup tokenA).map (·.mode))) = some (some (.ws,false),some .wt) := by decide
  have disconnects : ((exec (observe vendorDaemon) ⟨{},[]⟩ takeover).bind fun o =>
      observe vendorDaemon o (.transport 1 .disconnect)).isSome = true := by decide
  have connected : (exec (observe vendorDaemon) ⟨{},[]⟩ takeover).any (fun o => connectedPc (o.world.transport 1)) =
      true := by decide
  rw [run] at facts disconnects connected
  simp only [Option.map_some,Option.some.injEq,Prod.mk.injEq] at facts
  obtain ⟨o',taken⟩ := Option.isSome_iff_exists.mp disconnects
  cases here : o.world.transport 1 with
  | connected link frame =>
    rw [here] at facts
    simp only [linkOf,Option.map_some,Option.some.injEq,Prod.mk.injEq] at facts
    obtain ⟨⟨kind,cleared⟩,mode⟩ := facts
    refine ⟨o,link,frame,o',run,here,kind,mode,cleared,taken,?_⟩
    refine (transport_capabilities run).2.2.2 1 link frame o' here ?_ taken
    rintro ⟨_,valid,_⟩; rw [cleared] at valid; cases valid
  | _ => simp [here,connectedPc] at connected

end FFWebHid.Transports
