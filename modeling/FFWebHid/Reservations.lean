import FFWebHid.Maps
import FFWebHid.Runs
import FFWebHid.Types
import FFWebHid.Registry
import FFWebHid.Lifecycle
import FFWebHid.Coherence
import FFWebHid.Sections
import FFWebHid.Threads
import FFWebHid.Safety
import FFWebHid.Operations

/-!
The reservations under which devices are opened. A device is opened outside the
lifecycle mutex by the one client that holds its reservation; the others wait, and
losing the device invalidates the reservation without taking it away. What an open
returns is fixed by its last section and recorded beside the state of the daemon.
-/
namespace FFWebHid.Reservations
open FFWebHid.Runs FFWebHid.Types FFWebHid.Maps FFWebHid.Registry FFWebHid.Lifecycle FFWebHid.Coherence
open FFWebHid.Sections FFWebHid.Threads FFWebHid.Safety FFWebHid.Operations FFWebHid.Registry.DeviceManager

/-- The result of an open, with the reservation that it took: the identifier of the
    opened device, or an error. -/
structure OpenResult where
  call : OpenCall
  generation : Option Nat
  answer : Option DeviceId
  deriving DecidableEq

/-- The result that a step of a client fixes. -/
def resultOf (daemon : Daemon) (m : DeviceManager) (c : ClientId) : ClientPc → ClientAction → Option OpenResult
  | .opening call .enter,.advance =>
    match (m.openEnter call.deviceId call.token c (daemon.computeWsAuthHash call.token)).1 with
    | .registered => some ⟨call,none,some call.deviceId⟩
    | _ => none
  | .opening call .recheck,.advance =>
    match (m.openRecheck call.deviceId call.token c (daemon.computeWsAuthHash call.token)).1 with
    | .registered => some ⟨call,none,some call.deviceId⟩
    | .failed => some ⟨call,none,none⟩
    | _ => none
  | .opening call (.physical g),.opened info _ =>
    if info.descriptorParseFailed then some ⟨call,some g,none⟩ else none
  | .opening call (.physical g),.openFailed => some ⟨call,some g,none⟩
  | .opening call (.check g info _),.advance =>
    match (m.openCheck call.deviceId info.deviceId g call.token c (daemon.computeWsAuthHash call.token)).1 with
    | .registered => some ⟨call,some g,some info.deviceId⟩
    | .failed => some ⟨call,some g,none⟩
    | _ => none
  | .opening call (.install g id entry),.advance =>
    match (m.openInstall call.deviceId id g entry call.token c (daemon.computeWsAuthHash call.token)).1 with
    | .registered => some ⟨call,some g,some id⟩
    | .installed => some ⟨call,some g,some id⟩
    | .failed => some ⟨call,some g,none⟩
    | _ => none
  | _,_ => none

/-- The daemon with the results of its opens, the latest first. -/
structure Observed where
  world : World := {}
  results : List OpenResult := []

def Observed.mgr (o : Observed) : DeviceManager := o.world.mgr

def resultAt (daemon : Daemon) (w : World) : Action → Option OpenResult
  | .client c action => resultOf daemon w.mgr c (w.client c) action
  | _ => none

/-- A step of the daemon, with the result that it fixes. -/
def observe (daemon : Daemon) (o : Observed) (a : Action) : Option Observed :=
  (step daemon o.world a).map fun w => ⟨w,(resultAt daemon o.world a).toList ++ o.results⟩

/-- The device and the generation of the reservation that a client holds. -/
def holding : ClientPc → Option (DeviceId × Nat)
  | .opening call pc => (generationOf (.opening call pc)).map fun g => (call.deviceId,g)
  | _ => none

/-- The generation under which a client may still publish an entry. -/
def publisher : ClientPc → Option Nat
  | .opening _ (.physical g) => some g
  | .opening _ (.check g _ _) => some g
  | .opening _ (.spawn g _ _) => some g
  | .opening _ (.install g _ _) => some g
  | _ => none

theorem publisher_generation {pc : ClientPc} {g : Nat} (publishes : publisher pc = some g) :
    generationOf pc = some g := by
  unfold publisher at publishes
  split at publishes <;> first | exact publishes | cases publishes

/-- No reservation is taken or given back, and none becomes valid again. -/
structure KeepsReservations (m m' : DeviceManager) : Prop where
  opening : m'.opening = m.opening
  invalidated : ∀ g, m.invalidated g = true → m'.invalidated g = true

theorem KeepsReservations.refl (m : DeviceManager) : KeepsReservations m m := ⟨rfl,fun _ => id⟩

theorem KeepsReservations.trans {m₁ m₂ m₃ : DeviceManager} (first : KeepsReservations m₁ m₂)
    (second : KeepsReservations m₂ m₃) : KeepsReservations m₁ m₃ :=
  ⟨second.opening.trans first.opening,fun g told => second.invalidated g (first.invalidated g told)⟩

theorem KeepsReservations.of_eq {m m' : DeviceManager} (opening : m'.opening = m.opening)
    (invalidated : m'.invalidated = m.invalidated) : KeepsReservations m m' :=
  ⟨opening,fun _ told => invalidated ▸ told⟩

private theorem keeps_refresh (m : DeviceManager) (d : DeviceId) (c : ClientId) :
    KeepsReservations m (m.refreshNmHotLocked d c) := by
  refine .of_eq ?_ ?_ <;> · unfold refreshNmHotLocked; split <;> rfl

private theorem count_opening (m : DeviceManager) (was now : Bool) : (m.updateNonNmCount was now).opening = m.opening := by
  cases m; cases was <;> cases now <;> rfl

private theorem count_invalidated (m : DeviceManager) (was now : Bool) :
    (m.updateNonNmCount was now).invalidated = m.invalidated := by
  cases m; cases was <;> cases now <;> rfl

private theorem keeps_refreshed {m m' : DeviceManager} (d : DeviceId) (c : ClientId)
    (keeps : KeepsReservations m m') : KeepsReservations m (m'.refreshNmHotLocked d c) :=
  keeps.trans (keeps_refresh m' d c)

private theorem keeps_register {m m' : DeviceManager} {d : DeviceId} {t : Token} {c : ClientId} {h : String}
    (done : m.registerAndRefresh d t c h = some m') : KeepsReservations m m' := by
  obtain ⟨_,rfl⟩ := registerAndRefresh_eq.mp done
  exact keeps_refreshed d c (.of_eq rfl rfl)

private theorem keeps_close (m : DeviceManager) (d : DeviceId) (t : Token) (c : ClientId) :
    KeepsReservations m (m.close d t c).2 := by
  unfold close
  cases m.sessions.lookup t with
  | none => exact .refl m
  | some s =>
    have ended : KeepsReservations m (m.endSession t s) :=
      .of_eq (count_opening _ _ _) (count_invalidated _ _ _)
    dsimp only
    split
    · exact .refl m
    split
    · exact .refl m
    split
    · exact .refl m
    split
    · exact ended.trans (.of_eq rfl rfl)
    · exact keeps_refreshed d c ended

private theorem keeps_setDataplaneMode {m m' : DeviceManager} {d : DeviceId} {t : Token} {mode : Option Mode}
    {c : ClientId} (done : m.setDataplaneMode d t mode c = .ok m') : KeepsReservations m m' := by
  unfold setDataplaneMode at done
  split at done
  · cases done
  split at done
  · cases done
  split at done
  · cases done
  split at done
  · cases done
  split at done
  · cases done
  cases done
  exact keeps_refreshed _ _ (.of_eq (count_opening _ _ _) (count_invalidated _ _ _))

private theorem keeps_connect {m m' : DeviceManager} {kind : TransportKind} {d : DeviceId} {t : Token}
    {grant : TransportGrant} (done : m.connect kind d t = some (grant,m')) : KeepsReservations m m' := by
  unfold connect at done
  split at done
  · cases done
  split at done
  · cases done
  cases done
  exact keeps_refreshed _ _ (.of_eq (count_opening _ _ _) (count_invalidated _ _ _))

private theorem keeps_disconnect (m : DeviceManager) (kind : TransportKind) (d : DeviceId) (t : Token) (g : Nat)
    (f : Flag) : KeepsReservations m (m.disconnect kind d t g f) := by
  unfold disconnect
  split
  · exact .refl m
  split
  · split
    · exact keeps_refreshed _ _ (.of_eq (count_opening _ _ _) (count_invalidated _ _ _))
    · exact .refl m
  · exact .refl m

private theorem keeps_tellOpener (m : DeviceManager) (d : DeviceId) : KeepsReservations m (m.tellOpener d) := by
  unfold tellOpener
  split
  · refine ⟨rfl,?_⟩
    intro g told
    simp [notifyWaiters,Function.update_apply,told]
  · exact .refl m

private theorem keeps_registerNmSink (m : DeviceManager) (c : ClientId) (sink : Sink) :
    KeepsReservations m (m.registerNmSink c sink) := by
  have folded (ds : List DeviceId) (m : DeviceManager) :
      KeepsReservations m (ds.foldl (fun m d => m.refreshNmHotLocked d c) m) := by
    induction ds generalizing m with
    | nil => exact .refl m
    | cons d rest ih => exact (keeps_refresh m d c).trans (ih _)
  have inserted : KeepsReservations m { m with nmSinks := m.nmSinks.insert c sink } := .of_eq rfl rfl
  exact inserted.trans (folded _ _)

/-- An entry is published only while its reservation is valid. -/
private theorem install_current {m m' : DeviceManager} {d id : DeviceId} {g : Nat} {e : Entry} {t : Token} {c : ClientId}
    {h : String} (result : m.openInstall d id g e t c h = (.installed,m')) : m.invalidated g = false := by
  unfold openInstall at result
  split at result
  next current =>
    simp only [reservationCurrent,Bool.and_eq_true,Bool.not_eq_true'] at current
    exact current.1
  · cases result

private theorem keeps_install {m m' : DeviceManager} {d id : DeviceId} {g : Nat} {e : Entry} {t : Token} {c : ClientId}
    {h : String} (result : m.openInstall d id g e t c h = (.installed,m')) : KeepsReservations m m' := by
  unfold openInstall at result
  split at result
  · split at result
    · cases result
    · cases result
      cases done : ({ m with devices := m.devices.insert id e } : DeviceManager).registerAndRefresh id t c h with
      | none => exact .of_eq rfl rfl
      | some m' =>
        have same := keeps_register done
        exact ⟨same.opening,same.invalidated⟩
  · cases result

private theorem keeps_teardown {sh sh' : Shared} {instruction : TeardownStep}
    (ran : sh.teardown instruction = some sh') : KeepsReservations sh.mgr sh'.mgr := by
  rw [teardown_operation ran]
  cases instruction with
  | cancel t => exact .of_eq rfl rfl
  | subNonNm n => cases sh.mgr; exact .of_eq rfl rfl
  | _ => exact .refl _

private theorem teardown_devices {sh sh' : Shared} {instruction : TeardownStep}
    (ran : sh.teardown instruction = some sh') : sh'.mgr.devices = sh.mgr.devices := by
  rw [teardown_operation ran]
  cases instruction with
  | subNonNm n => cases sh.mgr; rfl
  | _ => rfl

/-- Sections outside an open keep the reservations. -/
theorem run_keeps (m : DeviceManager) (operation : Operation) (outside : isOpening operation = false) :
    KeepsReservations m (operation.run m) := by
  cases operation with
  | openEnter d t c h => cases outside
  | openRecheck d t c h => cases outside
  | openCheck d id g t c h => cases outside
  | openInstall d id g e t c h => cases outside
  | releaseReservation d g => cases outside
  | registerNmSink c sink => exact keeps_registerNmSink m c sink
  | close d t c => exact keeps_close m d t c
  | setDataplaneMode d t mode c =>
    simp only [Operation.run]
    cases done : m.setDataplaneMode d t mode c with
    | error _ => exact .refl m
    | ok m' => exact keeps_setDataplaneMode done
  | connect kind d t =>
    simp only [Operation.run]
    cases done : m.connect kind d t with
    | none => exact .refl m
    | some granted => exact keeps_connect done
  | disconnect kind d t g f => exact keeps_disconnect m kind d t g f
  | forceClose d => exact (keeps_tellOpener m d).trans (.of_eq rfl rfl)
  | detachDeadReaderLifetime d =>
    simp only [Operation.run,detachDeadReaderLifetime]
    cases m.devices.lookup d <;> exact .of_eq rfl rfl
  | subNonNm n => cases m; exact .of_eq rfl rfl
  | _ => exact .of_eq rfl rfl

/-! ### What a step does to reservations -/

section
variable {daemon : Daemon} {w w' : World}

/-- How an open is answered: its session is registered on the entry that is
    published, or on its own entry, which it publishes; or it fails. -/
inductive Answered (daemon : Daemon) (w w' : World) (c : ClientId) (r : OpenResult) : Prop where
  | attached (id : DeviceId) (answer : r.answer = some id) (e : Entry) (there : w.mgr.devices.lookup id = some e)
      (registered : Registered id r.call.token c (daemon.computeWsAuthHash r.call.token) w.mgr w'.mgr)
      (devices : w'.mgr.devices = w.mgr.devices)
  | published (id : DeviceId) (answer : r.answer = some id) (e : Entry) (own : r.generation = some e.lifetime)
      (valid : w.mgr.invalidated e.lifetime = false) (absent : w.mgr.devices.lookup id = none)
      (registered : Registered id r.call.token c (daemon.computeWsAuthHash r.call.token) w.mgr w'.mgr)
      (devices : w'.mgr.devices = w.mgr.devices.insert id e)
  | refused (answer : r.answer = none) (same : w'.mgr = w.mgr)

/-- What a step does: nothing to reservations and opens; or one client takes a
    reservation, fixes the result of its open, or gives its reservation back. -/
inductive Change (daemon : Daemon) (w : World) (r : Option OpenResult) (w' : World) : Prop where
  | keeps (nothing : r = none) (reservations : KeepsReservations w.mgr w'.mgr)
      (holds : ∀ c, holding (w'.client c) = holding (w.client c))
      (publishers : ∀ c g, publisher (w'.client c) = some g → publisher (w.client c) = some g)
      (pending : ∀ c call, pendingCall (w.client c) = some call → pendingCall (w'.client c) = some call)
      (devices : ∀ d e, w'.mgr.devices.lookup d = some e → w.mgr.devices.lookup d = some e)
  | reserves (nothing : r = none) (c : ClientId) (d : DeviceId) (g : Nat) (free : w.mgr.opening.lookup d = none)
      (empty : holding (w.client c) = none) (fresh : g = w.mgr.nextLifetimeGeneration + 1)
      (opening : w'.mgr.opening = w.mgr.opening.insert d ⟨g⟩) (invalidated : w'.mgr.invalidated = w.mgr.invalidated)
      (here : holding (w'.client c) = some (d,g)) (publishes : publisher (w'.client c) = some g)
      (pending : pendingCall (w'.client c) = pendingCall (w.client c))
      (others : ∀ c', c' ≠ c → w'.client c' = w.client c') (devices : w'.mgr.devices = w.mgr.devices)
  | decides (result : OpenResult) (decided : r = some result) (c : ClientId)
      (pending : pendingCall (w.client c) = some result.call) (own : publisher (w.client c) = result.generation)
      (finished : pendingCall (w'.client c) = none ∧ publisher (w'.client c) = none)
      (holds : holding (w'.client c) = holding (w.client c)) (reservations : KeepsReservations w.mgr w'.mgr)
      (others : ∀ c', c' ≠ c → w'.client c' = w.client c') (answered : Answered daemon w w' c result)
  | releases (nothing : r = none) (c : ClientId) (d : DeviceId) (g : Nat) (held : holding (w.client c) = some (d,g))
      (settled : pendingCall (w.client c) = none)
      (opening : w'.mgr.opening = if w.mgr.opening.lookup d = some ⟨g⟩ then w.mgr.opening.erase d else w.mgr.opening)
      (invalidated : w'.mgr.invalidated = w.mgr.invalidated)
      (gone : holding (w'.client c) = none ∧ publisher (w'.client c) = none)
      (others : ∀ c', c' ≠ c → w'.client c' = w.client c') (devices : w'.mgr.devices = w.mgr.devices)

private theorem others_withClient (c : ClientId) (pc : ClientPc) (sh : Shared) :
    ∀ c', c' ≠ c → (withClient w c pc sh).client c' = w.client c' := by
  intro c' other
  simp [withClient,other]

/-- A client moves on without touching reservations or results. -/
private theorem keeps_client {c : ClientId} {pc : ClientPc} {sh : Shared}
    (reservations : KeepsReservations w.mgr sh.mgr) (holds : holding pc = holding (w.client c))
    (publishers : ∀ g, publisher pc = some g → publisher (w.client c) = some g)
    (pending : ∀ call, pendingCall (w.client c) = some call → pendingCall pc = some call)
    (devices : ∀ d e, sh.mgr.devices.lookup d = some e → w.mgr.devices.lookup d = some e) :
    Change daemon w none (withClient w c pc sh) := by
  refine .keeps rfl reservations ?_ ?_ ?_ devices
  · intro c'
    by_cases here : c' = c
    · subst here; simpa [withClient] using holds
    · rw [others_withClient c pc sh c' here]
  · intro c' g publishes
    by_cases here : c' = c
    · subst here; exact publishers g (by simpa [withClient] using publishes)
    · rwa [others_withClient c pc sh c' here] at publishes
  · intro c' call waits
    by_cases here : c' = c
    · subst here; simpa [withClient] using pending call waits
    · rwa [others_withClient c pc sh c' here]

/-- The steps of an open. -/
private theorem openStep_change (ok : WorldOk daemon w) {c : ClientId} {call : OpenCall} {pc : OpenPc} {pc' : ClientPc}
    {sh : Shared} (here : w.client c = .opening call pc)
    (taken : openStep daemon w.shared c call pc = some (pc',sh)) :
    Change daemon w (resultOf daemon w.mgr c (.opening call pc) .advance) (withClient w c pc' sh) := by
  have self (pc : ClientPc) (sh : Shared) : (withClient w c pc sh).client c = pc := by simp [withClient]
  have decides {result : OpenResult} {pc' : ClientPc} {sh : Shared} (pending : pendingCall (.opening call pc) = some result.call)
      (own : publisher (.opening call pc) = result.generation)
      (finished : pendingCall pc' = none ∧ publisher pc' = none)
      (holds : holding pc' = holding (.opening call pc)) (reservations : KeepsReservations w.mgr sh.mgr)
      (answered : Answered daemon w (withClient w c pc' sh) c result) :
      Change daemon w (some result) (withClient w c pc' sh) := by
    refine .decides result rfl c ?_ ?_ ?_ ?_ reservations (others_withClient c pc' sh) answered
    · rw [here]; exact pending
    · rw [here]; exact own
    · rw [self]; exact finished
    · rw [self,here]; exact holds
  have attached {d : DeviceId} {g : Option Nat} {pc' : ClientPc} {m : DeviceManager}
      (done : w.mgr.registerAndRefresh d call.token c (daemon.computeWsAuthHash call.token) = some m)
      (pending : pendingCall (.opening call pc) = some call) (own : publisher (.opening call pc) = g)
      (finished : pendingCall pc' = none ∧ publisher pc' = none) (holds : holding pc' = holding (.opening call pc)) :
      Change daemon w (some ⟨call,g,some d⟩) (withClient w c pc' { w.shared with mgr := m }) := by
    obtain ⟨registered,devices⟩ := registerAndRefresh_registered done
    obtain ⟨e,there⟩ := mem_iff_lookup.mp (registerAndRefresh_eq.mp done).1
    exact decides pending own finished holds (keeps_register done) (.attached d rfl e there registered devices)
  have refused {g : Option Nat} {pc' : ClientPc} {sh : Shared} (same : sh.mgr = w.mgr)
      (pending : pendingCall (.opening call pc) = some call) (own : publisher (.opening call pc) = g)
      (finished : pendingCall pc' = none ∧ publisher pc' = none) (holds : holding pc' = holding (.opening call pc)) :
      Change daemon w (some ⟨call,g,none⟩) (withClient w c pc' sh) :=
    decides pending own finished holds (same ▸ .refl w.mgr) (.refused rfl same)
  have moves {pc' : ClientPc} {sh : Shared} (reservations : KeepsReservations w.mgr sh.mgr)
      (holds : holding pc' = holding (.opening call pc))
      (publishers : ∀ g, publisher pc' = some g → publisher (.opening call pc) = some g)
      (pending : pendingCall pc' = pendingCall (.opening call pc))
      (devices : sh.mgr.devices = w.mgr.devices) : Change daemon w none (withClient w c pc' sh) :=
    keeps_client reservations (here ▸ holds) (here ▸ publishers) (fun call waits => pending ▸ here ▸ waits) (fun d e present => devices ▸ present)
  cases pc with
  | enter =>
    cases done : w.mgr.registerAndRefresh call.deviceId call.token c (daemon.computeWsAuthHash call.token) with
    | some m =>
      have result : w.mgr.openEnter call.deviceId call.token c (daemon.computeWsAuthHash call.token) =
          (.registered,m) := by simp [openEnter,done]
      simp only [openStep,show w.shared.mgr = w.mgr from rfl,result,Option.some.injEq,Prod.mk.injEq] at taken
      obtain ⟨rfl,rfl⟩ := taken
      simp only [resultOf,result]
      exact attached done rfl rfl ⟨rfl,rfl⟩ rfl
    | none =>
      cases waiting : w.mgr.opening.lookup call.deviceId with
      | some reservation =>
        have result : w.mgr.openEnter call.deviceId call.token c (daemon.computeWsAuthHash call.token) =
            (.waiting reservation.generation (w.mgr.notified reservation.generation),w.mgr) := by
          simp [openEnter,done,waiting]
        simp only [openStep,show w.shared.mgr = w.mgr from rfl,result,Option.some.injEq,Prod.mk.injEq] at taken
        obtain ⟨rfl,rfl⟩ := taken
        simp only [resultOf,result]
        exact moves (.refl _) rfl (by simp [publisher]) rfl rfl
      | none =>
        have result : w.mgr.openEnter call.deviceId call.token c (daemon.computeWsAuthHash call.token) =
            (.reserved (w.mgr.nextLifetimeGeneration + 1),{ w.mgr with
              nextLifetimeGeneration := w.mgr.nextLifetimeGeneration + 1
              opening := w.mgr.opening.insert call.deviceId ⟨w.mgr.nextLifetimeGeneration + 1⟩ }) := by
          simp [openEnter,done,waiting]
        simp only [openStep,show w.shared.mgr = w.mgr from rfl,result,Option.some.injEq,Prod.mk.injEq] at taken
        obtain ⟨rfl,rfl⟩ := taken
        simp only [resultOf,result]
        refine .reserves rfl c call.deviceId (w.mgr.nextLifetimeGeneration + 1) waiting ?_ rfl rfl rfl ?_ ?_ ?_
          (others_withClient c _ _) rfl
        · rw [here]; rfl
        · rw [self]; rfl
        · rw [self]; rfl
        · rw [self,here]; rfl
  | wait g seen =>
    simp only [openStep,Option.ite_none_right_eq_some] at taken
    obtain ⟨_,same⟩ := taken
    cases same
    exact moves (.refl _) rfl (by simp [publisher]) rfl rfl
  | recheck =>
    rcases openRecheck_cases w.mgr call.deviceId call.token c (daemon.computeWsAuthHash call.token) with
      ⟨m,done,result⟩ | result | result
    · simp only [openStep,show w.shared.mgr = w.mgr from rfl,result,Option.some.injEq,Prod.mk.injEq] at taken
      obtain ⟨rfl,rfl⟩ := taken
      simp only [resultOf,result]
      exact attached done rfl rfl ⟨rfl,rfl⟩ rfl
    · simp only [openStep,show w.shared.mgr = w.mgr from rfl,result,Option.some.injEq,Prod.mk.injEq] at taken
      obtain ⟨rfl,rfl⟩ := taken
      simp only [resultOf,result]
      exact moves (.refl _) rfl (by simp [publisher]) rfl rfl
    · simp only [openStep,show w.shared.mgr = w.mgr from rfl,result,Option.some.injEq,Prod.mk.injEq] at taken
      obtain ⟨rfl,rfl⟩ := taken
      simp only [resultOf,result]
      exact refused rfl rfl rfl ⟨rfl,rfl⟩ rfl
  | physical g => cases taken
  | check g info numbered =>
    rcases openCheck_cases w.mgr call.deviceId info.deviceId g call.token c (daemon.computeWsAuthHash call.token) with
      ⟨m,done,result⟩ | result | result
    · simp only [openStep,show w.shared.mgr = w.mgr from rfl,result,Option.some.injEq,Prod.mk.injEq] at taken
      obtain ⟨rfl,rfl⟩ := taken
      simp only [resultOf,result]
      exact attached done rfl rfl ⟨rfl,rfl⟩ rfl
    · simp only [openStep,show w.shared.mgr = w.mgr from rfl,result,Option.some.injEq,Prod.mk.injEq] at taken
      obtain ⟨rfl,rfl⟩ := taken
      simp only [resultOf,result]
      exact moves (.refl _) rfl (fun _ => id) rfl rfl
    · simp only [openStep,show w.shared.mgr = w.mgr from rfl,result,Option.some.injEq,Prod.mk.injEq] at taken
      obtain ⟨rfl,rfl⟩ := taken
      simp only [resultOf,result]
      exact refused rfl rfl rfl ⟨rfl,rfl⟩ rfl
  | spawn g info numbered =>
    cases taken
    exact moves (.of_eq rfl rfl) rfl (fun _ => id) rfl rfl
  | install g reported entry =>
    have pending : pendingCall (w.client c) = some call := by rw [here]; rfl
    have recorded : w.shared.entryOf g = some entry := ok.installing c g entry (by rw [here]; rfl)
    obtain ⟨_,lifetime,running⟩ := ok.built g entry recorded
    rcases openInstall_cases call.deviceId reported g c ok.coherent (ok.isFresh pending)
      (running.trans (congrArg some lifetime.symm)) with
      ⟨m,done,result⟩ | result | ⟨m,result,absent,_,registered,devices⟩
    · simp only [openStep,show w.shared.mgr = w.mgr from rfl,result,Option.some.injEq,Prod.mk.injEq] at taken
      obtain ⟨rfl,rfl⟩ := taken
      simp only [resultOf,result]
      exact attached done rfl rfl ⟨rfl,rfl⟩ rfl
    · simp only [openStep,show w.shared.mgr = w.mgr from rfl,result,Option.some.injEq,Prod.mk.injEq] at taken
      obtain ⟨rfl,rfl⟩ := taken
      simp only [resultOf,result]
      exact refused rfl rfl rfl ⟨rfl,rfl⟩ rfl
    · have current := install_current result
      have same : KeepsReservations w.mgr m := keeps_install result
      simp only [openStep,show w.shared.mgr = w.mgr from rfl,result,Option.some.injEq,Prod.mk.injEq] at taken
      obtain ⟨rfl,rfl⟩ := taken
      simp only [resultOf,result]
      refine decides rfl rfl ⟨rfl,rfl⟩ rfl same (.published reported rfl entry ?_ ?_ absent registered devices)
      · rw [lifetime]
      · rw [lifetime]; exact current
  | stopLocal g steps =>
    cases steps with
    | nil =>
      cases taken
      exact moves (.refl _) rfl (fun _ => id) rfl rfl
    | cons instruction rest =>
      obtain ⟨sh₁,ran,result⟩ := Option.map_eq_some_iff.mp taken
      cases result
      exact moves (keeps_teardown ran) rfl (fun _ => id) rfl (teardown_devices ran)
  | start g =>
    cases taken
    exact moves (.refl _) rfl (fun _ => id) rfl rfl
  | release g =>
    cases taken
    refine .releases rfl c call.deviceId g (by rw [here]; rfl) (by rw [here]; rfl) ?_ ?_ ?_ (others_withClient c _ _) ?_
    · show (w.mgr.releaseReservation call.deviceId g).2.opening = _
      unfold releaseReservation
      split <;> rfl
    · show (w.mgr.releaseReservation call.deviceId g).2.invalidated = _
      unfold releaseReservation
      split <;> rfl
    · rw [self]
      split <;> exact ⟨rfl,rfl⟩
    · show (w.mgr.releaseReservation call.deviceId g).2.devices = _
      unfold releaseReservation
      split <;> rfl
  | notify g =>
    cases taken
    exact moves (.of_eq rfl rfl) rfl (fun _ => id) rfl rfl

/-- The physical open ends. -/
private theorem physical_change {c : ClientId} {call : OpenCall} {g : Nat} {a : ClientAction} {pc' : ClientPc} {sh : Shared}
    (here : w.client c = .opening call (.physical g)) (waits : a ≠ .advance)
    (taken : clientStep daemon w.shared c (.opening call (.physical g)) a = some (pc',sh)) :
    Change daemon w (resultOf daemon w.mgr c (.opening call (.physical g)) a) (withClient w c pc' sh) := by
  have self (pc : ClientPc) (sh : Shared) : (withClient w c pc sh).client c = pc := by simp [withClient]
  have failed : Change daemon w (some ⟨call,some g,none⟩) (withClient w c (.opening call (.release g)) w.shared) := by
    refine .decides ⟨call,some g,none⟩ rfl c ?_ ?_ ?_ ?_ (.refl _) (others_withClient c _ _) (.refused rfl rfl)
    · rw [here]; rfl
    · rw [here]; rfl
    · rw [self]; exact ⟨rfl,rfl⟩
    · rw [self,here]; rfl
  cases a with
  | opened info numbered =>
    cases unparsed : info.descriptorParseFailed with
    | true =>
      simp only [clientStep,unparsed,if_true,Option.some.injEq,Prod.mk.injEq] at taken
      obtain ⟨rfl,rfl⟩ := taken
      simp only [resultOf,unparsed,if_true]
      exact failed
    | false =>
      simp only [clientStep,unparsed,Bool.false_eq_true,if_false,Option.some.injEq,Prod.mk.injEq] at taken
      obtain ⟨rfl,rfl⟩ := taken
      simp only [resultOf,unparsed,Bool.false_eq_true,if_false]
      exact keeps_client (.refl _) (by rw [here]; rfl) (by rw [here]; exact fun _ => id) (by rw [here]; exact fun _ => id)
        (fun _ _ => id)
  | openFailed => cases taken; exact failed
  | advance => exact absurd rfl waits
  | _ => cases taken

/-- A client that is not opening stays out of reservations. -/
private theorem client_outside {sh sh' : Shared} {c : ClientId} {pc pc' : ClientPc} {a : ClientAction}
    (outside : ∀ call pc', pc ≠ .opening call pc') (taken : clientStep daemon sh c pc a = some (pc',sh')) :
    holding pc' = none ∧ publisher pc' = none := by
  unfold clientStep at taken
  split at taken
  · obtain ⟨_,result⟩ := Option.ite_none_right_eq_some.mp taken
    cases result; exact ⟨rfl,rfl⟩
  · cases taken; exact ⟨rfl,rfl⟩
  · obtain ⟨_,result⟩ := Option.ite_none_right_eq_some.mp taken
    cases result; exact ⟨rfl,rfl⟩
  · exact absurd rfl (outside _ _)
  · exact absurd rfl (outside _ _)
  · exact absurd rfl (outside _ _)
  · dsimp only at taken
    split at taken <;> cases taken <;> exact ⟨rfl,rfl⟩
  · cases taken; exact ⟨rfl,rfl⟩
  · obtain ⟨sh₁,ran,result⟩ := Option.map_eq_some_iff.mp taken
    cases result; exact ⟨rfl,rfl⟩
  · split at taken <;> cases taken <;> exact ⟨rfl,rfl⟩
  · split at taken <;> cases taken <;> exact ⟨rfl,rfl⟩
  · unfold nmStep at taken
    split at taken
    · split at taken <;> cases taken <;> exact ⟨rfl,rfl⟩
    · cases taken; exact ⟨rfl,rfl⟩
    · cases taken; exact ⟨rfl,rfl⟩
    · split at taken
      · cases taken; exact ⟨rfl,rfl⟩
      · obtain ⟨sh₁,pushed,result⟩ := Option.map_eq_some_iff.mp taken
        cases result; exact ⟨rfl,rfl⟩
    · obtain ⟨_,result⟩ := Option.ite_none_right_eq_some.mp taken
      cases result; exact ⟨rfl,rfl⟩
  · cases taken; exact ⟨rfl,rfl⟩
  · cases taken; exact ⟨rfl,rfl⟩
  · cases taken; exact ⟨rfl,rfl⟩
  · cases taken; exact ⟨rfl,rfl⟩
  · obtain ⟨sh₁,ran,result⟩ := Option.map_eq_some_iff.mp taken
    cases result; exact ⟨rfl,rfl⟩
  · dsimp only at taken
    split at taken <;> cases taken <;> exact ⟨rfl,rfl⟩
  · cases taken; exact ⟨rfl,rfl⟩
  · cases taken

/-- A step outside an open leaves reservations and publications alone. -/
private theorem outside_keeps (ok : WorldOk daemon w) {a : Action} (taken : step daemon w a = some w')
    (outside : ∀ c action, a = .client c action → ∀ call pc, w.client c ≠ .opening call pc) :
    KeepsReservations w.mgr w'.mgr ∧
      ∀ d e, w'.mgr.devices.lookup d = some e → w.mgr.devices.lookup d = some e := by
  have result := step_operation taken
  cases runs : operationOf daemon w a with
  | none =>
    have same : w'.mgr = w.mgr := by rw [result,runs]; rfl
    exact ⟨same ▸ .refl _,fun d e present => same ▸ present⟩
  | some operation =>
    have apart := operationOf_outside runs outside
    have same : w'.mgr = operation.run w.mgr := by rw [result,runs]; rfl
    refine ⟨same ▸ run_keeps w.mgr operation apart,?_⟩
    intro d e present
    exact (run_quiet ok.coherent operation apart).device ok.coherent (same ▸ present)

/-- What every step does to reservations, and the result that it fixes. -/
theorem step_change {a : Action} (ok : WorldOk daemon w) (taken : step daemon w a = some w') :
    Change daemon w (resultAt daemon w a) w' := by
  have outside (apart : ∀ c action, a = .client c action → ∀ call pc, w.client c ≠ .opening call pc)
      (nothing : resultAt daemon w a = none) (clients : w'.client = w.client) :
      Change daemon w (resultAt daemon w a) w' := by
    obtain ⟨reservations,devices⟩ := outside_keeps ok taken apart
    exact .keeps nothing reservations (fun c => by rw [clients]) (fun c g => by rw [clients]; exact id)
      (fun c call => by rw [clients]; exact id) devices
  cases a with
  | client c action =>
    obtain ⟨⟨pc',sh⟩,ran,rfl⟩ := Option.map_eq_some_iff.mp taken
    cases here : w.client c with
    | opening call pc =>
      rw [here] at ran
      simp only [resultAt,here]
      by_cases advances : action = .advance
      · subst advances
        have moved : openStep daemon w.shared c call pc = some (pc',sh) := by cases pc <;> exact ran
        exact openStep_change ok here moved
      · cases pc with
        | physical g => exact physical_change here advances ran
        | _ => cases action <;> first | exact absurd rfl advances | cases ran
    | _ =>
      have apart (call : OpenCall) (pc : OpenPc) : w.client c ≠ .opening call pc := by rw [here]; intro h; cases h
      obtain ⟨reservations,devices⟩ := outside_keeps ok taken (by rintro c' action' ⟨⟩; exact apart)
      obtain ⟨holds,publishes⟩ := client_outside apart ran
      have nothing : resultAt daemon w (.client c action) = none := by simp only [resultAt,here,resultOf]
      rw [nothing]
      refine keeps_client reservations (by rw [holds,here]; rfl) ?_ ?_ devices
      · intro g publishes'
        rw [publishes] at publishes'; cases publishes'
      · intro call waits
        rw [here] at waits; cases waits
  | relay c action =>
    obtain ⟨⟨pc,sh⟩,ran,rfl⟩ := Option.map_eq_some_iff.mp taken
    exact outside (by rintro _ _ ⟨⟩) rfl rfl
  | transport t action =>
    obtain ⟨⟨pc,sh⟩,ran,rfl⟩ := Option.map_eq_some_iff.mp taken
    exact outside (by rintro _ _ ⟨⟩) rfl rfl
  | reader l action =>
    obtain ⟨config,configured,stepped⟩ := Option.bind_eq_some_iff.mp taken
    obtain ⟨⟨pc,sh⟩,ran,rfl⟩ := Option.map_eq_some_iff.mp stepped
    exact outside (by rintro _ _ ⟨⟩) rfl rfl
  | worker l =>
    have ran := taken
    simp only [step] at ran
    split at ran
    · obtain ⟨⟨pc,sh⟩,ran,rfl⟩ := Option.map_eq_some_iff.mp ran
      exact outside (by rintro _ _ ⟨⟩) rfl rfl
    · cases ran
  | hotplug connected info =>
    cases taken
    exact outside (by rintro _ _ ⟨⟩) rfl rfl

end

end FFWebHid.Reservations
