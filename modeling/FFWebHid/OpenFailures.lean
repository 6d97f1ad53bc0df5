import FFWebHid.Maps
import FFWebHid.Runs
import FFWebHid.Types
import FFWebHid.Registry
import FFWebHid.Lifecycle
import FFWebHid.Sections
import FFWebHid.Threads
import FFWebHid.Safety
import FFWebHid.Operations
import FFWebHid.Reservations
import FFWebHid.OpenProtocol

/-!
Why an open fails. An open tries reservations: it runs one, or it waits for that of
another thread. What it tried, whose opener failed meanwhile, and which reservations a
forced close has invalidated is recorded beside the state of the daemon. An open that
wakes up cannot tell a reservation that failed from one whose session is closed again.
-/
namespace FFWebHid.OpenFailures
open FFWebHid.Runs FFWebHid.Types FFWebHid.Maps FFWebHid.Registry FFWebHid.Lifecycle FFWebHid.Sections FFWebHid.Threads
open FFWebHid.Safety FFWebHid.Operations FFWebHid.Reservations FFWebHid.OpenProtocol FFWebHid.Registry.DeviceManager

/-- The open of a client that is in progress: the reservations that it ran or waited for,
    the latest first, and those whose opener or descriptor check failed since it began. -/
structure Attempt where
  tried : List Nat := []
  failed : List Nat := []
  deriving DecidableEq

/-- An open with its result. -/
structure Ended where
  result : OpenResult
  attempt : Attempt
  deriving DecidableEq

/-- `failures` are all the reservations whose opener or descriptor check has failed, and
    `forced` those that a forced close of their device has invalidated. -/
structure Watched where
  world : World := {}
  attempt : ClientId → Attempt := fun _ => {}
  ended : List Ended := []
  failures : List Nat := []
  forced : List (DeviceId × Nat) := []

def Watched.observed (s : Watched) : Observed := ⟨s.world,s.ended.map (·.result)⟩

/-- The reservation whose physical opener or descriptor check fails in the step. -/
def openerFailed (w : World) : Action → Option Nat
  | .client c .openFailed =>
    match w.client c with
    | .opening _ (.physical g) => some g
    | _ => none
  | .client c (.opened info _) =>
    match w.client c with
    | .opening _ (.physical g) => if info.descriptorParseFailed then some g else none
    | _ => none
  | _ => none

/-- The reservation that a client takes or waits for when it enters the loop of `open`. -/
def entered (daemon : Daemon) (m : DeviceManager) (c : ClientId) : ClientPc → ClientAction → Option Nat
  | .opening call .enter,.advance =>
    match (m.openEnter call.deviceId call.token c (daemon.computeWsAuthHash call.token)).1 with
    | .waiting g _ => some g
    | .reserved g => some g
    | _ => none
  | _,_ => none

/-- The reservation that a forced close invalidates in the step. -/
def forcedAt (daemon : Daemon) (w : World) (a : Action) : Option (DeviceId × Nat) :=
  match operationOf daemon w a with
  | some (.forceClose d) => (w.mgr.opening.lookup d).map fun r => (d,r.generation)
  | _ => none

/-- The attempt of the acting client: a new open begins without reservations. -/
def ownAttempt (daemon : Daemon) (w : World) (c : ClientId) (a : ClientAction) (attempt : Attempt) : Attempt :=
  match w.client c,a with
  | .idle,.openDevice _ _ => {}
  | pc,a => { attempt with tried := (entered daemon w.mgr c pc a).toList ++ attempt.tried }

/-- The attempt of a client after a step. -/
def attemptAfter (daemon : Daemon) (s : Watched) (a : Action) (c : ClientId) : Attempt :=
  let own := match a with
    | .client actor action => if c = actor then ownAttempt daemon s.world c action (s.attempt c) else s.attempt c
    | _ => s.attempt c
  { own with failed := (openerFailed s.world a).toList ++ own.failed }

/-- The open that a step ends. -/
def endedAt (daemon : Daemon) (s : Watched) : Action → Option Ended
  | .client c action => (resultAt daemon s.world (.client c action)).map fun r =>
      ⟨r,attemptAfter daemon s (.client c action) c⟩
  | _ => none

/-- A step of the daemon, with what it adds to the record. -/
def watch (daemon : Daemon) (s : Watched) (a : Action) : Option Watched :=
  (step daemon s.world a).map fun w =>
    { world := w
      attempt := attemptAfter daemon s a
      ended := (endedAt daemon s a).toList ++ s.ended
      failures := (openerFailed s.world a).toList ++ s.failures
      forced := (forcedAt daemon s.world a).toList ++ s.forced }

/-- The open that took the reservation has returned a session. -/
def Watched.succeeded (s : Watched) (g : Nat) : Bool :=
  s.ended.any fun e => e.result.generation == some g && e.result.answer.isSome

/-- An open that failed tried a reservation whose opener failed meanwhile, or one that a
    forced close of its device has invalidated. -/
def Justified (s : Watched) : Prop :=
  ∀ e ∈ s.ended, e.result.answer = none →
    ∃ g ∈ e.attempt.tried, g ∈ e.attempt.failed ∨ (e.result.call.deviceId,g) ∈ s.forced

instance (s : Watched) : Decidable (Justified s) := inferInstanceAs (Decidable (∀ _ ∈ _, _ → _))

/-- The step is not one of two: an open that waited for a reservation whose opener
    succeeded finds neither an entry of its device nor a reservation, or an open starts
    to wait for a reservation whose opener has failed already. -/
def sound (s : Watched) : Action → Bool
  | .client c .advance =>
    match s.world.client c with
    | .opening call .recheck =>
      (s.world.mgr.devices.lookup call.deviceId).isSome || (s.world.mgr.opening.lookup call.deviceId).isSome ||
        !(s.attempt c).tried.head?.any s.succeeded
    | .opening call .enter =>
      (s.world.mgr.devices.lookup call.deviceId).isSome ||
        !(s.world.mgr.opening.lookup call.deviceId).any fun r => s.failures.contains r.generation
    | _ => true
  | _ => true

theorem observed_watch {daemon : Daemon} {s s' : Watched} {a : Action} (taken : watch daemon s a = some s') :
    observe daemon s.observed a = some s'.observed := by
  obtain ⟨w',stepped,rfl⟩ := Option.map_eq_some_iff.mp taken
  refine Option.map_eq_some_iff.mpr ⟨w',stepped,?_⟩
  have result : (endedAt daemon s a).map (·.result) = resultAt daemon s.world a := by
    cases a with
    | client c action => simp [endedAt,Function.comp_def]
    | _ => rfl
  simp only [Watched.observed,List.map_append,← result]
  cases endedAt daemon s a <;> rfl

private theorem refresh_invalidated (m : DeviceManager) (d : DeviceId) (c : ClientId) :
    (m.refreshNmHotLocked d c).invalidated = m.invalidated := by
  unfold refreshNmHotLocked
  split <;> rfl

private theorem count_invalidated (m : DeviceManager) (was now : Bool) :
    (m.updateNonNmCount was now).invalidated = m.invalidated := by
  cases m; cases was <;> cases now <;> rfl

private theorem register_invalidated {m m' : DeviceManager} {d : DeviceId} {t : Token} {c : ClientId} {h : String}
    (done : m.registerAndRefresh d t c h = some m') : m'.invalidated = m.invalidated := by
  obtain ⟨_,rfl⟩ := registerAndRefresh_eq.mp done
  exact refresh_invalidated _ _ _

private theorem sink_invalidated (m : DeviceManager) (c : ClientId) (sink : Sink) :
    (m.registerNmSink c sink).invalidated = m.invalidated := by
  have folded (ds : List DeviceId) (m : DeviceManager) :
      (ds.foldl (fun m d => m.refreshNmHotLocked d c) m).invalidated = m.invalidated := by
    induction ds generalizing m with
    | nil => rfl
    | cons d rest ih => rw [List.foldl_cons,ih,refresh_invalidated]
  exact folded _ _

private theorem enter_invalidated (m : DeviceManager) (d : DeviceId) (t : Token) (c : ClientId) (h : String) :
    (m.openEnter d t c h).2.invalidated = m.invalidated := by
  unfold openEnter
  split
  · rename_i done; exact register_invalidated done
  · split <;> rfl

private theorem recheck_invalidated (m : DeviceManager) (d : DeviceId) (t : Token) (c : ClientId) (h : String) :
    (m.openRecheck d t c h).2.invalidated = m.invalidated := by
  unfold openRecheck
  split
  · rename_i done; exact register_invalidated done
  · split <;> rfl

private theorem check_invalidated (m : DeviceManager) (d id : DeviceId) (g : Nat) (t : Token) (c : ClientId)
    (h : String) : (m.openCheck d id g t c h).2.invalidated = m.invalidated := by
  unfold openCheck
  split
  · split
    · rename_i done; exact register_invalidated done
    · rfl
  · rfl

private theorem install_invalidated (m : DeviceManager) (d id : DeviceId) (g : Nat) (e : Entry) (t : Token)
    (c : ClientId) (h : String) : (m.openInstall d id g e t c h).2.invalidated = m.invalidated := by
  unfold openInstall
  split
  · split
    · rename_i done; exact register_invalidated done
    · dsimp only
      cases done : ({ m with devices := m.devices.insert id e } : DeviceManager).registerAndRefresh id t c h with
      | none => rfl
      | some m' => exact (register_invalidated done).trans rfl
  · rfl

private theorem close_invalidated (m : DeviceManager) (d : DeviceId) (t : Token) (c : ClientId) :
    (m.close d t c).2.invalidated = m.invalidated := by
  unfold close
  cases m.sessions.lookup t with
  | none => rfl
  | some s =>
    have ended : (m.endSession t s).invalidated = m.invalidated := count_invalidated _ _ _
    dsimp only
    split
    · rfl
    split
    · rfl
    split
    · rfl
    split
    · exact ended
    · rw [refresh_invalidated,ended]

private theorem mode_invalidated {m m' : DeviceManager} {d : DeviceId} {t : Token} {mode : Option Mode} {c : ClientId}
    (done : m.setDataplaneMode d t mode c = .ok m') : m'.invalidated = m.invalidated := by
  unfold setDataplaneMode at done
  split at done
  · cases done
  split at done
  · cases done
  split at done
  · cases done
  split at done
  · cases done
  split at done
  · cases done
  cases done
  rw [refresh_invalidated,count_invalidated]
  rfl

private theorem connect_invalidated {m m' : DeviceManager} {kind : TransportKind} {d : DeviceId} {t : Token}
    {grant : TransportGrant} (done : m.connect kind d t = some (grant,m')) : m'.invalidated = m.invalidated := by
  unfold connect at done
  split at done
  · cases done
  split at done
  · cases done
  cases done
  rw [refresh_invalidated,count_invalidated]
  rfl

private theorem disconnect_invalidated (m : DeviceManager) (kind : TransportKind) (d : DeviceId) (t : Token) (g : Nat)
    (f : Flag) : (m.disconnect kind d t g f).invalidated = m.invalidated := by
  unfold disconnect
  split
  · rfl
  split
  · split
    · rw [refresh_invalidated,count_invalidated]; rfl
    · rfl
  · rfl

/-- Only a forced close invalidates a reservation. -/
theorem run_invalidated (m : DeviceManager) (operation : Operation) (unforced : ∀ d, operation ≠ .forceClose d) :
    (operation.run m).invalidated = m.invalidated := by
  cases operation with
  | openEnter d t c h => exact enter_invalidated m d t c h
  | openRecheck d t c h => exact recheck_invalidated m d t c h
  | openCheck d id g t c h => exact check_invalidated m d id g t c h
  | openInstall d id g e t c h => exact install_invalidated m d id g e t c h
  | releaseReservation d g =>
    simp only [Operation.run,releaseReservation]
    split <;> rfl
  | registerNmSink c sink => exact sink_invalidated m c sink
  | close d t c => exact close_invalidated m d t c
  | setDataplaneMode d t mode c =>
    simp only [Operation.run]
    cases done : m.setDataplaneMode d t mode c with
    | error _ => rfl
    | ok m' => exact mode_invalidated done
  | connect kind d t =>
    simp only [Operation.run]
    cases done : m.connect kind d t with
    | none => rfl
    | some granted => exact connect_invalidated done
  | disconnect kind d t g f => exact disconnect_invalidated m kind d t g f
  | forceClose d => exact absurd rfl (unforced d)
  | detachDeadReaderLifetime d =>
    simp only [Operation.run,detachDeadReaderLifetime]
    cases m.devices.lookup d <;> rfl
  | subNonNm n => cases m; rfl
  | _ => rfl

section
variable {daemon : Daemon} {w w' : World}

/-- What a step invalidates is on record. -/
theorem step_invalidated {a : Action} (taken : step daemon w a = some w') {g : Nat}
    (told : w'.mgr.invalidated g = true) :
    w.mgr.invalidated g = true ∨ ∃ d, forcedAt daemon w a = some (d,g) ∧ w.mgr.opening.lookup d = some ⟨g⟩ := by
  have result := step_operation taken
  cases runs : operationOf daemon w a with
  | none => rw [result,runs] at told; exact .inl told
  | some operation =>
    rw [result,runs] at told
    by_cases forced : ∃ d, operation = .forceClose d
    · obtain ⟨d,rfl⟩ := forced
      change (w.mgr.tellOpener d).invalidated g = true at told
      unfold tellOpener at told
      cases reserved : w.mgr.opening.lookup d with
      | none => rw [reserved] at told; exact .inl told
      | some r =>
        simp only [reserved,notifyWaiters] at told
        by_cases same : g = r.generation
        · subst same
          exact .inr ⟨d,by simp [forcedAt,runs,reserved],reserved⟩
        · rw [Function.update_of_ne same] at told
          exact .inl told
    · change (operation.run w.mgr).invalidated g = true at told
      rw [run_invalidated w.mgr operation fun d same => forced ⟨d,same⟩] at told
      exact .inl told

/-- The open that has tried a reservation and has no result yet. -/
def engaged : ClientPc → Option OpenCall
  | .opening _ .enter => none
  | pc => pendingCall pc

theorem engaged_pending {pc : ClientPc} {call : OpenCall} (here : engaged pc = some call) :
    pendingCall pc = some call := by
  unfold engaged at here
  split at here
  · cases here
  · exact here

theorem publisher_engaged {pc : ClientPc} {d : DeviceId} {g : Nat} (held : holding pc = some (d,g))
    {call : OpenCall} (waits : pendingCall pc = some call) : publisher pc = some g ∧ call.deviceId = d := by
  obtain ⟨call',open',rfl,rfl⟩ := holding_opening held
  have same := holding_generation held
  cases open' <;> cases waits <;> cases same <;> exact ⟨rfl,rfl⟩

theorem publisher_holding {pc : ClientPc} {call : OpenCall} {g : Nat} (publishes : publisher pc = some g)
    (waits : pendingCall pc = some call) : holding pc = some (call.deviceId,g) := by
  unfold publisher at publishes
  split at publishes <;> cases publishes <;> cases waits <;> rfl

theorem publisher_pending {pc : ClientPc} {g : Nat} (publishes : publisher pc = some g) :
    ∃ call, pendingCall pc = some call := by
  unfold publisher at publishes
  split at publishes <;> first | exact ⟨_,rfl⟩ | cases publishes

/-- A reservation that an open enters the loop with. -/
inductive Enters (daemon : Daemon) (w w' : World) (c : ClientId) (call : OpenCall) (g : Nat) : Prop where
  | reserved (publishes : publisher (w'.client c) = some g)
  | waiting (awaits : publisher (w'.client c) = none) (absent : w.mgr.devices.lookup call.deviceId = none)
      (there : w.mgr.opening.lookup call.deviceId = some ⟨g⟩)

/-- The steps of an open that has tried a reservation, or tries one. -/
private theorem openStep_engaged {c : ClientId} {call call' : OpenCall} {pc : OpenPc} {pc' : ClientPc} {sh : Shared}
    (taken : openStep daemon w.shared c call pc = some (pc',sh)) (here : engaged pc' = some call') :
    (engaged (.opening call pc) = some call' ∧ publisher pc' = publisher (.opening call pc)) ∨
      pc = .enter ∧ call' = call ∧ ∃ g, entered daemon w.mgr c (.opening call .enter) .advance = some g ∧
        Enters daemon w (withClient w c pc' sh) c call g := by
  have own (pc : ClientPc) (sh : Shared) : (withClient w c pc sh).client c = pc := Function.update_self _ _ _
  cases pc with
  | enter =>
    cases done : w.mgr.registerAndRefresh call.deviceId call.token c (daemon.computeWsAuthHash call.token) with
    | some m =>
      simp only [openStep,show w.shared.mgr = w.mgr from rfl,openEnter,done,Option.some.injEq,Prod.mk.injEq] at taken
      obtain ⟨rfl,rfl⟩ := taken
      cases here
    | none =>
      have absent : w.mgr.devices.lookup call.deviceId = none := registerAndRefresh_none.mp done
      cases waiting : w.mgr.opening.lookup call.deviceId with
      | some r =>
        simp only [openStep,show w.shared.mgr = w.mgr from rfl,openEnter,done,waiting,Option.some.injEq,Prod.mk.injEq] at taken
        obtain ⟨rfl,rfl⟩ := taken
        cases here
        refine .inr ⟨rfl,rfl,r.generation,by simp [entered,openEnter,done,waiting],.waiting ?_ absent waiting⟩
        rw [own]; rfl
      | none =>
        simp only [openStep,show w.shared.mgr = w.mgr from rfl,openEnter,done,waiting,Option.some.injEq,Prod.mk.injEq] at taken
        obtain ⟨rfl,rfl⟩ := taken
        cases here
        refine .inr ⟨rfl,rfl,w.mgr.nextLifetimeGeneration + 1,by simp [entered,openEnter,done,waiting],.reserved ?_⟩
        rw [own]; rfl
  | wait g seen =>
    obtain ⟨_,same⟩ := Option.ite_none_right_eq_some.mp taken
    cases same
    exact .inl ⟨here,rfl⟩
  | recheck =>
    dsimp only [openStep] at taken
    split at taken <;> cases taken <;> cases here
  | physical g => cases taken
  | check g info numbered =>
    dsimp only [openStep] at taken
    split at taken
    · cases taken; exact .inl ⟨here,rfl⟩
    · cases taken; cases here
  | spawn g info numbered => cases taken; exact .inl ⟨here,rfl⟩
  | install g id entry =>
    dsimp only [openStep] at taken
    split at taken <;> cases taken <;> cases here
  | stopLocal g steps =>
    cases steps with
    | nil => cases taken; cases here
    | cons instruction rest =>
      obtain ⟨sh₁,ran,result⟩ := Option.map_eq_some_iff.mp taken
      cases result; cases here
  | start g => cases taken; cases here
  | release g =>
    cases taken
    dsimp only at here
    split at here <;> cases here
  | notify g => cases taken; cases here

/-- An open that has tried a reservation was pending before the step. -/
theorem Move.engaged (move : Move daemon w w') {c : ClientId} {call : OpenCall}
    (here : engaged (w'.client c) = some call) : pendingCall (w.client c) = some call := by
  have kept {other : ClientId} {pc : ClientPc} {sh : Shared} (result : w' = withClient w other pc sh)
      (own : OpenFailures.engaged pc = some call → pendingCall (w.client other) = some call) :
      pendingCall (w.client c) = some call := by
    subst result
    by_cases same : c = other
    · subst same
      exact own (by simpa [withClient] using here)
    · exact engaged_pending (by simpa [withClient,same] using here)
  cases move with
  | quiet _ inherits => exact (inherits c).pending call (engaged_pending here)
  | issues other d t idle fresh result => exact kept result fun here => by cases here
  | reserves other call' m waits _ _ result => exact kept result fun here => by cases here; exact waits
  | builds other call' g info numbered before result => exact kept result fun here => by cases here; rw [before]; rfl
  | registers other call' d pc m _ _ _ _ _ finished result =>
    refine kept result fun here => ?_
    have waits := engaged_pending here
    rw [finished.1] at waits
    cases waits

/-- An open that has tried a reservation did so before the step and is not touched by it,
    or tries one in the step. -/
theorem step_engaged (ok : WorldOk daemon w) {a : Action} (taken : step daemon w a = some w') {c : ClientId}
    {call : OpenCall} (here : engaged (w'.client c) = some call) :
    (engaged (w.client c) = some call ∧ publisher (w'.client c) = publisher (w.client c)) ∨
      w.client c = .opening call .enter ∧ a = .client c .advance ∧
        ∃ g, entered daemon w.mgr c (w.client c) .advance = some g ∧ Enters daemon w w' c call g := by
  have unmoved (same : w'.client c = w.client c) :
      engaged (w.client c) = some call ∧ publisher (w'.client c) = publisher (w.client c) :=
    ⟨same ▸ here,by rw [same]⟩
  cases a with
  | client actor action =>
    obtain ⟨⟨pc',sh⟩,ran,rfl⟩ := Option.map_eq_some_iff.mp taken
    by_cases mine : c = actor
    · subst mine
      have own : (withClient w c pc' sh).client c = pc' := Function.update_self _ _ _
      change engaged ((withClient w c pc' sh).client c) = some call at here
      rw [own] at here
      have waits : pendingCall (w.client c) = some call := Move.engaged (step_move ok taken) (by
        show engaged ((withClient w c pc' sh).client c) = some call
        rw [own]; exact here)
      show (_ ∧ publisher ((withClient w c pc' sh).client c) = _) ∨ _
      rw [own]
      cases before : w.client c with
      | opening call₀ pc =>
        rw [before] at ran
        by_cases advances : action = .advance
        · subst advances
          have moved : openStep daemon w.shared c call₀ pc = some (pc',sh) := by cases pc <;> exact ran
          rcases openStep_engaged moved here with kept | ⟨rfl,rfl,enters⟩
          · exact .inl kept
          · exact .inr ⟨rfl,rfl,enters⟩
        · cases pc with
          | physical g =>
            cases action with
            | opened info numbered =>
              simp only [clientStep,Option.some.injEq,Prod.mk.injEq] at ran
              obtain ⟨rfl,rfl⟩ := ran
              split at here
              · cases here
              · rename_i parsed
                rw [if_neg parsed]
                exact .inl ⟨here,rfl⟩
            | openFailed => cases ran; cases here
            | advance => exact absurd rfl advances
            | _ => cases ran
          | _ => cases action <;> first | exact absurd rfl advances | cases ran
      | _ => rw [before] at waits; cases waits
    · exact .inl (unmoved (Function.update_of_ne mine _ _))
  | relay _ _ =>
    obtain ⟨⟨pc,sh⟩,ran,rfl⟩ := Option.map_eq_some_iff.mp taken
    exact .inl (unmoved rfl)
  | transport _ _ =>
    obtain ⟨⟨pc,sh⟩,ran,rfl⟩ := Option.map_eq_some_iff.mp taken
    exact .inl (unmoved rfl)
  | reader _ _ =>
    obtain ⟨config,configured,stepped⟩ := Option.bind_eq_some_iff.mp taken
    obtain ⟨⟨pc,sh⟩,ran,rfl⟩ := Option.map_eq_some_iff.mp stepped
    exact .inl (unmoved rfl)
  | worker _ =>
    obtain ⟨_,stepped⟩ := Option.ite_none_right_eq_some.mp taken
    obtain ⟨⟨pc,sh⟩,ran,rfl⟩ := Option.map_eq_some_iff.mp stepped
    exact .inl (unmoved rfl)
  | hotplug _ _ =>
    cases taken
    exact .inl (unmoved rfl)

/-- The reasons for which a step ends an open with an error. -/
inductive Refused (w : World) (a : Action) (c : ClientId) (call : OpenCall) : Prop where
  | opener (g : Nat) (own : publisher (w.client c) = some g) (failed : openerFailed w a = some g)
  | stale (g : Nat) (own : publisher (w.client c) = some g)
      (lost : w.mgr.reservationCurrent call.deviceId g = false)
  | nobody (here : w.client c = .opening call .recheck) (advances : a = .client c .advance)
      (absent : w.mgr.devices.lookup call.deviceId = none) (free : w.mgr.opening.lookup call.deviceId = none)

theorem refused {a : Action} {r : OpenResult} (decided : resultAt daemon w a = some r) (failed : r.answer = none) :
    ∃ c action, a = .client c action ∧ engaged (w.client c) = some r.call ∧ Refused w a c r.call := by
  cases a with
  | client c action =>
    refine ⟨c,action,rfl,?_⟩
    change resultOf daemon w.mgr c (w.client c) action = some r at decided
    unfold resultOf at decided
    split at decided
    · split at decided <;> cases decided
      cases failed
    · rename_i call here
      rcases openRecheck_cases w.mgr call.deviceId call.token c (daemon.computeWsAuthHash call.token) with
        ⟨m,done,result⟩ | result | result
      · rw [result] at decided; cases decided; cases failed
      · rw [result] at decided; cases decided
      · simp only [result,Option.some.injEq] at decided
        subst decided
        have nobody := result
        unfold openRecheck at nobody
        split at nobody
        · cases nobody
        · rename_i absent
          split at nobody
          · cases nobody
          · rename_i free
            rw [here]
            exact ⟨rfl,.nobody here rfl (registerAndRefresh_none.mp absent) (AList.lookup_eq_none.mpr free)⟩
    · rename_i call g info numbered here
      split at decided
      · rename_i unparsed
        cases decided
        rw [here]
        exact ⟨rfl,.opener g (by rw [here]; rfl) (by simp [openerFailed,here,unparsed])⟩
      · cases decided
    · rename_i call g here
      cases decided
      rw [here]
      exact ⟨rfl,.opener g (by rw [here]; rfl) (by simp [openerFailed,here])⟩
    · rename_i call g info numbered here
      rcases openCheck_cases w.mgr call.deviceId info.deviceId g call.token c (daemon.computeWsAuthHash call.token) with
        ⟨m,done,result⟩ | result | result
      · rw [result] at decided; cases decided; cases failed
      · rw [result] at decided; cases decided
      · simp only [result,Option.some.injEq] at decided
        subst decided
        rw [here]
        refine ⟨rfl,.stale g (by rw [here]; rfl) ?_⟩
        unfold openCheck at result
        split at result
        · split at result <;> cases result
        · rename_i lost
          exact Bool.not_eq_true _ ▸ lost
    · rename_i call g id entry here
      cases current : w.mgr.reservationCurrent call.deviceId g with
      | false =>
        simp only [openInstall,current,Bool.false_eq_true,if_false,Option.some.injEq] at decided
        subst decided
        rw [here]
        exact ⟨rfl,.stale g (by rw [here]; rfl) current⟩
      | true =>
        unfold openInstall at decided
        rw [if_pos current] at decided
        split at decided
        · cases decided; cases failed
        · cases decided; cases failed
        · rename_i contradiction
          split at contradiction <;> cases contradiction
        · cases decided
    · cases decided
  | _ => cases decided

end

/-! ### The invariant -/

/-- What became of a reservation that is given up. -/
def Over (s : Watched) (d : DeviceId) (g : Nat) : Prop :=
  s.succeeded g = true ∨ g ∈ s.failures ∨ (d,g) ∈ s.forced

/-- A reservation that a client waits for is still run, or the open that ran it succeeded,
    or the client may fail with it. -/
def Accounted (s : Watched) (c : ClientId) (d : DeviceId) (g : Nat) : Prop :=
  (∃ c', holding (s.world.client c') = some (d,g) ∧ publisher (s.world.client c') = some g) ∨
    s.succeeded g = true ∨ g ∈ (s.attempt c).failed ∨ (d,g) ∈ s.forced

structure Inv (daemon : Daemon) (s : Watched) : Prop where
  protocol : ProtocolOk daemon s.observed
  justified : Justified s
  tried : ∀ c call, engaged (s.world.client c) = some call → ∃ g, (s.attempt c).tried.head? = some g ∧
    (publisher (s.world.client c) = some g ∨
      publisher (s.world.client c) = none ∧ Accounted s c call.deviceId g)
  settled : ∀ c d g, holding (s.world.client c) = some (d,g) → publisher (s.world.client c) = none → Over s d g
  told : ∀ d g, s.world.mgr.invalidated g = true → s.world.mgr.opening.lookup d = some ⟨g⟩ → (d,g) ∈ s.forced
  fresh : ∀ g, s.world.mgr.invalidated g = true → g ≤ s.world.mgr.nextLifetimeGeneration

section
variable {daemon : Daemon} {s s' : Watched} {a : Action} {c : ClientId} {d : DeviceId} {g : Nat}

theorem watch_eq (taken : watch daemon s a = some s') : step daemon s.world a = some s'.world ∧
    s'.attempt = attemptAfter daemon s a ∧ s'.ended = (endedAt daemon s a).toList ++ s.ended ∧
    s'.failures = (openerFailed s.world a).toList ++ s.failures ∧
    s'.forced = (forcedAt daemon s.world a).toList ++ s.forced := by
  obtain ⟨w',stepped,rfl⟩ := Option.map_eq_some_iff.mp taken
  exact ⟨stepped,rfl,rfl,rfl,rfl⟩

theorem succeeded_mono (taken : watch daemon s a = some s') (before : s.succeeded g = true) : s'.succeeded g = true := by
  obtain ⟨-,-,ended,-,-⟩ := watch_eq taken
  rw [Watched.succeeded,ended,List.any_append,Bool.or_eq_true]
  exact .inr before

theorem forced_mono (taken : watch daemon s a = some s') (before : (d,g) ∈ s.forced) : (d,g) ∈ s'.forced := by
  obtain ⟨-,-,-,-,forced⟩ := watch_eq taken
  rw [forced]
  exact List.mem_append_right _ before

theorem Over.mono (taken : watch daemon s a = some s') (before : Over s d g) : Over s' d g := by
  obtain ⟨-,-,-,failures,-⟩ := watch_eq taken
  rcases before with done | failed | forced
  · exact .inl (succeeded_mono taken done)
  · exact .inr (.inl (failures ▸ List.mem_append_right _ failed))
  · exact .inr (.inr (forced_mono taken forced))

/-- An open that has tried a reservation keeps what it tried. -/
theorem attempt_engaged {call : OpenCall} (here : engaged (s.world.client c) = some call) :
    (attemptAfter daemon s a c).tried = (s.attempt c).tried ∧
      (attemptAfter daemon s a c).failed = (openerFailed s.world a).toList ++ (s.attempt c).failed := by
  have own (action : ClientAction) : ownAttempt daemon s.world c action (s.attempt c) = s.attempt c := by
    have nothing : entered daemon s.world.mgr c (s.world.client c) action = none := by
      unfold entered
      split
      · rename_i call enter
        rw [enter] at here; cases here
      · rfl
    unfold ownAttempt
    split
    · rename_i idle
      rw [idle] at here; cases here
    · simp [nothing]
  unfold attemptAfter
  cases a with
  | client actor action =>
    dsimp only
    by_cases mine : c = actor
    · rw [if_pos mine,own]
      exact ⟨rfl,rfl⟩
    · rw [if_neg mine]
      exact ⟨rfl,rfl⟩
  | _ => exact ⟨rfl,rfl⟩

/-- An open that enters the loop adds the reservation that it tries. -/
theorem attempt_entered {call : OpenCall} (here : s.world.client c = .opening call .enter)
    (enters : entered daemon s.world.mgr c (s.world.client c) .advance = some g) :
    (attemptAfter daemon s (.client c .advance) c).tried.head? = some g := by
  rw [here] at enters
  simp [attemptAfter,ownAttempt,here,enters]

theorem failed_meanwhile (failed : openerFailed s.world a = some g) (c : ClientId) :
    g ∈ (attemptAfter daemon s a c).failed := by
  simp [attemptAfter,failed]

theorem Inv.world (inv : Inv daemon s) : WorldOk daemon s.world := inv.protocol.world

theorem Inv.held (inv : Inv daemon s) (held : holding (s.world.client c) = some (d,g)) :
    s.world.mgr.opening.lookup d = some ⟨g⟩ := inv.protocol.protocol.held c d g held

theorem Inv.holder (inv : Inv daemon s) (reserved : s.world.mgr.opening.lookup d = some ⟨g⟩) :
    ∃ c, holding (s.world.client c) = some (d,g) := inv.protocol.protocol.owned d ⟨g⟩ reserved

/-- A reservation that is lost while its opener runs was invalidated by a forced close. -/
theorem Inv.lost (inv : Inv daemon s) (held : holding (s.world.client c) = some (d,g))
    (stale : s.world.mgr.reservationCurrent d g = false) : (d,g) ∈ s.forced := by
  have reserved := inv.held held
  refine inv.told d g ?_ reserved
  simpa [reservationCurrent,reserved] using stale

/-- The open that a step ends with an error is justified. -/
theorem Inv.refused (inv : Inv daemon s) (checked : sound s a = true) {r : OpenResult}
    (decided : resultAt daemon s.world a = some r) (failed : r.answer = none) :
    ∃ c action, a = .client c action ∧ ∃ g, (attemptAfter daemon s a c).tried.head? = some g ∧
      (g ∈ (attemptAfter daemon s a c).failed ∨ (r.call.deviceId,g) ∈ s.forced) := by
  obtain ⟨c,action,same,here,why⟩ := OpenFailures.refused decided failed
  obtain ⟨g,latest,state⟩ := inv.tried c r.call here
  obtain ⟨tried,after⟩ := @attempt_engaged daemon s a c _ here
  refine ⟨c,action,same,g,tried ▸ latest,?_⟩
  cases why with
  | opener g' own opener =>
    rcases state with publishes | ⟨none,-⟩
    · obtain rfl := Option.some.inj (own.symm.trans publishes)
      exact .inl (failed_meanwhile opener c)
    · rw [own] at none; cases none
  | stale g' own lost =>
    rcases state with publishes | ⟨none,-⟩
    · obtain rfl := Option.some.inj (own.symm.trans publishes)
      exact .inr (inv.lost (publisher_holding own (engaged_pending here)) lost)
    · rw [own] at none; cases none
  | nobody recheck advances absent free =>
    subst advances
    rcases state with publishes | ⟨-,runs | done | meanwhile | forced⟩
    · rw [recheck] at publishes; cases publishes
    · obtain ⟨c',held,-⟩ := runs
      rw [inv.held held] at free; cases free
    · rw [sound,recheck] at checked
      simp [absent,free,latest,done] at checked
    · exact .inl (after ▸ List.mem_append_right _ meanwhile)
    · exact .inr forced

/-- A result is on record with the step that fixes it. -/
theorem succeeded_now (taken : watch daemon s a = some s') {r : OpenResult}
    (decided : resultAt daemon s.world a = some r) (own : r.generation = some g) {id : DeviceId}
    (answer : r.answer = some id) : s'.succeeded g = true := by
  obtain ⟨-,-,ended,-,-⟩ := watch_eq taken
  cases a with
  | client c action =>
    have now : endedAt daemon s (.client c action) = some ⟨r,attemptAfter daemon s (.client c action) c⟩ := by
      rw [endedAt,decided]; rfl
    rw [Watched.succeeded,ended,now]
    simp [own,answer]
  | _ => cases decided

/-- A reservation that is run is run on, or the step decides over it. -/
theorem Inv.runs_on (inv : Inv daemon s) (taken : watch daemon s a = some s')
    (held : holding (s.world.client c) = some (d,g)) (publishes : publisher (s.world.client c) = some g) :
    (holding (s'.world.client c) = some (d,g) ∧ publisher (s'.world.client c) = some g) ∨
      s'.succeeded g = true ∨ openerFailed s.world a = some g ∨ (d,g) ∈ s.forced := by
  have stepped := (watch_eq taken).1
  have apart (other : s'.world.client c = s.world.client c) :
      holding (s'.world.client c) = some (d,g) ∧ publisher (s'.world.client c) = some g :=
    ⟨other ▸ held,other ▸ publishes⟩
  obtain ⟨call,pending⟩ := publisher_pending publishes
  have change := step_change inv.world stepped
  cases change with
  | keeps _ _ holds _ still _ =>
    have held' := (holds c).trans held
    exact .inl ⟨held',(publisher_engaged held' (still c call pending)).1⟩
  | reserves _ c₀ _ _ _ empty _ _ _ _ _ _ others _ =>
    refine .inl (apart (others c ?_))
    rintro rfl
    rw [held] at empty; cases empty
  | releases _ c₀ _ _ _ settled _ _ _ others _ =>
    refine .inl (apart (others c ?_))
    rintro rfl
    rw [pending] at settled; cases settled
  | decides r same c₀ waits own _ _ _ others answered =>
    by_cases mine : c = c₀
    · subst mine
      have generation : r.generation = some g := own.symm.trans publishes
      cases answer : r.answer with
      | some id => exact .inr (.inl (succeeded_now taken same generation answer))
      | none =>
        obtain ⟨c',action,acts,here,why⟩ := OpenFailures.refused same answer
        obtain rfl : c = c' := inv.world.pendingApart c c' _ _ waits (engaged_pending here) rfl
        have device : r.call.deviceId = d := (publisher_engaged held waits).2
        cases why with
        | opener g' own' failed =>
          obtain rfl := Option.some.inj (own'.symm.trans publishes)
          exact .inr (.inr (.inl failed))
        | stale g' own' lost =>
          obtain rfl := Option.some.inj (own'.symm.trans publishes)
          exact .inr (.inr (.inr (inv.lost held (device ▸ lost))))
        | nobody recheck =>
          rw [recheck] at publishes; cases publishes
    · exact .inl (apart (others c mine))

/-- The clients that held a reservation before the step, or take one in it. -/
theorem held_before (inv : Inv daemon s) (taken : watch daemon s a = some s')
    (held : holding (s'.world.client c) = some (d,g)) :
    holding (s.world.client c) = some (d,g) ∨ publisher (s'.world.client c) = some g := by
  cases step_change inv.world (watch_eq taken).1 with
  | keeps _ _ holds => exact .inl ((holds c).symm.trans held)
  | reserves _ c₀ _ _ _ _ _ _ _ here publishes _ others =>
    by_cases mine : c = c₀
    · subst mine
      obtain ⟨-,rfl⟩ := Prod.mk.inj (Option.some.inj (here.symm.trans held))
      exact .inr publishes
    · exact .inl (others c mine ▸ held)
  | decides _ _ c₀ _ _ _ holds _ others =>
    by_cases mine : c = c₀
    · subst mine; exact .inl (holds.symm.trans held)
    · exact .inl (others c mine ▸ held)
  | releases _ c₀ _ _ _ _ _ _ gone others =>
    by_cases mine : c = c₀
    · subst mine
      rw [gone.1] at held; cases held
    · exact .inl (others c mine ▸ held)

theorem publisher_of_held (held : holding (s.world.client c) = some (d,g)) :
    publisher (s.world.client c) = some g ∨ publisher (s.world.client c) = none := by
  cases publishes : publisher (s.world.client c) with
  | none => exact .inr rfl
  | some g' => exact .inl ((publisher_generation publishes).symm.trans (holding_generation held))

private theorem over_step (inv : Inv daemon s) (taken : watch daemon s a = some s') :
    ∀ c d g, holding (s'.world.client c) = some (d,g) → publisher (s'.world.client c) = none → Over s' d g := by
  intro c d g held silent
  rcases held_before inv taken held with before | publishes
  · rcases publisher_of_held before with ran | idle
    · rcases inv.runs_on taken before ran with ⟨-,runs⟩ | done | failed | forced
      · rw [silent] at runs; cases runs
      · exact .inl done
      · obtain ⟨-,-,-,failures,-⟩ := watch_eq taken
        exact .inr (.inl (by simp [failures,failed]))
      · exact .inr (.inr (forced_mono taken forced))
    · exact (inv.settled c d g before idle).mono taken
  · rw [silent] at publishes; cases publishes

private theorem told_step (inv : Inv daemon s) (taken : watch daemon s a = some s') :
    ∀ d g, s'.world.mgr.invalidated g = true → s'.world.mgr.opening.lookup d = some ⟨g⟩ → (d,g) ∈ s'.forced := by
  intro d g told reserved
  have stepped := (watch_eq taken).1
  have settle (before : s.world.mgr.opening.lookup d = some ⟨g⟩) : (d,g) ∈ s'.forced := by
    rcases step_invalidated stepped told with old | ⟨d',now,there⟩
    · exact forced_mono taken (inv.told d g old before)
    · obtain ⟨c,held⟩ := inv.holder before
      obtain ⟨c',held'⟩ := inv.holder there
      obtain rfl := inv.world.reservedApart c c' g (holding_generation held) (holding_generation held')
      obtain ⟨rfl,-⟩ := Prod.mk.inj (Option.some.inj (held.symm.trans held'))
      obtain ⟨-,-,-,-,forced⟩ := watch_eq taken
      simp [forced,now]
  cases step_change inv.world stepped with
  | keeps _ reservations => exact settle (reservations.opening ▸ reserved)
  | decides _ _ _ _ _ _ _ reservations => exact settle (reservations.opening ▸ reserved)
  | reserves _ c₀ d₀ g₀ _ _ new opening invalidated =>
    rw [opening,lookup_insert_eq] at reserved
    by_cases mine : d = d₀
    · rw [if_pos mine] at reserved
      cases reserved
      rw [invalidated] at told
      have bound := inv.fresh _ told
      omega
    · rw [if_neg mine] at reserved
      exact settle reserved
  | releases _ c₀ d₀ g₀ _ _ opening =>
    rw [opening] at reserved
    split at reserved
    · rw [lookup_erase_eq] at reserved
      split at reserved
      · cases reserved
      · exact settle reserved
    · exact settle reserved

private theorem fresh_step (inv : Inv daemon s) (taken : watch daemon s a = some s') :
    ∀ g, s'.world.mgr.invalidated g = true → g ≤ s'.world.mgr.nextLifetimeGeneration := by
  intro g told
  have stepped := (watch_eq taken).1
  refine Nat.le_trans ?_ (Move.generation (step_move inv.world stepped))
  rcases step_invalidated stepped told with old | ⟨d,-,there⟩
  · exact inv.fresh g old
  · obtain ⟨c,held⟩ := inv.holder there
    exact inv.world.reserved c g (holding_generation held)

/-- What a client waits for is accounted for after a step in which it waits on. -/
private theorem accounted_step (inv : Inv daemon s) (taken : watch daemon s a = some s') {call : OpenCall}
    (here : engaged (s.world.client c) = some call) (before : Accounted s c d g) : Accounted s' c d g := by
  obtain ⟨stepped,attempts,-,-,-⟩ := watch_eq taken
  have kept := (@attempt_engaged daemon s a c _ here).2
  rcases before with ⟨c',held,runs⟩ | done | meanwhile | forced
  · rcases inv.runs_on taken held runs with still | done | failed | forced
    · exact .inl ⟨c',still⟩
    · exact .inr (.inl done)
    · exact .inr (.inr (.inl (attempts ▸ failed_meanwhile failed c)))
    · exact .inr (.inr (.inr (forced_mono taken forced)))
  · exact .inr (.inl (succeeded_mono taken done))
  · exact .inr (.inr (.inl (by rw [attempts,kept]; exact List.mem_append_right _ meanwhile)))
  · exact .inr (.inr (.inr (forced_mono taken forced)))

/-- What a client begins to wait for is accounted for, as no opener of it has failed. -/
private theorem accounted_enter (inv : Inv daemon s) (taken : watch daemon s a = some s') (checked : sound s a = true)
    {call : OpenCall} (here : s.world.client c = .opening call .enter) (advances : a = .client c .advance)
    (absent : s.world.mgr.devices.lookup call.deviceId = none)
    (there : s.world.mgr.opening.lookup call.deviceId = some ⟨g⟩) : Accounted s' c call.deviceId g := by
  obtain ⟨c',held⟩ := inv.holder there
  rcases publisher_of_held held with runs | silent
  · rcases inv.runs_on taken held runs with still | done | failed | forced
    · exact .inl ⟨c',still⟩
    · exact .inr (.inl done)
    · rw [advances] at failed; cases failed
    · exact .inr (.inr (.inr (forced_mono taken forced)))
  · rcases inv.settled c' _ g held silent with done | failed | forced
    · exact .inr (.inl (succeeded_mono taken done))
    · rw [advances,sound,here] at checked
      simp [absent,there,failed] at checked
    · exact .inr (.inr (.inr (forced_mono taken forced)))

private theorem tried_step (inv : Inv daemon s) (taken : watch daemon s a = some s') (checked : sound s a = true) :
    ∀ c call, engaged (s'.world.client c) = some call → ∃ g, (s'.attempt c).tried.head? = some g ∧
      (publisher (s'.world.client c) = some g ∨
        publisher (s'.world.client c) = none ∧ Accounted s' c call.deviceId g) := by
  intro c call here
  obtain ⟨stepped,attempts,-,-,-⟩ := watch_eq taken
  rcases step_engaged inv.world stepped here with ⟨before,same⟩ | ⟨enter,advances,g,entered,enters⟩
  · obtain ⟨g,latest,state⟩ := inv.tried c call before
    have kept := (@attempt_engaged daemon s a c _ before).1
    refine ⟨g,by rw [attempts,kept]; exact latest,?_⟩
    rw [same]
    rcases state with publishes | ⟨silent,accounted⟩
    · exact .inl publishes
    · exact .inr ⟨silent,accounted_step inv taken before accounted⟩
  · refine ⟨g,?_,?_⟩
    · rw [attempts,advances]
      exact attempt_entered enter entered
    · cases enters with
      | reserved publishes => exact .inl publishes
      | waiting awaits absent there =>
        exact .inr ⟨awaits,accounted_enter inv taken checked enter advances absent there⟩

private theorem justified_step (inv : Inv daemon s) (taken : watch daemon s a = some s') (checked : sound s a = true) :
    Justified s' := by
  intro e listed failed
  obtain ⟨-,-,ended,-,-⟩ := watch_eq taken
  rw [ended] at listed
  rcases List.mem_append.mp listed with now | before
  · cases a with
    | client c action =>
      obtain ⟨r,decided,rfl⟩ := Option.map_eq_some_iff.mp (Option.mem_toList.mp now)
      obtain ⟨c',action',same,g,latest,why⟩ := inv.refused checked decided failed
      cases same
      refine ⟨g,List.mem_of_mem_head? latest,?_⟩
      rcases why with meanwhile | forced
      · exact .inl meanwhile
      · exact .inr (forced_mono taken forced)
    | _ => cases now
  · obtain ⟨g,tried,why⟩ := inv.justified e before failed
    refine ⟨g,tried,?_⟩
    rcases why with meanwhile | forced
    · exact .inl meanwhile
    · exact .inr (forced_mono taken forced)

theorem step_inv (inv : Inv daemon s) (taken : watch daemon s a = some s') (checked : sound s a = true) :
    Inv daemon s' where
  protocol := step_protocol inv.protocol (observed_watch taken)
  justified := justified_step inv taken checked
  tried := tried_step inv taken checked
  settled := over_step inv taken
  told := told_step inv taken
  fresh := fresh_step inv taken

theorem init_inv (daemon : Daemon) : Inv daemon {} where
  protocol := init_protocol daemon
  justified := by intro e listed; cases listed
  tried := by intro c call here; cases here
  settled := by intro c d g held; cases held
  told := by intro d g told; cases told
  fresh := by intro g told; cases told

/-- As long as no open that was woken finds the device of a successful opener gone, and
    none waits for an opener that has failed already, an open fails only with a reservation
    that it tried: its opener failed meanwhile, or a forced close invalidated it. -/
theorem no_spurious_failure {trace : List Action} (run : exec (watch daemon) {} trace = some s)
    (checked : AllSteps (watch daemon) (fun s a _ => sound s a = true) {} trace) : Justified s :=
  (exec_invariant_under (fun _ _ _ inv taken checked => step_inv inv taken checked) (init_inv daemon) run checked).justified

end

/-- The opener of the first client fails while the second waits for it, and both opens fail. -/
def openerFails : List Action :=
  connecting 1 ++ connecting 2 ++ [.client 1 (.openDevice 7 tokenA),.client 1 .advance,.client 2 (.openDevice 7 tokenB),
    .client 2 .advance,.client 1 .openFailed,.client 1 .advance,.client 1 .advance,.client 2 .advance,.client 2 .advance]

theorem no_spurious_failure_opener : ∃ s, exec (watch vendorDaemon) {} openerFails = some s ∧
    s.ended.map (fun e => (e.result.answer,e.attempt)) = [(none,⟨[1],[1]⟩),(none,⟨[1],[1]⟩)] ∧ Justified s := by
  obtain ⟨s,run⟩ := Option.isSome_iff_exists.mp (by decide : (exec (watch vendorDaemon) {} openerFails).isSome = true)
  have ended : (exec (watch vendorDaemon) {} openerFails).map
      (fun s => s.ended.map fun e => (e.result.answer,e.attempt)) = some [(none,⟨[1],[1]⟩),(none,⟨[1],[1]⟩)] := by decide
  rw [run] at ended
  exact ⟨s,run,Option.some.inj ended,no_spurious_failure run (allSteps_of_checkAll (by decide))⟩

/-- The first client opens the device and closes it again before the second, which waits
    for the reservation, has woken up. -/
def closedAgain : List Action :=
  connecting 1 ++ connecting 2 ++ [.client 1 (.openDevice 7 tokenA),.client 1 .advance,.client 2 (.openDevice 7 tokenB),
    .client 2 .advance,.client 1 (.opened vendorInfo false)] ++ List.replicate 6 (.client 1 .advance) ++
    [.client 1 (.closeSession 7 tokenA),.client 2 .advance,.client 2 .advance]

/-- The open of the second client fails, although no opener failed and no device was lost. -/
theorem closed_again_fails : ∃ s, exec (watch vendorDaemon) {} closedAgain = some s ∧
    s.failures = [] ∧ s.forced = [] ∧ (∃ e ∈ s.ended, e.result.answer = none) ∧ ¬ Justified s := by
  obtain ⟨s,run⟩ := Option.isSome_iff_exists.mp (by decide : (exec (watch vendorDaemon) {} closedAgain).isSome = true)
  have facts : (exec (watch vendorDaemon) {} closedAgain).map (fun s => (s.failures,s.forced,
      s.ended.any fun e => e.result.answer == none,decide (Justified s))) = some ([],[],true,false) := by decide
  rw [run] at facts
  simp only [Option.map_some,Option.some.injEq,Prod.mk.injEq,List.any_eq_true,beq_iff_eq,decide_eq_false_iff_not] at facts
  exact ⟨s,run,facts⟩

end FFWebHid.OpenFailures
