import FFWebHid.Maps
import FFWebHid.Runs
import FFWebHid.Capabilities
import FFWebHid.Types
import FFWebHid.Registry
import FFWebHid.Lifecycle
import FFWebHid.Coherence
import FFWebHid.Sections
import FFWebHid.Threads
import FFWebHid.Safety
import FFWebHid.IoAuthority

/-!
What an operation on one session does to the traffic of another session on the
same device. The binding of a client is shared by all its sessions on a device,
and an operation on one of them replaces it: what the others have in flight under
the old flag is lost.
-/
namespace FFWebHid.Isolation
open FFWebHid.Runs FFWebHid.Types FFWebHid.Maps FFWebHid.Capabilities FFWebHid.Registry FFWebHid.Lifecycle
open FFWebHid.Coherence FFWebHid.Sections FFWebHid.Threads FFWebHid.Safety FFWebHid.IoAuthority
open FFWebHid.Registry.DeviceManager

/-- The session that a step opens, closes, switches, connects or disconnects. -/
def sessionOf (w : World) : Action → Option Token
  | .client c .advance =>
    match w.client c with
    | .opening call .enter => some call.token
    | .opening call .recheck => some call.token
    | .opening call (.check _ _ _) => some call.token
    | .opening call (.install _ _ _) => some call.token
    | .closingAll ((_,t) :: _) [] => some t
    | _ => none
  | .client _ (.closeSession _ t) => some t
  | .client _ (.setDataPlane _ t _) => some t
  | .transport t .connect =>
    match w.transport t with
    | .authenticated _ _ token => some token
    | _ => none
  | .transport t .disconnect =>
    match w.transport t with
    | .connected link _ => some link.token
    | _ => none
  | _ => none

/-- The token is that of an active session of the client on the device. -/
def ownSession (m : DeviceManager) (c : ClientId) (d : DeviceId) (t : Token) : Bool :=
  (m.sessions.lookup t).any fun s => s.deviceId == d && s.ownerClientId == c && s.active

/-- The client and device whose binding the step replaces: those of the session,
    when the operation is not refused. -/
def refreshed (w : World) : Action → Option (ClientId × DeviceId)
  | .client c .advance =>
    match w.client c with
    | .opening call .enter => if call.deviceId ∈ w.mgr.devices then some (c,call.deviceId) else none
    | .opening call .recheck => if call.deviceId ∈ w.mgr.devices then some (c,call.deviceId) else none
    | .opening call (.check g info _) =>
      if w.mgr.reservationCurrent call.deviceId g = true ∧ info.deviceId ∈ w.mgr.devices then some (c,info.deviceId)
      else none
    | .opening call (.install g id _) => if w.mgr.reservationCurrent call.deviceId g then some (c,id) else none
    | .closingAll ((d,t) :: _) [] => if ownSession w.mgr c d t then some (c,d) else none
    | _ => none
  | .client c (.closeSession d t) => if ownSession w.mgr c d t then some (c,d) else none
  | .client c (.setDataPlane d t mode) =>
    if (Mode.ofString mode).isSome && ownSession w.mgr c d t then some (c,d) else none
  | .transport t .connect =>
    match w.transport t with
    | .authenticated _ d token => (w.mgr.sessions.lookup token).bind fun s =>
      if s.active && s.deviceId == d then some (s.ownerClientId,d) else none
    | _ => none
  | .transport t .disconnect =>
    match w.transport t with
    | .connected link _ => (w.mgr.sessions.lookup link.token).bind fun s =>
      if (s.active && s.deviceId == link.deviceId) && (link.kind.generation s == link.grant.generation &&
        s.mode == link.kind.mode && w.mgr.transportCapabilityCurrent link.token link.grant.capability)
      then some (s.ownerClientId,link.deviceId) else none
    | _ => none
  | _ => none

/-- A command that a worker has still to check. -/
def InFlight (w : World) (l : Lifetime) (command : IoCommand) : Prop :=
  .command command ∈ w.shared.queue l ∨ w.worker l = .received command

/-- The worker would run the command: its capability is set and its epoch is the
    present one. -/
def Current (w : World) (l : Lifetime) (command : IoCommand) : Prop :=
  w.mgr.valid command.validity = true ∧ command.epoch = w.shared.epoch l

/-- A reader of the device has a report for the client that it would still send. -/
def Routes (w : World) (c : ClientId) (d : DeviceId) (l : Lifetime) (target : Target) : Prop :=
  (∃ config, w.shared.readerConfig l = some config ∧ config.deviceId = d) ∧ target ∈ targetsOf (w.reader l) ∧
    target.clientId = c ∧ w.mgr.valid target.valid = true

/-- What a client has in flight on a device stays in flight. -/
def Undisturbed (c : ClientId) (d : DeviceId) (w w' : World) : Prop :=
  (∀ l command, InFlight w l command → command.sender = .nm c d → Current w l command →
    InFlight w' l command ∧ Current w' l command) ∧
  ∀ l target, Routes w c d l target → Routes w' c d l target

/-- A client has nothing in flight on a device. -/
def Quiescent (c : ClientId) (d : DeviceId) (w : World) : Prop :=
  (∀ l command, InFlight w l command → command.sender = .nm c d → ¬ Current w l command) ∧
  ∀ l target, ¬ Routes w c d l target

/-- No operation on a session disturbs another NM session on the same device. -/
def SessionsIsolated (w : World) (a : Action) (w' : World) : Prop :=
  ∀ tA sA tB sB, sessionOf w a = some tB → tA ≠ tB →
    w.mgr.sessions.lookup tA = some sA → sA.mode = .nm →
    (∃ sA', w'.mgr.sessions.lookup tA = some sA' ∧ sA'.mode = .nm) →
    (w.mgr.sessions.lookup tB = some sB ∨ w'.mgr.sessions.lookup tB = some sB) → sB.deviceId = sA.deviceId →
    Undisturbed sA.ownerClientId sA.deviceId w w'

/-- When an operation on a session replaces the binding of its client, and the
    client has another NM session on the device, it has nothing in flight there. -/
def BindingIdle (w : World) (a : Action) (_ : World) : Prop :=
  ∀ tB c d, sessionOf w a = some tB → refreshed w a = some (c,d) →
    (∃ tA sA, tA ≠ tB ∧ w.mgr.sessions.lookup tA = some sA ∧ sA.ownerClientId = c ∧ sA.deviceId = d ∧ sA.mode = .nm) →
    Quiescent c d w

/-- Only the registry changed. -/
structure OnlyRegistry (w w' : World) : Prop where
  queue : w'.shared.queue = w.shared.queue
  epoch : w'.shared.epoch = w.shared.epoch
  readerConfig : w'.shared.readerConfig = w.shared.readerConfig
  worker : w'.worker = w.worker
  reader : w'.reader = w.reader

/-- An operation on a session is without effect; or it touches the session and
    replaces the binding of its client; or it closes the last session on the device. -/
inductive Outcome (w w' : World) (pair : Option (ClientId × DeviceId)) (t : Token) : Prop where
  | same (none : pair = none) (same : SameRegistry w.mgr w'.mgr)
  | replaced (c : ClientId) (d : DeviceId) (some : pair = some (c,d)) (refreshes : Refreshes c d t w.mgr w'.mgr)
      (live : ∃ s, w.mgr.sessions.lookup t = .some s ∨ w'.mgr.sessions.lookup t = .some s)
  | last (c : ClientId) (d : DeviceId) (some : pair = some (c,d))
      (device : ∀ s, w.mgr.sessions.lookup t = .some s → s.deviceId = d) (gone : w'.mgr.sessions.lookup t = none)
      (last : ∀ t' s', t' ≠ t → w.mgr.sessions.lookup t' = .some s' → s'.deviceId ≠ d)

section
variable {daemon : Daemon} {w w' : World}

private theorem ownSession_iff {m : DeviceManager} {c : ClientId} {d : DeviceId} {t : Token} :
    ownSession m c d t = true ↔ ∃ s, m.sessions.lookup t = some s ∧ s.deviceId = d ∧ s.ownerClientId = c ∧
      s.active = true := by
  unfold ownSession
  cases m.sessions.lookup t <;> simp [and_assoc]

/-- Registering is without effect when the device is closed. -/
private theorem register_cases (ok : WorldOk daemon w) {c : ClientId} {call : OpenCall} (d : DeviceId)
    (pending : pendingCall (w.client c) = some call) :
    (d ∈ w.mgr.devices ∧ ∃ m, w.mgr.registerAndRefresh d call.token c (daemon.computeWsAuthHash call.token) = some m ∧
      Refreshes c d call.token w.mgr m ∧ ∃ s, m.sessions.lookup call.token = some s) ∨
    (d ∉ w.mgr.devices ∧ w.mgr.registerAndRefresh d call.token c (daemon.computeWsAuthHash call.token) = none) := by
  cases done : w.mgr.registerAndRefresh d call.token c (daemon.computeWsAuthHash call.token) with
  | some m =>
    refine Or.inl ⟨(registerAndRefresh_eq.mp done).1,m,rfl,?_,?_⟩
    · exact registerAndRefresh_refreshes ok.coherent (ok.isFresh pending) done
    · exact ⟨_,(registerAndRefresh_registered done).1.session⟩
  | none =>
    refine Or.inr ⟨?_,rfl⟩
    rw [mem_iff_lookup]
    rintro ⟨e,present⟩
    rw [registerAndRefresh_none.mp done] at present; cases present

/-- The sections of an open. -/
private theorem open_outcome (ok : WorldOk daemon w) {c : ClientId} {call : OpenCall} {pc : OpenPc} {t : Token}
    (here : w.client c = .opening call pc) (op : sessionOf w (.client c .advance) = some t)
    (taken : step daemon w (.client c .advance) = some w') :
    OnlyRegistry w w' ∧ Outcome w w' (refreshed w (.client c .advance)) t := by
  obtain ⟨⟨pc',sh⟩,ran,rfl⟩ := Option.map_eq_some_iff.mp taken
  rw [here] at ran
  simp only [sessionOf,here] at op
  simp only [refreshed,here]
  have pendingHere (pending : pendingCall (.opening call pc) = some call) : pendingCall (w.client c) = some call := by
    rw [here]; exact pending
  have manager : w.shared.mgr = w.mgr := rfl
  cases pc with
  | enter =>
    cases op
    rcases register_cases ok call.deviceId (pendingHere rfl) with ⟨present,m,done,refreshes,s,found⟩ | ⟨absent,none⟩
    · simp only [clientStep,openStep,openEnter,manager,done] at ran
      cases ran
      exact ⟨⟨rfl,rfl,rfl,rfl,rfl⟩,.replaced c call.deviceId (if_pos present) refreshes ⟨s,Or.inr found⟩⟩
    · simp only [clientStep,openStep,openEnter,manager,none] at ran
      cases busy : w.mgr.opening.lookup call.deviceId with
      | none =>
        rw [busy] at ran; cases ran
        exact ⟨⟨rfl,rfl,rfl,rfl,rfl⟩,.same (if_neg absent) ⟨rfl,rfl,rfl,rfl,rfl,rfl,rfl,rfl⟩⟩
      | some reservation =>
        rw [busy] at ran; cases ran
        exact ⟨⟨rfl,rfl,rfl,rfl,rfl⟩,.same (if_neg absent) (SameRegistry.refl _)⟩
  | recheck =>
    cases op
    rcases register_cases ok call.deviceId (pendingHere rfl) with ⟨present,m,done,refreshes,s,found⟩ | ⟨absent,none⟩
    · simp only [clientStep,openStep,openRecheck,manager,done] at ran
      cases ran
      exact ⟨⟨rfl,rfl,rfl,rfl,rfl⟩,.replaced c call.deviceId (if_pos present) refreshes ⟨s,Or.inr found⟩⟩
    · simp only [clientStep,openStep,openRecheck,manager,none] at ran
      by_cases busy : call.deviceId ∈ w.mgr.opening
      · rw [if_pos busy] at ran; cases ran
        exact ⟨⟨rfl,rfl,rfl,rfl,rfl⟩,.same (if_neg absent) (SameRegistry.refl _)⟩
      · rw [if_neg busy] at ran; cases ran
        exact ⟨⟨rfl,rfl,rfl,rfl,rfl⟩,.same (if_neg absent) (SameRegistry.refl _)⟩
  | check g info numbered =>
    cases op
    by_cases current : w.mgr.reservationCurrent call.deviceId g = true
    · rcases register_cases ok info.deviceId (pendingHere rfl) with ⟨present,m,done,refreshes,s,found⟩ | ⟨absent,none⟩
      · simp only [clientStep,openStep,openCheck,manager,done,current,if_true] at ran
        cases ran
        exact ⟨⟨rfl,rfl,rfl,rfl,rfl⟩,.replaced c info.deviceId (if_pos ⟨current,present⟩) refreshes ⟨s,Or.inr found⟩⟩
      · simp only [clientStep,openStep,openCheck,manager,none,current,if_true] at ran
        cases ran
        exact ⟨⟨rfl,rfl,rfl,rfl,rfl⟩,.same (if_neg fun both => absent both.2) (SameRegistry.refl _)⟩
    · simp only [clientStep,openStep,openCheck,manager,if_neg current] at ran
      cases ran
      exact ⟨⟨rfl,rfl,rfl,rfl,rfl⟩,.same (if_neg fun both => current both.1) (SameRegistry.refl _)⟩
  | install g id entry =>
    cases op
    by_cases current : w.mgr.reservationCurrent call.deviceId g = true
    · obtain ⟨_,lifetime,running⟩ := ok.built g entry (ok.installing c g entry (by rw [here]; rfl))
      rcases openInstall_cases call.deviceId id g c ok.coherent (ok.isFresh (pendingHere rfl))
        (running.trans (congrArg some lifetime.symm)) with
        ⟨m,done,result⟩ | result | ⟨m,result,_,refreshes,registered,_⟩
      · simp only [clientStep,openStep,manager,result] at ran
        cases ran
        have found := (registerAndRefresh_registered done).1.session
        exact ⟨⟨rfl,rfl,rfl,rfl,rfl⟩,.replaced c id (if_pos current)
          (registerAndRefresh_refreshes ok.coherent (ok.isFresh (pendingHere rfl)) done) ⟨_,Or.inr found⟩⟩
      · -- The section fails only when the reservation is gone.
        exfalso
        unfold openInstall at result
        rw [if_pos current] at result
        split at result <;> cases result
      · simp only [clientStep,openStep,manager,result] at ran
        cases ran
        exact ⟨⟨rfl,rfl,rfl,rfl,rfl⟩,.replaced c id (if_pos current) refreshes ⟨_,Or.inr registered.session⟩⟩
    · simp only [clientStep,openStep,openInstall,manager,if_neg current] at ran
      cases ran
      exact ⟨⟨rfl,rfl,rfl,rfl,rfl⟩,.same (if_neg current) (SameRegistry.refl _)⟩
  | _ => cases op

/-- Closing a session. -/
private theorem close_outcome (ok : WorldOk daemon w) (c : ClientId) (d : DeviceId) (t : Token) {w' : World}
    (result : w'.mgr = (w.mgr.close d t c).2) :
    Outcome w w' (if ownSession w.mgr c d t then some (c,d) else none) t := by
  rcases close_cases ok.coherent d t c with ⟨other,same⟩ | ⟨s,found,device,owner,closed⟩
  · refine .same (if_neg ?_) (by rw [result,same]; exact SameRegistry.refl _)
    rw [ownSession_iff]
    rintro ⟨s,found,device,owner,_⟩
    exact other ⟨s,found,device,owner⟩
  · have own : ownSession w.mgr c d t = true :=
      ownSession_iff.mpr ⟨s,found,device,owner,(ok.coherent.registry.keyed t s found).2⟩
    rcases closed with ⟨_,_,refreshes⟩ | ⟨last,_,detached⟩
    · exact .replaced c d (if_pos own) (result ▸ refreshes) ⟨s,Or.inl found⟩
    · refine .last c d (if_pos own) ?_ ?_ last
      · intro s' found'; rw [found] at found'; cases found'; exact device
      · rw [result,detached.sessions,found]; simp [Option.filter,device]

/-- Setting the data plane of a session. -/
private theorem setDataplaneMode_outcome (ok : WorldOk daemon w) (c : ClientId) (d : DeviceId) (t : Token)
    (mode : Option Mode) {w' : World}
    (result : w.mgr.setDataplaneMode d t mode c = .ok w'.mgr ∨
      (∃ error, w.mgr.setDataplaneMode d t mode c = .error error) ∧ w'.mgr = w.mgr) :
    Outcome w w' (if mode.isSome && ownSession w.mgr c d t then some (c,d) else none) t := by
  rcases result with done | ⟨⟨error,refused⟩,same⟩
  · obtain ⟨⟨s,found,device,owner⟩,refreshes,_⟩ := setDataplaneMode_changes ok.coherent done
    have own : ownSession w.mgr c d t = true :=
      ownSession_iff.mpr ⟨s,found,device,owner,(ok.coherent.registry.keyed t s found).2⟩
    have known : mode.isSome = true := by
      cases mode with
      | none => cases done
      | some mode => rfl
    exact .replaced c d (if_pos (by rw [known,own]; rfl)) refreshes ⟨s,Or.inl found⟩
  · refine .same (if_neg ?_) (same ▸ SameRegistry.refl _)
    rw [Bool.and_eq_true,ownSession_iff]
    rintro ⟨known,s,found,rfl,rfl,active⟩
    obtain ⟨mode,rfl⟩ := Option.isSome_iff_exists.mp known
    simp [setDataplaneMode,found,active] at refused

/-- What a step does that operates on a session. -/
private theorem step_outcome (ok : WorldOk daemon w) {a : Action} {t : Token} (op : sessionOf w a = some t)
    (taken : step daemon w a = some w') : OnlyRegistry w w' ∧ Outcome w w' (refreshed w a) t := by
  cases a with
  | client c action =>
    cases action with
    | advance =>
      cases here : w.client c with
      | opening call pc => exact open_outcome ok here op taken
      | closingAll rest steps =>
        rcases steps with _ | ⟨instruction,steps⟩
        · rcases rest with _ | ⟨⟨d,t'⟩,rest⟩
          · simp only [sessionOf,here] at op; cases op
          · simp only [sessionOf,here] at op
            cases op
            obtain ⟨⟨pc',sh⟩,ran,rfl⟩ := Option.map_eq_some_iff.mp taken
            rw [here] at ran
            simp only [refreshed,here]
            dsimp only [clientStep] at ran
            split at ran <;> cases ran <;> exact ⟨⟨rfl,rfl,rfl,rfl,rfl⟩,close_outcome ok c d t rfl⟩
        · simp only [sessionOf,here] at op; cases op
      | _ => simp only [sessionOf,here] at op; cases op
    | closeSession d t' =>
      cases op
      obtain ⟨⟨pc',sh⟩,ran,rfl⟩ := Option.map_eq_some_iff.mp taken
      cases here : w.client c with
      | idle =>
        rw [here] at ran
        dsimp only [clientStep] at ran
        split at ran <;> cases ran <;> exact ⟨⟨rfl,rfl,rfl,rfl,rfl⟩,close_outcome ok c d t rfl⟩
      | _ => rw [here] at ran; simp only [clientStep] at ran; cases ran
    | setDataPlane d t' mode =>
      cases op
      obtain ⟨⟨pc',sh⟩,ran,rfl⟩ := Option.map_eq_some_iff.mp taken
      cases here : w.client c with
      | idle =>
        rw [here] at ran
        dsimp only [clientStep] at ran
        split at ran
        next done =>
          cases ran
          exact ⟨⟨rfl,rfl,rfl,rfl,rfl⟩,setDataplaneMode_outcome ok c d t _ (Or.inl done)⟩
        next refused =>
          cases ran
          exact ⟨⟨rfl,rfl,rfl,rfl,rfl⟩,setDataplaneMode_outcome ok c d t _ (Or.inr ⟨⟨_,refused⟩,rfl⟩)⟩
      | _ => rw [here] at ran; simp only [clientStep] at ran; cases ran
    | _ => cases op
  | transport n action =>
    obtain ⟨⟨pc',sh⟩,ran,rfl⟩ := Option.map_eq_some_iff.mp taken
    cases action with
    | connect =>
      cases here : w.transport n with
      | authenticated kind d t' =>
        simp only [sessionOf,here] at op
        cases op
        rw [here] at ran
        simp only [refreshed,here]
        dsimp only [transportStep] at ran
        cases done : w.shared.mgr.connect kind d t with
        | none =>
          rw [done] at ran; cases ran
          refine ⟨⟨rfl,rfl,rfl,rfl,rfl⟩,.same ?_ (SameRegistry.refl _)⟩
          unfold connect at done
          cases found : w.mgr.sessions.lookup t with
          | none => rfl
          | some s =>
            rw [show w.shared.mgr.sessions.lookup t = some s from found] at done
            dsimp only at done
            split at done
            next unfit =>
              refine if_neg fun fits => ?_
              rw [Bool.and_eq_true,beq_iff_eq] at fits
              simp [fits.1,fits.2] at unfit
            · cases done
        | some result =>
          obtain ⟨grant,m⟩ := result
          rw [done] at ran; cases ran
          obtain ⟨s,found,device,changes⟩ := connect_changes ok.coherent done
          refine ⟨⟨rfl,rfl,rfl,rfl,rfl⟩,.replaced s.ownerClientId d ?_ changes.refreshes ⟨s,Or.inl found⟩⟩
          rw [show w.mgr.sessions.lookup t = some s from found]
          simp [device,(ok.coherent.registry.keyed t s found).2]
      | _ => simp only [sessionOf,here] at op; cases op
    | disconnect =>
      cases here : w.transport n with
      | connected link frame =>
        simp only [sessionOf,here] at op
        cases op
        rw [here] at ran
        simp only [refreshed,here]
        have ran : some (TransportPc.closed link frame,{ w.shared with
            mgr := w.shared.mgr.disconnect link.kind link.deviceId link.token link.grant.generation
              link.grant.capability }) = some (pc',sh) := by
          cases frame <;> exact ran
        cases ran
        rcases disconnect_cases ok.coherent link.kind link.deviceId link.token link.grant.generation
          link.grant.capability with
          ⟨s,⟨found,fits,current⟩,changes⟩ | ⟨stale,same⟩
        · refine ⟨⟨rfl,rfl,rfl,rfl,rfl⟩,.replaced s.ownerClientId link.deviceId ?_ changes.refreshes ⟨s,Or.inl found⟩⟩
          rw [show w.mgr.sessions.lookup link.token = some s from found,Option.bind_some,fits,current]; rfl
        · have kept : SameRegistry w.mgr (w.mgr.disconnect link.kind link.deviceId link.token link.grant.generation
              link.grant.capability) := by rw [show _ = w.mgr from same]; exact SameRegistry.refl _
          refine ⟨⟨rfl,rfl,rfl,rfl,rfl⟩,.same ?_ kept⟩
          cases found : w.mgr.sessions.lookup link.token with
          | none => rfl
          | some s =>
            refine if_neg fun both => stale ⟨s,found,?_⟩
            simpa only [Bool.and_eq_true] using both
      | _ => simp only [sessionOf,here] at op; cases op
    | _ => cases op
  | _ => cases op

/-! ### Isolation -/

/-- Where the flags of a client on a device stay set, what it has in flight stays. -/
private theorem undisturbed (only : OnlyRegistry w w') {c : ClientId} {d : DeviceId}
    (commands : ∀ l command, InFlight w l command → command.sender = .nm c d →
      w.mgr.valid command.validity = true → w'.mgr.valid command.validity = true)
    (targets : ∀ l target, Routes w c d l target → w'.mgr.valid target.valid = true) : Undisturbed c d w w' := by
  refine ⟨?_,?_⟩
  · intro l command flying sent current
    refine ⟨?_,commands l command flying sent current.1,by rw [only.epoch]; exact current.2⟩
    unfold InFlight
    rw [only.queue,only.worker]; exact flying
  · intro l target routes
    have set := targets l target routes
    obtain ⟨configured,member,client,_⟩ := routes
    refine ⟨?_,?_,client,set⟩
    · rw [only.readerConfig]; exact configured
    · rw [only.reader]; exact member

/-- The command of a client that is in flight was bound to the client's flag. -/
private theorem flying_bound (io : IoOk w) {c : ClientId} {d : DeviceId} {l : Lifetime} {command : IoCommand}
    (flying : InFlight w l command) (sent : command.sender = .nm c d) : Bound w.mgr c d command.validity := by
  rcases flying with queued | received
  · exact (io.queues.queued l command queued).2.2 c d sent
  · have ok := io.worker l
    rw [received] at ok
    exact ok.2.2 c d sent

private theorem routed_bound (io : IoOk w) {c : ClientId} {d : DeviceId} {l : Lifetime} {target : Target}
    (routes : Routes w c d l target) : Bound w.mgr c d target.valid := by
  obtain ⟨⟨config,configured,rfl⟩,member,rfl,_⟩ := routes
  exact (io.reader l).2 config target configured member

/-- Replacing a binding leaves the flags of all other bindings set. -/
private theorem replaced_keeps {c c' : ClientId} {d d' : DeviceId} {t : Token} {f : Flag} {m m' : DeviceManager}
    (coherent : Coherent m) (refreshes : Refreshes c d t m m') (other : (c',d') ≠ (c,d))
    (held : (flags m).held (.nm c' d') = some f) : m'.valid f = true := by
  have coherent' := refreshes.effect.coherent coherent
  obtain ⟨middle,touched,rfl⟩ := refreshes
  refine coherent'.flagsOk.set (.nm c' d') f ?_
  simp only [flags,lookup_refresh,if_neg other,touched.hot]
  exact held

/-- Replacing a binding clears its flag. -/
private theorem replaced_clears {c : ClientId} {d : DeviceId} {t : Token} {f : Flag} {m m' : DeviceManager}
    (coherent : Coherent m) (refreshes : Refreshes c d t m m') (held : (flags m).held (.nm c d) = some f) :
    m'.valid f = false := by
  rw [Bool.eq_false_iff]
  intro set
  have still := (refreshes.effect.evolves coherent).stays (.nm c d) f held set
  obtain ⟨middle,touched,rfl⟩ := refreshes
  obtain ⟨hot,stored,same⟩ := Option.map_eq_some_iff.mp still
  rw [lookup_refresh,if_pos rfl] at stored
  -- The new flag is a fresh one, and the old one was granted before.
  have fresh : hot.valid = middle.nextFlag := wantedHot_valid middle d c stored
  have granted : f < middle.nextFlag :=
    Nat.lt_of_lt_of_le (coherent.flagsOk.granted (.nm c d) f held) touched.evolves.next
  exact absurd (same.symm.trans fresh) (Nat.ne_of_lt granted)

/-- Replacing the binding of a session leaves every other session as it was. -/
private theorem refreshes_others {c : ClientId} {d : DeviceId} {t t' : Token} {m m' : DeviceManager}
    (refreshes : Refreshes c d t m m') (other : t' ≠ t) : m'.sessions.lookup t' = m.sessions.lookup t' := by
  obtain ⟨middle,touched,rfl⟩ := refreshes
  rw [refresh_sessions]; exact touched.others t' other

private theorem refreshes_device {c : ClientId} {d : DeviceId} {t : Token} {s : Session} {m m' : DeviceManager}
    (refreshes : Refreshes c d t m m') (found : m.sessions.lookup t = some s ∨ m'.sessions.lookup t = some s) :
    s.deviceId = d := by
  obtain ⟨middle,touched,rfl⟩ := refreshes
  rcases found with before | after
  · exact (touched.before s before).2
  · rw [refresh_sessions] at after; exact (touched.after s after).2

private theorem isolated_step {a : Action} (sound : Sound daemon w) (taken : step daemon w a = some w') :
    SessionsIsolated w a w' ↔ BindingIdle w a w' := by
  obtain ⟨ok,io⟩ := sound
  constructor
  · rintro isolated tB c d op pair ⟨tA,sA,other,found,rfl,rfl,mode⟩
    obtain ⟨only,outcome⟩ := step_outcome ok op taken
    cases outcome with
    | same none _ => rw [pair] at none; cases none
    | last c' d' some device gone last =>
      rw [pair] at some; cases some
      exact absurd rfl (last tA sA other found)
    | replaced c' d' some refreshes live =>
      rw [pair] at some; cases some
      obtain ⟨sB,live⟩ := live
      have stays := (refreshes_others refreshes other).trans found
      obtain ⟨commands,targets⟩ := isolated tA sA tB sB op other found mode ⟨sA,stays,mode⟩ live
        (refreshes_device refreshes live)
      refine ⟨?_,?_⟩
      · intro l command flying sent current
        have held := (flying_bound io flying sent).2 current.1
        have cleared := replaced_clears ok.coherent refreshes held
        rw [(commands l command flying sent current).2.1] at cleared; cases cleared
      · intro l target routes
        have held := (routed_bound io routes).2 routes.2.2.2
        have cleared := replaced_clears ok.coherent refreshes held
        rw [(targets l target routes).2.2.2] at cleared; cases cleared
  · intro idle tA sA tB sB op other found mode _ live device
    obtain ⟨only,outcome⟩ := step_outcome ok op taken
    cases outcome with
    | same none same =>
      refine undisturbed only ?_ ?_
      · intro l command _ _ set; rw [same.valid]; exact set
      · intro l target routes; rw [same.valid]; exact routes.2.2.2
    | last c d some closed gone last =>
      have here : sB.deviceId = d := by
        rcases live with before | after
        · exact closed sB before
        · rw [gone] at after; cases after
      exact absurd (device.symm.trans here) (last tA sA other found)
    | replaced c d some refreshes _ =>
      have here : sA.deviceId = d := device.symm.trans (refreshes_device refreshes live)
      by_cases owner : sA.ownerClientId = c
      · -- The client's own binding is replaced, and there is nothing in flight under it.
        obtain ⟨commands,targets⟩ := idle tB c d op some ⟨tA,sA,other,found,owner,here,mode⟩
        rw [owner,here]
        refine ⟨?_,?_⟩
        · intro l command flying sent current; exact absurd current (commands l command flying sent)
        · intro l target routes; exact absurd routes (targets l target)
      · have apart : ((sA.ownerClientId,sA.deviceId) : ClientId × DeviceId) ≠ (c,d) :=
          fun same => owner (Prod.mk.inj same).1
        refine undisturbed only ?_ ?_
        · intro l command flying sent set
          exact replaced_keeps ok.coherent refreshes apart ((flying_bound io flying sent).2 set)
        · intro l target routes
          exact replaced_keeps ok.coherent refreshes apart ((routed_bound io routes).2 routes.2.2.2)

/-- In every run: no operation on a session disturbs another NM session on the same
    device, exactly when none replaces the binding of a client that has another NM
    session there and something in flight. -/
theorem sessions_isolated_iff (daemon : Daemon) (trace : List Action) :
    AllSteps (step daemon) SessionsIsolated {} trace ↔ AllSteps (step daemon) BindingIdle {} trace :=
  allSteps_congr (fun _ _ _ sound taken => ⟨step_ok sound.1 taken,step_io sound.1 sound.2 taken⟩)
    (fun _ _ _ => isolated_step) ⟨init_ok daemon,init_io⟩

end

/-- A client has two sessions on the device and a send of two bytes in the queue of
    the worker when a connection for the second session has been authenticated. -/
def sharedBinding : List Action :=
  connecting 1 ++ openingFirst 1 tokenA ++ [.client 1 (.openDevice 7 tokenB),.client 1 .advance] ++
    [.client 1 (.report 7 (.output 0 [1,2]))] ++ List.replicate 4 (.client 1 .advance) ++
    [.transport 1 (.authenticate .ws (vendorDaemon.computeWsAuthHash tokenB))]

/-- The connection of the second session makes the worker reject the send, while
    the first session stays an active NM session. -/
theorem connection_rejects_send : ∃ w w' w'',
    exec (step vendorDaemon) {} sharedBinding = some w ∧ step vendorDaemon w (.transport 1 .connect) = some w' ∧
    exec (step vendorDaemon) w' [.worker 1,.worker 1] = some w'' ∧
    (w.mgr.sessions.lookup tokenA).map (·.mode) = some .nm ∧
    w'.mgr.sessions.lookup tokenA = w.mgr.sessions.lookup tokenA ∧
    w.shared.queue 1 = [.command ⟨.output 0 [1,2],0,0,1,.nm 1 7,0⟩] ∧ w.mgr.valid 1 = true ∧
    w''.shared.replies 0 = some false ∧ w''.shared.starts = [] ∧
    ¬ AllSteps (step vendorDaemon) SessionsIsolated {} (sharedBinding ++ [.transport 1 .connect]) := by
  obtain ⟨w'',ran⟩ := Option.isSome_iff_exists.mp (by decide : (exec (step vendorDaemon) {}
    (sharedBinding ++ [.transport 1 .connect] ++ [.worker 1,.worker 1])).isSome = true)
  obtain ⟨w',before,after⟩ := exec_append.mp ran
  obtain ⟨w,run,last⟩ := exec_append.mp before
  obtain ⟨w₁,taken,done⟩ := exec_cons.mp last
  obtain rfl : w₁ = w' := Option.some.inj done
  have sessions : (exec (step vendorDaemon) {} sharedBinding).map (fun w =>
      (w.mgr.sessions.lookup tokenA,(w.mgr.sessions.lookup tokenB).map (·.deviceId),
        sessionOf w (.transport 1 .connect))) =
      some (some ⟨tokenA,7,1,.nm,vendorDaemon.computeWsAuthHash tokenA,true,0,0⟩,some 7,some tokenB) := by decide
  have flight : (exec (step vendorDaemon) {} sharedBinding).map (fun w =>
      (w.shared.queue 1,w.mgr.valid 1,w.shared.epoch 1)) =
      some ([.command ⟨.output 0 [1,2],0,0,1,.nm 1 7,0⟩],true,0) := by decide
  have second : (exec (step vendorDaemon) {} (sharedBinding ++ [.transport 1 .connect])).map (fun w =>
      (w.mgr.sessions.lookup tokenA,w.mgr.valid 1)) =
      some (some ⟨tokenA,7,1,.nm,vendorDaemon.computeWsAuthHash tokenA,true,0,0⟩,false) := by decide
  have third : (exec (step vendorDaemon) {} (sharedBinding ++ [.transport 1 .connect] ++ [.worker 1,.worker 1])).map
      (fun w => (w.shared.replies 0,w.shared.starts)) = some (some false,[]) := by decide
  rw [run] at sessions flight
  rw [before] at second
  rw [ran] at third
  simp only [Option.map_some,Option.some.injEq,Prod.mk.injEq] at sessions flight second third
  obtain ⟨session,device,op⟩ := sessions
  obtain ⟨queue,set,epoch⟩ := flight
  obtain ⟨stays,cleared⟩ := second
  obtain ⟨sB,foundB,deviceB⟩ := Option.map_eq_some_iff.mp device
  refine ⟨w,w₁,w'',run,taken,after,by rw [session]; rfl,stays.trans session.symm,queue,set,third.1,third.2,?_⟩
  intro isolated
  have flying : InFlight w 1 ⟨.output 0 [1,2],0,0,1,.nm 1 7,0⟩ := Or.inl (by rw [queue]; exact List.mem_cons_self)
  have still := ((isolated.at run taken tokenA _ tokenB sB op (by decide) session rfl ⟨_,stays,rfl⟩ (Or.inl foundB)
    deviceB).1 1 _ flying rfl ⟨set,epoch.symm⟩).2.1
  rw [show w₁.mgr.valid 1 = false from cleared] at still; cases still

end FFWebHid.Isolation
