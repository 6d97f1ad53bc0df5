import FFWebHid.Runs
import FFWebHid.Threads

/-!
The set-up of a transport for a session that is in NM mode, beside the reader of its
device. The set-up holds the lifecycle mutex while it connects, and the reader looks at
the bindings and at the counter without it: the connect is cut at the cells that the
reader sees. A WebSocket subscribes to the broadcast channel before it connects, and a
WebTransport session once its peer has opened a stream.
-/
namespace FFWebHid.Handover
open FFWebHid.Maps FFWebHid.Runs FFWebHid.Types FFWebHid.Registry FFWebHid.Lifecycle FFWebHid.Threads

/-- One connection and the device of its session. `receiver` is the slot of the channel
    that it subscribes. -/
structure Setting where
  kind : TransportKind
  token : Token
  lifetime : Lifetime
  config : ReaderConfig
  receiver : ClientId

/-- Where the set-up stands. It holds the mutex while the connection is granted and
    counted; `wasNonNm` is what it read of the session before. -/
inductive SetUp where
  | authenticated
  | subscribed
  | granted (grant : TransportGrant) (owner : ClientId) (wasNonNm : Bool)
  | counted (grant : TransportGrant) (owner : ClientId)
  | connected (grant : TransportGrant)
  | accepting (grant : TransportGrant)
  | accepted (grant : TransportGrant)
  | running (grant : TransportGrant)
  | ended

def SetUp.holdsLifecycle : SetUp → Bool
  | .granted _ _ _ => true
  | .counted _ _ => true
  | _ => false

/-- `listening` tells that the receiver exists. Not part of the source: whether the
    connect has switched the NM routing off, and whether the report in the reader's hands
    had not been routed to the session by then. -/
structure State where
  shared : Shared
  reader : ReaderPc
  setUp : SetUp := .authenticated
  listening : Bool := false
  switched : Bool := false
  late : Bool := false

inductive Event where
  | setUp
  | accept (ok : Bool)
  | reader (action : ReaderAction)

/-- The report in the reader's hands has still to pass the binding. -/
def unrouted (binding : Option Flag) : ReaderPc → Bool
  | .report _ _ => true
  | .routing _ _ targets => targets.any fun target => binding == some target.valid
  | .sending _ _ target targets => (target :: targets).any fun target => binding == some target.valid
  | _ => false

section
variable (setting : Setting) (s : State)

/-- `event_tx.subscribe()`: the receiver starts with an empty queue. -/
def subscribe : State :=
  { s with
    shared := { s.shared with events := Function.update s.shared.events setting.receiver [] }
    listening := true }

/-- The part of a connect that changes the session. -/
def grantTransport : State :=
  match s.shared.mgr.sessions.lookup setting.token with
  | none => { s with setUp := .ended }
  | some session =>
    if !session.active || session.deviceId != setting.config.deviceId then { s with setUp := .ended }
    else
      let connected := setting.kind.connected session
      let (capability,granted) := (s.shared.mgr.putSession setting.token connected).replaceTransportValidity
        setting.token
      { s with
        shared := { s.shared with mgr := granted }
        setUp := .granted ⟨setting.kind.generation connected,capability⟩ session.ownerClientId
          session.mode.isNonNm }

/-- The part of a connect that changes the counter. -/
def countTransport (grant : TransportGrant) (owner : ClientId) (wasNonNm : Bool) : State :=
  { s with
    shared := { s.shared with mgr := s.shared.mgr.updateNonNmCount wasNonNm true }
    setUp := .counted grant owner }

/-- The part of a connect that changes the binding. -/
def switchRouting (grant : TransportGrant) (owner : ClientId) : State :=
  { s with
    shared := { s.shared with mgr := s.shared.mgr.refreshNmHotLocked setting.config.deviceId owner }
    setUp := .connected grant
    switched := true
    late := unrouted ((s.shared.mgr.nmHot.lookup (owner,setting.config.deviceId)).map (·.valid)) s.reader }

/-- A connection that ends before its sender runs gives the session back. -/
def giveUp (grant : TransportGrant) : State :=
  { s with
    shared := { s.shared with
      mgr := s.shared.mgr.disconnect setting.kind setting.config.deviceId setting.token grant.generation
        grant.capability }
    setUp := .ended
    switched := false
    late := false }

def advanceSetUp : Option State :=
  match s.setUp with
  | .authenticated =>
    match setting.kind with
    | .ws => some { subscribe setting s with setUp := .subscribed }
    | .wt => some (grantTransport setting s)
  | .subscribed => some (grantTransport setting s)
  | .granted grant owner wasNonNm => some (countTransport s grant owner wasNonNm)
  | .counted grant owner => some (switchRouting setting s grant owner)
  | .connected grant =>
    if s.shared.mgr.valid grant.capability then
      match setting.kind with
      | .ws => some { s with setUp := .running grant }
      | .wt => some { s with setUp := .accepting grant }
    else some (giveUp setting s grant)
  | .accepted grant => some { subscribe setting s with setUp := .running grant }
  | _ => none

/-- The reader takes the mutex only when it gives its device up. -/
def readerBlocked : Bool :=
  match s.reader with
  | .failed => s.setUp.holdsLifecycle
  | _ => false

def advanceReader (action : ReaderAction) : Option State :=
  if readerBlocked s then none
  else
    (readerStep s.shared setting.lifetime setting.config s.reader action).map fun (reader,shared) =>
      { s with
        reader := reader
        shared := shared
        late := match s.reader with
          | .reading => s.switched
          | _ => s.late }

def step : Event → Option State
  | .setUp => advanceSetUp setting s
  | .accept ok =>
    match s.setUp with
    | .accepting grant => some (if ok then { s with setUp := .accepted grant } else giveUp setting s grant)
    | _ => none
  | .reader action => advanceReader setting s action

end

section
variable (setting : Setting)

/-- The reader looks at the counter for a report that the NM route no longer takes to
    the session. -/
def publishesLate (s : State) (e : Event) : Option (UInt8 × Bytes) :=
  match e,s.reader with
  | .reader .advance,.publishing reportId data => if s.late then some (reportId,data) else none
  | _,_ => none

/-- The receiver of the connection gets every such report. -/
def NoGap (s : State) (e : Event) (s' : State) : Prop :=
  ∀ reportId data, publishesLate s e = some (reportId,data) → s.listening = true ∧ ∃ stamp,
    s'.shared.events setting.receiver = s.shared.events setting.receiver ++
      [⟨.inputReport setting.config.deviceId reportId data,stamp⟩]

/-- The connection has subscribed by then, and one more transport fits the counter. -/
def Subscribed (start s : State) (e : Event) (_ : State) : Prop :=
  ∀ report, publishesLate s e = some report →
    s.listening = true ∧ DeviceManager.fetchAdd start.shared.mgr.nonNmSessions 1 ≠ 0

/-- The session, if it is there, is in NM mode, and its connection has just begun. -/
structure Start (s : State) : Prop where
  nm : ∀ session, s.shared.mgr.sessions.lookup setting.token = some session → session.mode = .nm
  setUp : s.setUp = .authenticated
  switched : s.switched = false
  late : s.late = false

end

section
variable {setting : Setting} {s s' : State}

theorem grantTransport_some {session : Session} (found : s.shared.mgr.sessions.lookup setting.token = some session)
    (refused : ¬ (!session.active || session.deviceId != setting.config.deviceId) = true) :
    grantTransport setting s =
      let granted := (s.shared.mgr.putSession setting.token (setting.kind.connected session)).replaceTransportValidity
        setting.token
      { s with
        shared := { s.shared with mgr := granted.2 }
        setUp := .granted ⟨setting.kind.generation (setting.kind.connected session),granted.1⟩ session.ownerClientId
          session.mode.isNonNm } := by
  unfold grantTransport
  rw [found]
  exact if_neg refused

/-- With nothing in between, the parts of a connect are the connect of the manager. -/
theorem connect_whole {grant : TransportGrant} {mgr : DeviceManager} (ready : s.setUp = .subscribed)
    (connects : s.shared.mgr.connect setting.kind setting.config.deviceId setting.token = some (grant,mgr)) :
    ∃ s', exec (step setting) s [.setUp,.setUp,.setUp] = some s' ∧ s'.shared.mgr = mgr ∧
      s'.setUp = .connected grant := by
  unfold DeviceManager.connect at connects
  cases found : s.shared.mgr.sessions.lookup setting.token with
  | none => rw [found] at connects; cases connects
  | some session =>
    rw [found] at connects
    dsimp only at connects
    split at connects
    · cases connects
    next refused =>
      cases connects
      have first : step setting s .setUp = some (grantTransport setting s) := by
        simp only [step,advanceSetUp,ready]
      rw [grantTransport_some found refused] at first
      exact ⟨_,exec_cons.mpr ⟨_,first,exec_cons.mpr ⟨_,rfl,exec_cons.mpr ⟨_,rfl,rfl⟩⟩⟩,rfl,rfl⟩

/-! ### What holds during the set-up -/

/-- The reader still serves its device. -/
def serving : ReaderPc → Bool
  | .failed => false
  | .cleanup _ => false
  | .stopped => false
  | _ => true

/-- What the set-up has done to the manager so far. -/
def Expected (start mgr : DeviceManager) : SetUp → Prop
  | .authenticated => mgr = start
  | .subscribed => mgr = start
  | .granted _ _ wasNonNm => wasNonNm = false ∧ mgr.nonNmSessions = start.nonNmSessions
  | .ended => True
  | _ => mgr.nonNmSessions = DeviceManager.fetchAdd start.nonNmSessions 1

/-- The NM routing is off, and a connection is on its way. -/
def SetUp.handsOver : SetUp → Bool
  | .connected _ => true
  | .accepting _ => true
  | .accepted _ => true
  | .running _ => true
  | _ => false

structure Inv (setting : Setting) (start : DeviceManager) (s : State) : Prop where
  mgr : serving s.reader = true → Expected start s.shared.mgr s.setUp
  late : s.late = true → s.switched = true
  switched : s.switched = true → s.setUp.handsOver = true
  listening : setting.kind = .ws → s.setUp ≠ .authenticated → s.listening = true

theorem refresh_nonNm (m : DeviceManager) (d : DeviceId) (c : ClientId) :
    (m.refreshNmHotLocked d c).nonNmSessions = m.nonNmSessions := by
  unfold DeviceManager.refreshNmHotLocked
  split <;> rfl

theorem Inv.start (fresh : Start setting s) : Inv setting s.shared.mgr s where
  mgr _ := by rw [fresh.setUp]; rfl
  late late := by rw [fresh.late] at late; cases late
  switched switched := by rw [fresh.switched] at switched; cases switched
  listening _ begun := absurd fresh.setUp begun

theorem readerStep_serving {shared shared' : Shared} {l : Lifetime} {config : ReaderConfig} {pc pc' : ReaderPc}
    {action : ReaderAction} (taken : readerStep shared l config pc action = some (pc',shared'))
    (serves : serving pc' = true) : serving pc = true ∧ shared'.mgr = shared.mgr := by
  unfold readerStep at taken
  split at taken
  · split at taken <;> cases taken
    exact ⟨rfl,rfl⟩
  · split at taken <;> cases taken
    · cases serves
    · exact ⟨rfl,rfl⟩
  · cases taken; exact ⟨rfl,rfl⟩
  · cases taken; exact ⟨rfl,rfl⟩
  · cases taken; cases serves
  · cases taken; exact ⟨rfl,rfl⟩
  · cases taken; exact ⟨rfl,rfl⟩
  · cases taken; exact ⟨rfl,rfl⟩
  · cases taken; exact ⟨rfl,rfl⟩
  · cases taken
    refine ⟨rfl,?_⟩
    split <;> rfl
  · split at taken <;> cases taken <;> cases serves
  · cases taken; cases serves
  · obtain ⟨shared₁,_,result⟩ := Option.map_eq_some_iff.mp taken
    cases result
    cases serves
  · cases taken

theorem Expected.handsOver {start mgr : DeviceManager} {setUp : SetUp} (expected : Expected start mgr setUp)
    (finished : setUp.handsOver = true) : mgr.nonNmSessions = DeviceManager.fetchAdd start.nonNmSessions 1 := by
  cases setUp with
  | connected grant => exact expected
  | accepting grant => exact expected
  | accepted grant => exact expected
  | running grant => exact expected
  | authenticated => cases finished
  | subscribed => cases finished
  | granted grant owner wasNonNm => cases finished
  | counted grant owner => cases finished
  | ended => cases finished

/-- The reader changes neither the set-up nor, while it serves, the manager. -/
theorem Inv.reader {start : DeviceManager} {action : ReaderAction} (inv : Inv setting start s)
    (taken : advanceReader setting s action = some s') : Inv setting start s' := by
  unfold advanceReader at taken
  split at taken
  · cases taken
  · obtain ⟨⟨reader,shared⟩,ran,result⟩ := Option.map_eq_some_iff.mp taken
    cases result
    refine ⟨fun serves => ?_,fun late => ?_,inv.switched,inv.listening⟩
    · obtain ⟨served,same⟩ := readerStep_serving ran serves
      have expected := inv.mgr served
      rw [← same] at expected
      exact expected
    · dsimp only at late
      split at late
      · exact late
      · exact inv.late late

/-- Before the connect, nothing is switched. -/
theorem Inv.off {start : DeviceManager} (inv : Inv setting start s) (before : s.setUp.handsOver = false) :
    s.switched = false ∧ s.late = false := by
  have quiet : s.switched = false := by
    by_contra on
    rw [inv.switched (eq_true_of_ne_false on)] at before
    cases before
  refine ⟨quiet,?_⟩
  by_contra late
  rw [inv.late (eq_true_of_ne_false late)] at quiet
  cases quiet

/-- A state that is not switched keeps the invariant for what its set-up promises. -/
theorem Inv.before {start : DeviceManager} (off : s.switched = false ∧ s.late = false)
    (expected : serving s.reader = true → Expected start s.shared.mgr s.setUp)
    (listening : setting.kind = .ws → s.listening = true) : Inv setting start s where
  mgr := expected
  late late := by rw [off.2] at late; cases late
  switched on := by rw [off.1] at on; cases on
  listening ws _ := listening ws

theorem Inv.grantTransport {start : DeviceManager}
    (nm : ∀ session, start.sessions.lookup setting.token = some session → session.mode = .nm)
    (same : serving s.reader = true → s.shared.mgr = start) (off : s.switched = false ∧ s.late = false)
    (listens : setting.kind = .ws → s.listening = true) : Inv setting start (grantTransport setting s) := by
  unfold FFWebHid.Handover.grantTransport
  split
  · exact .before off (fun _ => trivial) listens
  next session found =>
    split
    · exact .before off (fun _ => trivial) listens
    · refine .before off (fun serves => ?_) listens
      have started := same serves
      rw [started] at found
      exact ⟨by rw [nm session found]; rfl,by dsimp only; rw [started]; rfl⟩

theorem Inv.giveUp {start : DeviceManager} {grant : TransportGrant} (inv : Inv setting start s)
    (begun : s.setUp ≠ .authenticated) : Inv setting start (giveUp setting s grant) :=
  .before ⟨rfl,rfl⟩ (fun _ => trivial) fun ws => inv.listening ws begun

theorem Inv.setUp {start : DeviceManager}
    (nm : ∀ session, start.sessions.lookup setting.token = some session → session.mode = .nm)
    (inv : Inv setting start s) (taken : advanceSetUp setting s = some s') : Inv setting start s' := by
  unfold advanceSetUp at taken
  cases pc : s.setUp with
  | authenticated =>
    have off := inv.off (by rw [pc]; rfl)
    have same : serving s.reader = true → s.shared.mgr = start := fun serves => by
      have expected := inv.mgr serves
      rw [pc] at expected
      exact expected
    rw [pc] at taken
    cases kind : setting.kind with
    | ws =>
      rw [kind] at taken
      cases taken
      exact .before off same fun _ => rfl
    | wt =>
      rw [kind] at taken
      cases taken
      exact .grantTransport nm same off fun ws => by rw [kind] at ws; cases ws
  | subscribed =>
    have off := inv.off (by rw [pc]; rfl)
    rw [pc] at taken
    cases taken
    refine .grantTransport nm (fun serves => ?_) off fun ws => inv.listening ws (by rw [pc]; nofun)
    have expected := inv.mgr serves
    rw [pc] at expected
    exact expected
  | granted grant owner wasNonNm =>
    have off := inv.off (by rw [pc]; rfl)
    rw [pc] at taken
    cases taken
    refine .before off (fun serves => ?_) fun ws => inv.listening ws (by rw [pc]; nofun)
    have expected := inv.mgr serves
    rw [pc] at expected
    obtain ⟨was,count⟩ := expected
    subst was
    show DeviceManager.fetchAdd s.shared.mgr.nonNmSessions 1 = _
    rw [count]
  | counted grant owner =>
    rw [pc] at taken
    cases taken
    refine ⟨fun serves => ?_,fun _ => rfl,fun _ => rfl,fun ws _ => inv.listening ws (by rw [pc]; nofun)⟩
    have expected := inv.mgr serves
    rw [pc] at expected
    exact (refresh_nonNm ..).trans expected
  | connected grant =>
    have begun : s.setUp ≠ .authenticated := by rw [pc]; nofun
    have expected (serves : serving s.reader = true) := inv.mgr serves
    rw [pc] at taken expected
    dsimp only at taken
    split at taken
    · split at taken <;> cases taken
      · exact ⟨expected,inv.late,fun _ => rfl,fun ws _ => inv.listening ws begun⟩
      · exact ⟨expected,inv.late,fun _ => rfl,fun ws _ => inv.listening ws begun⟩
    · cases taken
      exact inv.giveUp begun
  | accepted grant =>
    have expected (serves : serving s.reader = true) := inv.mgr serves
    rw [pc] at taken expected
    cases taken
    exact ⟨expected,inv.late,fun _ => rfl,fun _ _ => rfl⟩
  | accepting grant => rw [pc] at taken; cases taken
  | running grant => rw [pc] at taken; cases taken
  | ended => rw [pc] at taken; cases taken

theorem Inv.step {start : DeviceManager}
    (nm : ∀ session, start.sessions.lookup setting.token = some session → session.mode = .nm) {e : Event}
    (inv : Inv setting start s) (taken : step setting s e = some s') : Inv setting start s' := by
  cases e with
  | setUp => exact .setUp nm inv taken
  | reader action => exact inv.reader taken
  | accept ok =>
    unfold FFWebHid.Handover.step at taken
    cases pc : s.setUp with
    | accepting grant =>
      have begun : s.setUp ≠ .authenticated := by rw [pc]; nofun
      have expected (serves : serving s.reader = true) := inv.mgr serves
      rw [pc] at taken expected
      cases ok with
      | true =>
        cases taken
        exact ⟨expected,inv.late,fun _ => rfl,fun ws _ => inv.listening ws begun⟩
      | false =>
        cases taken
        exact inv.giveUp begun
    | _ => rw [pc] at taken; cases taken

theorem publishesLate_some {e : Event} {report : UInt8 × Bytes} (late : publishesLate s e = some report) :
    e = .reader .advance ∧ s.reader = .publishing report.1 report.2 ∧ s.late = true := by
  unfold publishesLate at late
  split at late
  next reader =>
    split at late
    next held => cases late; exact ⟨rfl,reader,held⟩
    · cases late
  · cases late

/-- What the reader does with a report that it is to publish. -/
theorem published {reportId : UInt8} {data : Bytes} (reader : s.reader = .publishing reportId data)
    (taken : step setting s (.reader .advance) = some s') : s'.shared =
      if s.shared.mgr.nonNmSessions > 0 then
        s.shared.emit (.inputReport setting.config.deviceId reportId data) else s.shared := by
  unfold step advanceReader readerBlocked at taken
  rw [reader] at taken
  cases taken
  rfl

/-- A late report is received when the connection listens and its count is not lost. -/
theorem noGap_iff (start : State) {e : Event} (inv : Inv setting start.shared.mgr s)
    (taken : step setting s e = some s') : NoGap setting s e s' ↔ Subscribed start s e s' := by
  have counted {report : UInt8 × Bytes} (late : publishesLate s e = some report) :
      s.shared.mgr.nonNmSessions = DeviceManager.fetchAdd start.shared.mgr.nonNmSessions 1 := by
    obtain ⟨_,reader,held⟩ := publishesLate_some late
    exact (inv.mgr (by rw [reader]; rfl)).handsOver (inv.switched (inv.late held))
  constructor
  · rintro noGap ⟨reportId,data⟩ late
    obtain ⟨rfl,reader,held⟩ := publishesLate_some late
    obtain ⟨listening,stamp,received⟩ := noGap reportId data late
    refine ⟨listening,fun wrapped => ?_⟩
    rw [published reader taken,counted late,wrapped,if_neg (Nat.lt_irrefl 0)] at received
    have lengths := congrArg List.length received
    rw [List.length_append] at lengths
    simp at lengths
  · intro subscribed reportId data late
    obtain ⟨rfl,reader,held⟩ := publishesLate_some late
    obtain ⟨listening,fits⟩ := subscribed _ late
    refine ⟨listening,s.shared.mgr.nextLifetimeGeneration,?_⟩
    rw [published reader taken,counted late,if_pos (Nat.pos_of_ne_zero fits)]
    rfl

/-- A WebSocket listens from before its connect. -/
theorem ws_subscribed {start : State} {e : Event} (inv : Inv setting start.shared.mgr s) (ws : setting.kind = .ws)
    (fits : DeviceManager.fetchAdd start.shared.mgr.nonNmSessions 1 ≠ 0) : Subscribed start s e s' := by
  intro report late
  obtain ⟨_,_,held⟩ := publishesLate_some late
  have finished := inv.switched (inv.late held)
  refine ⟨inv.listening ws fun begun => ?_,fits⟩
  rw [begun] at finished
  cases finished

/-- No report falls between the NM route and the transport exactly when the reader gets
    to no late report before the connection has subscribed, and a WebSocket always has. -/
theorem no_gap_iff_subscribed {trace : List Event} (start : Start setting s) :
    (AllSteps (step setting) (NoGap setting) s trace ↔ AllSteps (step setting) (Subscribed s) s trace) ∧
      (setting.kind = .ws → DeviceManager.fetchAdd s.shared.mgr.nonNmSessions 1 ≠ 0 →
        AllSteps (step setting) (NoGap setting) s trace) := by
  have inv := Inv.start start
  have keeps (s₁ : State) (e : Event) (s₂ : State) (inv : Inv setting s.shared.mgr s₁)
      (taken : step setting s₁ e = some s₂) := Inv.step start.nm inv taken
  have same : AllSteps (step setting) (NoGap setting) s trace ↔ AllSteps (step setting) (Subscribed s) s trace :=
    allSteps_congr keeps (fun s₁ e s₂ inv taken => noGap_iff s inv taken) inv
  refine ⟨same,fun ws fits => same.mpr ?_⟩
  exact allSteps_of_invariant keeps (fun s₁ e s₂ inv _ => ws_subscribed inv ws fits) inv

end

/-- A device without numbered reports and protected input. -/
def plainReader : ReaderConfig where
  deviceId := 1
  usesNumberedReports := false
  filter := ⟨[],[],false,false⟩
  deviceInfo := { vendorId := 1, productId := 1, deviceId := 1, collections := [], rawDescriptor := [] }

def connection (kind : TransportKind) : Setting := ⟨kind,"t",1,plainReader,9⟩

def openEntry : Entry := ⟨1,some 1,1,1,64,⟨∅,fun _ => false,fun _ => false,false,64,64⟩⟩

/-- A session in NM mode with its device, and the reader about to look at its stop flag. -/
def bound : State where
  shared := { mgr := ((({ devices := (∅ : HashMap DeviceId Entry).insert 1 openEntry } : DeviceManager).registerNmSink
    0 5).registerAndRefresh 1 "t" 0 "h").getD {} }
  reader := .top

/-- One report from the device to the load of the counter. -/
def oneReport : List Event := [.reader .advance,.reader (.read (.ok [5])),.reader .advance,.reader .advance]

theorem bound_starts (kind : TransportKind) : Start (connection kind) bound where
  nm session found := by
    have facts : (bound.shared.mgr.sessions.lookup "t").map (·.mode) = some .nm := by decide
    rw [show bound.shared.mgr.sessions.lookup "t" = some session from found] at facts
    exact Option.some.inj facts
  setUp := rfl
  switched := rfl
  late := rfl

/-- A WebTransport connects, and a report that the reader takes then is routed to no
    binding and published to nobody who runs for the connection. -/
theorem wt_loses_report : ∃ s s' : State,
    exec (step (connection .wt)) bound ([.setUp,.setUp,.setUp] ++ oneReport) = some s ∧
    step (connection .wt) s (.reader .advance) = some s' ∧ publishesLate s (.reader .advance) = some (0,[5]) ∧
    s.listening = false ∧ ¬ NoGap (connection .wt) s (.reader .advance) s' := by
  obtain ⟨s,run⟩ := Option.isSome_iff_exists.mp (by decide : (exec (step (connection .wt)) bound
    ([.setUp,.setUp,.setUp] ++ oneReport)).isSome = true)
  have facts : (exec (step (connection .wt)) bound ([.setUp,.setUp,.setUp] ++ oneReport)).map
      (fun s => (s.listening,publishesLate s (.reader .advance),
        (step (connection .wt) s (.reader .advance)).isSome)) = some (false,some (0,[5]),true) := by decide
  rw [run] at facts
  simp only [Option.map_some,Option.some.injEq,Prod.mk.injEq] at facts
  obtain ⟨deaf,late,enabled⟩ := facts
  obtain ⟨s',taken⟩ := Option.isSome_iff_exists.mp enabled
  refine ⟨s,s',run,taken,late,deaf,fun noGap => ?_⟩
  rw [(noGap 0 [5] late).1] at deaf
  cases deaf

/-- The same report reaches a WebSocket, and a WebTransport that has subscribed before
    the reader gets to it. -/
theorem no_gap_ws :
    (exec (step (connection .ws)) bound ([.setUp,.setUp,.setUp,.setUp] ++ oneReport ++ [.reader .advance])).map
        (fun s => (s.shared.events 9).length) = some 1 ∧
      AllSteps (step (connection .ws)) (NoGap (connection .ws)) bound
        ([.setUp,.setUp,.setUp,.setUp] ++ oneReport ++ [.reader .advance]) ∧
      (AllSteps (step (connection .wt)) (NoGap (connection .wt)) bound
          ([.setUp,.setUp,.setUp,.setUp,.accept true,.setUp] ++ oneReport ++ [.reader .advance]) ↔
        AllSteps (step (connection .wt)) (Subscribed bound) bound
          ([.setUp,.setUp,.setUp,.setUp,.accept true,.setUp] ++ oneReport ++ [.reader .advance])) :=
  ⟨by decide,(no_gap_iff_subscribed (bound_starts .ws)).2 rfl (by decide),
    (no_gap_iff_subscribed (bound_starts .wt)).1⟩

end FFWebHid.Handover
