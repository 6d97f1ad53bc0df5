import FFWebHid.Runs
import FFWebHid.Planes
import FFWebHid.Sections
import FFWebHid.Safety

/-!
The live switch of a session's data plane to a transport. The bridge retires the plane,
starts a transport of a new generation and asks the daemon for the mode, in that order;
the transport connects on a channel of its own. The requests pass the control port, the
background page and the native port in the order they were sent. Sessions meet in the
daemon only: the model follows one of them, and the others act on the daemon as they like.
-/
namespace FFWebHid.PlaneSwitches
open FFWebHid.Maps FFWebHid.Runs FFWebHid.Capabilities FFWebHid.Types FFWebHid.Registry FFWebHid.Lifecycle
open FFWebHid.Coherence FFWebHid.Sections FFWebHid.Planes

/-- What the switch finds: the session, the settings of its origin, and whether the
    handshake named a port for WebTransport. -/
structure Setting where
  client : ClientId
  deviceId : DeviceId
  token : Token
  useWorker : Bool
  wtPort : Bool

/-- A `setDataPlane` request: of the switch, or of a generation that falls back to NM. -/
inductive Request where
  | switch (dp : TransportKind)
  | fallback (generation : Nat)
  deriving DecidableEq, Repr

def Request.mode : Request → Mode
  | .switch dp => dp.mode
  | .fallback _ => .nm

/-- A `spawnDataPlane` that runs. `posted` tells that the page was asked for a plane of
    its own and has not answered. -/
structure Job where
  generation : Nat
  kind : TransportKind
  posted : Bool := false
  deriving DecidableEq, Repr

/-- A transport that the page has started for a generation. -/
structure Started where
  generation : Nat
  kind : TransportKind
  deriving DecidableEq, Repr

/-- A connection of a started transport at the daemon. -/
structure Conn where
  started : Started
  grant : TransportGrant
  deriving DecidableEq, Repr

/-- An `applyDataPlane` that runs; `retired` tells that the session's old plane is gone. A
    change of the settings comes only when none is running: two of them at once are left out. -/
structure Task where
  dp : TransportKind
  retired : Bool
  deriving DecidableEq, Repr

structure State where
  mgr : DeviceManager
  plane : Plane := {}
  channel : List Request := []
  responses : List (Request × Bool) := []
  task : Option Task := none
  jobs : List Job := []
  started : List Started := []
  dialing : List Started := []
  conns : List Conn := []

/-- What the daemon does for the other sessions. -/
inductive Other where
  | setMode (deviceId : DeviceId) (token : Token) (mode : Mode) (client : ClientId)
  | connect (kind : TransportKind) (deviceId : DeviceId) (token : Token)
  | disconnect (kind : TransportKind) (deviceId : DeviceId) (token : Token) (generation : Nat) (capability : Flag)

def Other.token : Other → Token
  | .setMode _ token _ _ => token
  | .connect _ _ token => token
  | .disconnect _ _ token _ _ => token

inductive Event where
  | change (dp : TransportKind)
  | retire
  | respawn
  | spawned (job : Job) (ok : Bool)
  | answered (job : Job) (conn : Conn)
  | refused (job : Job)
  | timedOut (job : Job)
  | dial (started : Started)
  | connect (started : Started)
  | drop (started : Started)
  | ready (conn : Conn)
  | wire
  | process
  | respond
  | timeout
  | gone (conn : Conn)
  | fail (conn : Conn)
  | recover (dp : Option TransportKind)
  | other (operation : Other)

section
variable (setting : Setting) (s : State)

/-- WebTransport needs a port from the handshake, else the switch starts a WebSocket. -/
def transportFor (dp : TransportKind) : TransportKind :=
  match dp with
  | .ws => .ws
  | .wt => if setting.wtPort then .wt else .ws

/-- The page connects itself when workers are off. -/
def inPage (kind : TransportKind) : Bool := !setting.useWorker && kind == .wt

/-- The page stops the transports of a generation. -/
def terminate (generation : Option Nat) : State :=
  { s with started := s.started.filter fun st => generation != some st.generation }

/-- `despawnDataPlane`, with the page's confirmation: the code waits for it and then goes on,
    here both are one step, so that nothing comes between them. -/
def despawnDataPlane : State :=
  let inPageGeneration := if s.plane.inPageDevices then some s.plane.spawnGen else none
  -- A job that waits for the page is told that its plane is gone, and ends.
  { terminate (terminate s s.plane.workerGeneration) inPageGeneration with
    plane := s.plane.despawnStart.despawnEnd
    jobs := s.jobs.filter fun job => !job.posted }

/-- `spawnDataPlane` up to where it waits. -/
def spawnDataPlane (kind : TransportKind) : State :=
  let begun := s.plane.beginPlaneGeneration
  let job := { generation := begun.spawnGen, kind := kind }
  if inPage setting kind then { s with plane := begun, jobs := s.jobs ++ [job] }
  else { terminate s begun.workerGeneration with plane := begun.dropWorker, jobs := s.jobs ++ [job] }

/-- `fallbackToNm` up to where it waits for the daemon. -/
def requestFallback (generation : Nat) : State :=
  { s with channel := s.channel ++ [.fallback generation] }

/-- A `spawnDataPlane` whose transport could not be started. -/
def spawnFailed (generation : Nat) : State :=
  if s.plane.spawnGen = generation then requestFallback s generation else s

/-- A `spawnDataPlane` after its wait: a worker is there, or the page is asked. -/
def onSpawned (job : Job) (ok : Bool) : State :=
  let done := { s with jobs := s.jobs.erase job }
  if !ok then spawnFailed done job.generation
  else if inPage setting job.kind then
    { done with
      plane := { s.plane with inPageDevices := true }
      started := s.started ++ [⟨job.generation,job.kind⟩]
      jobs := s.jobs.erase job ++ [{ job with posted := true }] }
  else if s.plane.spawnGen = job.generation then
    { done with
      plane := s.plane.addWorker job.generation job.kind
      started := s.started ++ [⟨job.generation,job.kind⟩] }
  else done

/-- The daemon takes the next request. -/
def onProcess : Option State :=
  match s.channel with
  | [] => none
  | request :: rest =>
    match s.mgr.setDataplaneMode setting.deviceId setting.token (some request.mode) setting.client with
    | .ok mgr => some { s with mgr := mgr, channel := rest, responses := s.responses ++ [(request,true)] }
    | .error _ => some { s with channel := rest, responses := s.responses ++ [(request,false)] }

/-- The bridge takes the next answer; that of a switch is dropped. -/
def onRespond : Option State :=
  match s.responses with
  | [] => none
  | (request,ok) :: rest =>
    let taken := { s with responses := rest }
    match request with
    | .switch _ => some taken
    | .fallback generation =>
      if s.plane.spawnGen ≠ generation then some taken
      else if ok then some { taken with plane := s.plane.addNm generation }
      else some (despawnDataPlane taken)

/-- The daemon ends a connection. -/
def endConn (conn : Conn) : State :=
  { s with
    mgr := s.mgr.disconnect conn.started.kind setting.deviceId setting.token conn.grant.generation
      conn.grant.capability
    conns := s.conns.erase conn }

def Other.run (m : DeviceManager) : Other → DeviceManager
  | .setMode deviceId token mode client =>
    match m.setDataplaneMode deviceId token (some mode) client with
    | .ok m' => m'
    | .error _ => m
  | .connect kind deviceId token =>
    match m.connect kind deviceId token with
    | some (_,m') => m'
    | none => m
  | .disconnect kind deviceId token generation capability => m.disconnect kind deviceId token generation capability

def step : Event → Option State
  | .change dp => if s.task.isNone then some { s with task := some ⟨dp,false⟩ } else none
  | .retire =>
    match s.task with
    | some ⟨dp,false⟩ => some { despawnDataPlane s with task := some ⟨dp,true⟩ }
    | _ => none
  | .respawn =>
    match s.task with
    | some ⟨dp,true⟩ =>
      let spawned := spawnDataPlane setting s (transportFor setting dp)
      some { spawned with task := none, channel := s.channel ++ [.switch dp] }
    | _ => none
  | .spawned job ok => if job ∈ s.jobs ∧ job.posted = false then some (onSpawned setting s job ok) else none
  | .answered job conn =>
    if job ∈ s.jobs ∧ job.posted = true ∧ conn ∈ s.conns ∧ conn.started ∈ s.started ∧
        conn.started.generation = job.generation then
      some { s with jobs := s.jobs.erase job, plane := s.plane.markPlaneReady job.generation }
    else none
  | .refused job =>
    if job ∈ s.jobs ∧ job.posted = true then
      some (spawnFailed { s with jobs := s.jobs.erase job } job.generation)
    else none
  | .timedOut job =>
    if job ∈ s.jobs ∧ job.posted = true then
      some (spawnFailed { s with jobs := s.jobs.erase job, plane := { s.plane with inPageDevices := false } }
        job.generation)
    else none
  | .dial started => if started ∈ s.started then some { s with dialing := s.dialing ++ [started] } else none
  | .connect started =>
    if started ∈ s.dialing then
      let taken := { s with dialing := s.dialing.erase started }
      match s.mgr.connect started.kind setting.deviceId setting.token with
      | none => some taken
      | some (grant,mgr) => some { taken with mgr := mgr, conns := s.conns ++ [⟨started,grant⟩] }
    else none
  | .drop started => if started ∈ s.dialing then some { s with dialing := s.dialing.erase started } else none
  | .ready conn =>
    if conn ∈ s.conns ∧ conn.started ∈ s.started ∧ s.plane.workers = some conn.started.generation then
      some { s with plane := s.plane.markPlaneReady conn.started.generation }
    else none
  | .wire =>
    if s.plane.workers = some s.plane.spawnGen then none
    else some { s with plane := s.plane.markPlanePrerequisite s.plane.spawnGen .localPort }
  | .process => onProcess setting s
  | .respond => onRespond s
  | .timeout =>
    if s.plane.readyGenerations = some s.plane.spawnGen then none
    else
      let retired := despawnDataPlane s
      some (requestFallback retired retired.plane.spawnGen)
  | .gone conn =>
    if conn ∈ s.conns ∧ conn.started ∉ s.started then some (endConn setting s conn) else none
  | .fail conn => if conn ∈ s.conns then some (endConn setting s conn) else none
  | .recover dp =>
    let retired := despawnDataPlane s
    match dp with
    | none => some (requestFallback retired retired.plane.spawnGen)
    | some dp => some (spawnDataPlane setting retired (transportFor setting dp))
  | .other operation =>
    if operation.token = setting.token then none else some { s with mgr := operation.run s.mgr }

end

/-! ### The properties -/

section
variable (setting : Setting)

/-- The session is there in NM mode, and no transport has been started for it. -/
structure Start (s : State) : Prop where
  coherent : Coherent s.mgr
  session : ∃ session, s.mgr.sessions.lookup setting.token = some session ∧ session.mode = .nm ∧
    session.deviceId = setting.deviceId ∧ session.ownerClientId = setting.client
  slot : s.mgr.transportValidity.lookup setting.token = none
  plane : s.plane = {}
  quiet : s.channel = [] ∧ s.responses = [] ∧ s.task = none ∧ s.jobs = [] ∧ s.started = [] ∧ s.dialing = [] ∧
    s.conns = []

/-- The daemon is about to take a request of a switch. -/
def switches (s : State) (e : Event) : Prop :=
  e = .process ∧ ∃ dp rest, s.channel = .switch dp :: rest

/-- A request of a switch does not revoke the transport of the newest generation. -/
def NotUndone (s : State) (e : Event) (s' : State) : Prop :=
  switches s e → ∀ conn ∈ s.conns, conn.started.generation = s.plane.spawnGen →
    s.mgr.valid conn.grant.capability = true → s'.mgr.valid conn.grant.capability = true

/-- The daemon takes the request before the transport of the newest generation has
    connected, or after that has lost its capability. -/
def BeforeConnect (s : State) (e : Event) (_ : State) : Prop :=
  switches s e → ∀ conn ∈ s.conns, conn.started.generation = s.plane.spawnGen →
    s.mgr.valid conn.grant.capability = false

/-- No transport fails, and the page is asked for a plane only while its generation is
    the newest. -/
def calm (s : State) : Event → Bool
  | .refused _ => false
  | .timedOut _ => false
  | .fail _ => false
  | .recover _ => false
  | .spawned job ok => !(ok && inPage setting job.kind) || s.plane.spawnGen == job.generation
  | _ => true

/-- Nothing is under way, and the connections that are left are those of transports that
    the bridge has not stopped and the daemon has not revoked. -/
structure Settled (s : State) : Prop where
  quiet : s.channel = [] ∧ s.responses = [] ∧ s.task = none ∧ s.jobs = [] ∧ s.dialing = []
  conns : ∀ conn ∈ s.conns, conn.started ∈ s.started ∧ s.mgr.valid conn.grant.capability = true

end

section
variable {setting : Setting} {s s' : State} {e : Event}

/-- A set capability of a connection is in the session's slot, what is in the slot is of a
    connection, and then the session is in the mode of that connection. -/
structure DaemonOk (setting : Setting) (m : DeviceManager) (conns : List Conn) : Prop where
  coherent : Coherent m
  session : ∃ session, m.sessions.lookup setting.token = some session ∧ session.deviceId = setting.deviceId ∧
    session.ownerClientId = setting.client
  issued : ∀ conn ∈ conns, conn.grant.capability < m.nextFlag
  held : ∀ conn ∈ conns, m.valid conn.grant.capability = true →
    m.transportValidity.lookup setting.token = some conn.grant.capability
  current : ∀ f, m.transportValidity.lookup setting.token = some f → ∃ conn ∈ conns, conn.grant.capability = f
  mode : ∀ conn ∈ conns, m.transportValidity.lookup setting.token = some conn.grant.capability →
    ∃ session, m.sessions.lookup setting.token = some session ∧ session.mode = conn.started.kind.mode ∧
      conn.started.kind.generation session = conn.grant.generation

theorem DaemonOk.start (start : Start setting s) : DaemonOk setting s.mgr s.conns := by
  obtain ⟨session,found,_,device,owner⟩ := start.session
  have none := start.quiet.2.2.2.2.2.2
  refine ⟨start.coherent,⟨session,found,device,owner⟩,?_,?_,?_,?_⟩
  · rw [none]; nofun
  · rw [none]; nofun
  · intro f held
    rw [start.slot] at held
    cases held
  · rw [none]; nofun

/-- What any operation of the daemon leaves of capabilities that were issued before. -/
theorem DaemonOk.old {m m' : DeviceManager} {conns : List Conn} (ok : DaemonOk setting m conns)
    (evolves : Evolves (flags m) (flags m')) : ∀ conn ∈ conns, conn.grant.capability < m'.nextFlag ∧
      (m'.valid conn.grant.capability = true →
        m'.transportValidity.lookup setting.token = some conn.grant.capability) := by
  intro conn member
  have issued := ok.issued conn member
  refine ⟨Nat.lt_of_lt_of_le issued evolves.next,fun valid => ?_⟩
  exact evolves.stays (.transport setting.token) _ (ok.held conn member (evolves.cleared _ issued valid)) valid

/-- A change of the session's mode empties its slot. -/
theorem DaemonOk.setMode {m m' : DeviceManager} {conns : List Conn} {mode : Mode} (ok : DaemonOk setting m conns)
    (done : m.setDataplaneMode setting.deviceId setting.token (some mode) setting.client = .ok m') :
    DaemonOk setting m' conns ∧ m'.transportValidity.lookup setting.token = none ∧
      ∃ session, m'.sessions.lookup setting.token = some session ∧ session.mode = mode := by
  have quiet := setDataplaneMode_quiet ok.coherent done
  have old := ok.old (quiet.effect.evolves ok.coherent)
  obtain ⟨session,found,slots,sessions⟩ := setDataplaneMode_switches done
  have slot := slots setting.token
  have there := sessions setting.token
  rw [if_pos rfl] at slot there
  obtain ⟨session',found',device,owner⟩ := ok.session
  rw [found] at found'
  cases found'
  refine ⟨⟨quiet.effect.coherent ok.coherent,⟨_,there,device,owner⟩,fun conn member => (old conn member).1,
    fun conn member => (old conn member).2,?_,?_⟩,slot,_,there,rfl⟩
  · intro f held
    rw [slot] at held
    cases held
  · intro conn _ held
    rw [slot] at held
    cases held

/-- The daemon accepts what the bridge asks for its own session. -/
theorem DaemonOk.accepts {m : DeviceManager} {conns : List Conn} (ok : DaemonOk setting m conns) (mode : Mode) :
    ∃ m', m.setDataplaneMode setting.deviceId setting.token (some mode) setting.client = .ok m' := by
  obtain ⟨session,found,device,owner⟩ := ok.session
  have active := (ok.coherent.registry.keyed _ _ found).2
  cases done : m.setDataplaneMode setting.deviceId setting.token (some mode) setting.client with
  | ok m' => exact ⟨m',rfl⟩
  | error refused =>
    unfold DeviceManager.setDataplaneMode at done
    simp [found,active,device,owner] at done

theorem DaemonOk.connect {m m' : DeviceManager} {conns : List Conn} {started : Started} {grant : TransportGrant}
    (ok : DaemonOk setting m conns)
    (done : m.connect started.kind setting.deviceId setting.token = some (grant,m')) :
    DaemonOk setting m' (conns ++ [⟨started,grant⟩]) := by
  have quiet := connect_quiet ok.coherent done
  have evolves := quiet.effect.evolves ok.coherent
  have old := ok.old evolves
  obtain ⟨session,found,rfl,slots,sessions⟩ := connect_grants done
  have slot := slots setting.token
  have there := sessions setting.token
  rw [if_pos rfl] at slot there
  have coherent := quiet.effect.coherent ok.coherent
  have fresh : m.nextFlag < m'.nextFlag := coherent.flagsOk.granted (.transport setting.token) _ slot
  obtain ⟨session',found',device,owner⟩ := ok.session
  rw [found] at found'
  cases found'
  refine ⟨coherent,⟨_,there,?_,?_⟩,?_,?_,?_,?_⟩
  · cases started.kind <;> exact device
  · cases started.kind <;> exact owner
  · intro conn member
    rcases List.mem_append.mp member with before | new
    · exact (old conn before).1
    · cases List.mem_singleton.mp new; exact fresh
  · intro conn member valid
    rcases List.mem_append.mp member with before | new
    · exact (old conn before).2 valid
    · cases List.mem_singleton.mp new; exact slot
  · intro f held
    rw [slot] at held
    cases held
    exact ⟨_,List.mem_append_right _ (List.mem_singleton.mpr rfl),rfl⟩
  · intro conn member held
    rcases List.mem_append.mp member with before | new
    · rw [slot] at held
      have issued := ok.issued conn before
      rw [← Option.some.inj held] at issued
      exact absurd issued (Nat.lt_irrefl _)
    · cases List.mem_singleton.mp new
      refine ⟨_,there,?_,rfl⟩
      cases started.kind <;> rfl

/-- The end of a connection frees the slot when the connection holds it, and else
    changes nothing. -/
theorem DaemonOk.endConn {m : DeviceManager} {conns : List Conn} {conn : Conn} (ok : DaemonOk setting m conns)
    (member : conn ∈ conns) :
    let m' := m.disconnect conn.started.kind setting.deviceId setting.token conn.grant.generation conn.grant.capability
    DaemonOk setting m' (conns.erase conn) ∧
      (m' = m ∨ ∃ session, m'.sessions.lookup setting.token = some session ∧ session.mode = .nm) := by
  intro m'
  have kept {other : Conn} (left : other ∈ conns.erase conn) : other ∈ conns := List.mem_of_mem_erase left
  rcases disconnect_cases ok.coherent conn.started.kind setting.deviceId setting.token conn.grant.generation
    conn.grant.capability with ⟨session,counts,_⟩ | ⟨idle,same⟩
  · have quiet : Quiet m m' := disconnect_quiet ok.coherent
    have old := ok.old (quiet.effect.evolves ok.coherent)
    obtain ⟨slots,sessions⟩ := disconnect_switches counts
    have slot : m'.transportValidity.lookup setting.token = none := (slots setting.token).trans (if_pos rfl)
    have there : m'.sessions.lookup setting.token = some { session with mode := .nm } :=
      (sessions setting.token).trans (if_pos rfl)
    obtain ⟨session',found',device,owner⟩ := ok.session
    rw [counts.1] at found'
    cases found'
    refine ⟨⟨quiet.effect.coherent ok.coherent,⟨_,there,device,owner⟩,fun other left => (old other (kept left)).1,
      fun other left => (old other (kept left)).2,?_,?_⟩,.inr ⟨_,there,rfl⟩⟩
    · intro f held
      rw [slot] at held
      cases held
    · intro other _ held
      rw [slot] at held
      cases held
  · rw [show m' = m from same]
    refine ⟨⟨ok.coherent,ok.session,fun other left => ok.issued other (kept left),
      fun other left => ok.held other (kept left),?_,fun other left => ok.mode other (kept left)⟩,.inl rfl⟩
    intro f held
    obtain ⟨holder,present,holds⟩ := ok.current f held
    refine ⟨holder,(List.mem_erase_of_ne ?_).mpr present,holds⟩
    rintro rfl
    subst holds
    obtain ⟨session,found,mode,generation⟩ := ok.mode holder member held
    obtain ⟨session',found',device,_⟩ := ok.session
    rw [found] at found'
    cases found'
    refine idle ⟨session,found,?_,?_⟩
    · simp [(ok.coherent.registry.keyed _ _ found).2,device]
    · simp [generation,mode,DeviceManager.transportCapabilityCurrent,held]

/-- The other sessions leave this one alone. -/
theorem DaemonOk.other {m : DeviceManager} {conns : List Conn} {operation : Other} (ok : DaemonOk setting m conns)
    (apart : operation.token ≠ setting.token) : DaemonOk setting (operation.run m) conns ∧
      (operation.run m).transportValidity.lookup setting.token = m.transportValidity.lookup setting.token ∧
      (operation.run m).sessions.lookup setting.token = m.sessions.lookup setting.token := by
  have keep {m' : DeviceManager} (quiet : Quiet m m')
      (slot : m'.transportValidity.lookup setting.token = m.transportValidity.lookup setting.token)
      (there : m'.sessions.lookup setting.token = m.sessions.lookup setting.token) :
      DaemonOk setting m' conns ∧ m'.transportValidity.lookup setting.token = m.transportValidity.lookup setting.token ∧
        m'.sessions.lookup setting.token = m.sessions.lookup setting.token := by
    have old := ok.old (quiet.effect.evolves ok.coherent)
    refine ⟨⟨quiet.effect.coherent ok.coherent,?_,fun conn member => (old conn member).1,
      fun conn member => (old conn member).2,?_,?_⟩,slot,there⟩
    · rw [there]; exact ok.session
    · rw [slot]; exact ok.current
    · rw [slot,there]; exact ok.mode
  cases operation with
  | setMode deviceId token mode client =>
    cases done : m.setDataplaneMode deviceId token (some mode) client with
    | error refused => simp only [Other.run,done]; exact ⟨ok,trivial,trivial⟩
    | ok m' =>
      simp only [Other.run,done]
      obtain ⟨_,_,slots,sessions⟩ := setDataplaneMode_switches done
      exact keep (setDataplaneMode_quiet ok.coherent done) ((slots _).trans (if_neg (Ne.symm apart)))
        ((sessions _).trans (if_neg (Ne.symm apart)))
  | connect kind deviceId token =>
    cases done : m.connect kind deviceId token with
    | none => simp only [Other.run,done]; exact ⟨ok,trivial,trivial⟩
    | some granted =>
      obtain ⟨grant,m'⟩ := granted
      simp only [Other.run,done]
      obtain ⟨_,_,_,slots,sessions⟩ := connect_grants done
      exact keep (connect_quiet ok.coherent done) ((slots _).trans (if_neg (Ne.symm apart)))
        ((sessions _).trans (if_neg (Ne.symm apart)))
  | disconnect kind deviceId token generation capability =>
    rcases disconnect_cases ok.coherent kind deviceId token generation capability with
      ⟨session,counts,_⟩ | ⟨_,same⟩
    · obtain ⟨slots,sessions⟩ := disconnect_switches counts
      exact keep (disconnect_quiet ok.coherent) ((slots _).trans (if_neg (Ne.symm apart)))
        ((sessions _).trans (if_neg (Ne.symm apart)))
    · simp only [Other.run,same]; exact ⟨ok,trivial,trivial⟩

theorem spawnFailed_mgr (generation : Nat) : (spawnFailed s generation).mgr = s.mgr ∧
    (spawnFailed s generation).conns = s.conns := by
  unfold spawnFailed
  split <;> exact ⟨rfl,rfl⟩

theorem spawnDataPlane_mgr (kind : TransportKind) : (spawnDataPlane setting s kind).mgr = s.mgr ∧
    (spawnDataPlane setting s kind).conns = s.conns := by
  unfold spawnDataPlane
  dsimp only
  split <;> exact ⟨rfl,rfl⟩

theorem onSpawned_mgr (job : Job) (started : Bool) : (onSpawned setting s job started).mgr = s.mgr ∧
    (onSpawned setting s job started).conns = s.conns := by
  unfold onSpawned
  dsimp only
  split
  · exact spawnFailed_mgr _
  split
  · exact ⟨rfl,rfl⟩
  split <;> exact ⟨rfl,rfl⟩

/-- What a step does at the daemon: nothing, or one operation. -/
inductive Served (setting : Setting) (s s' : State) : Prop where
  | nothing (mgr : s'.mgr = s.mgr) (conns : s'.conns = s.conns)
  | setMode (request : Request) (rest : List Request) (next : s.channel = request :: rest)
      (done : s.mgr.setDataplaneMode setting.deviceId setting.token (some request.mode) setting.client = .ok s'.mgr)
      (conns : s'.conns = s.conns)
  | connect (started : Started) (grant : TransportGrant)
      (done : s.mgr.connect started.kind setting.deviceId setting.token = some (grant,s'.mgr))
      (conns : s'.conns = s.conns ++ [⟨started,grant⟩])
  | ended (conn : Conn) (member : conn ∈ s.conns)
      (mgr : s'.mgr = s.mgr.disconnect conn.started.kind setting.deviceId setting.token conn.grant.generation
        conn.grant.capability) (conns : s'.conns = s.conns.erase conn)
  | other (operation : Other) (apart : operation.token ≠ setting.token) (mgr : s'.mgr = operation.run s.mgr)
      (conns : s'.conns = s.conns)

theorem step_served (taken : step setting s e = some s') : Served setting s s' := by
  unfold step at taken
  cases e with
  | change dp => dsimp only at taken; split at taken <;> cases taken; exact .nothing rfl rfl
  | retire => dsimp only at taken; split at taken <;> cases taken; exact .nothing rfl rfl
  | respawn =>
    dsimp only at taken
    split at taken <;> cases taken
    exact .nothing (spawnDataPlane_mgr _).1 (spawnDataPlane_mgr _).2
  | spawned job ok =>
    dsimp only at taken
    split at taken <;> cases taken
    exact .nothing (onSpawned_mgr job ok).1 (onSpawned_mgr job ok).2
  | answered job conn => dsimp only at taken; split at taken <;> cases taken; exact .nothing rfl rfl
  | refused job =>
    dsimp only at taken
    split at taken <;> cases taken
    exact .nothing (spawnFailed_mgr _).1 (spawnFailed_mgr _).2
  | timedOut job =>
    dsimp only at taken
    split at taken <;> cases taken
    exact .nothing (spawnFailed_mgr _).1 (spawnFailed_mgr _).2
  | dial started => dsimp only at taken; split at taken <;> cases taken; exact .nothing rfl rfl
  | connect started =>
    dsimp only at taken
    split at taken
    · split at taken
      · cases taken; exact .nothing rfl rfl
      next grant mgr done => cases taken; exact .connect started grant done rfl
    · cases taken
  | drop started => dsimp only at taken; split at taken <;> cases taken; exact .nothing rfl rfl
  | ready conn => dsimp only at taken; split at taken <;> cases taken; exact .nothing rfl rfl
  | wire => dsimp only at taken; split at taken <;> cases taken; exact .nothing rfl rfl
  | process =>
    unfold onProcess at taken
    dsimp only at taken
    split at taken
    · cases taken
    next request rest next =>
      split at taken
      next mgr done => cases taken; exact .setMode request rest next done rfl
      · cases taken; exact .nothing rfl rfl
  | respond =>
    unfold onRespond at taken
    dsimp only at taken
    split at taken
    · cases taken
    · split at taken
      · cases taken; exact .nothing rfl rfl
      · split at taken
        · cases taken; exact .nothing rfl rfl
        · split at taken <;> cases taken <;> exact .nothing rfl rfl
  | timeout => dsimp only at taken; split at taken <;> cases taken; exact .nothing rfl rfl
  | gone conn =>
    dsimp only at taken
    split at taken <;> cases taken
    next present => exact .ended conn present.1 rfl rfl
  | fail conn =>
    dsimp only at taken
    split at taken <;> cases taken
    next present => exact .ended conn present rfl rfl
  | recover dp =>
    dsimp only at taken
    split at taken <;> cases taken
    · exact .nothing rfl rfl
    · exact .nothing (spawnDataPlane_mgr _).1 (spawnDataPlane_mgr _).2
  | other operation =>
    dsimp only at taken
    split at taken <;> cases taken
    next apart => exact .other operation apart rfl rfl

theorem DaemonOk.step (ok : DaemonOk setting s.mgr s.conns) (served : Served setting s s') :
    DaemonOk setting s'.mgr s'.conns := by
  cases served with
  | nothing mgr conns => rw [mgr,conns]; exact ok
  | setMode request rest next done conns => rw [conns]; exact (ok.setMode done).1
  | connect started grant done conns => rw [conns]; exact ok.connect done
  | ended conn member mgr conns => rw [mgr,conns]; exact (ok.endConn member).1
  | other operation apart mgr conns => rw [mgr,conns]; exact (ok.other apart).1

/-- A request of a switch revokes whatever transport the session has. -/
theorem notUndone_iff (ok : DaemonOk setting s.mgr s.conns) (taken : step setting s e = some s') :
    NotUndone s e s' ↔ BeforeConnect s e s' := by
  refine forall_congr' fun switch => forall₃_congr fun conn member newest => ?_
  obtain ⟨rfl,dp,rest,next⟩ := switch
  obtain ⟨m',done⟩ := ok.accepts dp.mode
  have result : s'.mgr = m' := by
    unfold step onProcess at taken
    simp only [next,Request.mode,done] at taken
    cases taken
    rfl
  have revoked : ¬ m'.valid conn.grant.capability = true := by
    intro valid
    obtain ⟨after,empty,_⟩ := ok.setMode done
    have held := after.held conn member valid
    rw [empty] at held
    cases held
  rw [result]
  cases before : s.mgr.valid conn.grant.capability with
  | false => simp
  | true => simpa using revoked

/-! ### The plane of a calm run -/

/-- The daemon has the session in NM mode, or a transport holds it. -/
def NmServed (setting : Setting) (m : DeviceManager) : Prop :=
  ∃ session, m.sessions.lookup setting.token = some session ∧
    (session.mode = .nm ∨ (m.transportValidity.lookup setting.token).isSome = true)

/-- The session is served by NM, and no request changes that. -/
def NmSettled (setting : Setting) (s : State) : Prop :=
  (∀ request ∈ s.channel, request.mode = .nm) ∧ NmServed setting s.mgr

/-- A transport of the newest generation is connected. -/
def Connected (s : State) : Prop := ∃ conn ∈ s.conns, conn.started ∈ s.started

/-- The daemon has yet to take a fallback of a generation, or the bridge its answer. -/
def Outstanding (s : State) (generation : Nat) : Prop :=
  .fallback generation ∈ s.channel ∨ ∃ ok, (.fallback generation,ok) ∈ s.responses

/-- No transport of the newest generation is there or on its way. -/
structure Vacant (s : State) : Prop where
  workers : s.plane.workers = none
  inPage : s.plane.inPageDevices = false
  jobs : ∀ job ∈ s.jobs, job.generation ≠ s.plane.spawnGen

/-- Of the newest generation there is a running job, a started transport or a fallback,
    and only one of them. -/
structure PlaneOk (setting : Setting) (s : State) : Prop where
  worker : ∀ generation, s.plane.workers = some generation → s.plane.inPageDevices = false
  record : s.plane.workerGenerations = s.plane.workers
  jobs : (s.jobs.map (·.generation)).Nodup
  job : ∀ job ∈ s.jobs, job.generation ≤ s.plane.spawnGen ∧ (job.generation = s.plane.spawnGen →
    s.plane.workers = none ∧ s.plane.inPageDevices = job.posted ∧ ¬ s.plane.Authoritative ∧
      ¬ Outstanding s s.plane.spawnGen)
  started : ∀ st ∈ s.started, st.generation = s.plane.spawnGen ∧
    ((s.plane.workers = some s.plane.spawnGen ∧ s.plane.deviceTransports = some st.kind) ∨
      (s.plane.workers = none ∧ s.plane.inPageDevices = true ∧ st.kind = .wt))
  retired : ∀ dp, s.task = some ⟨dp,true⟩ → Vacant s
  bounded : ∀ generation, Outstanding s generation → generation ≤ s.plane.spawnGen
  fallback : Outstanding s s.plane.spawnGen → Vacant s
  order : s.channel.Pairwise fun first later => first = .fallback s.plane.spawnGen → later.mode = .nm
  answer : (.fallback s.plane.spawnGen,true) ∈ s.responses → NmSettled setting s
  authoritative : s.plane.Authoritative →
    (s.plane.nmPlanes = true ∧ Vacant s ∧ NmSettled setting s) ∨ Connected s
  ready : s.plane.ReadyServed

theorem PlaneOk.start (start : Start setting s) : PlaneOk setting s := by
  obtain ⟨channel,responses,task,jobs,started,_,_⟩ := start.quiet
  have unserved : ¬ s.plane.Authoritative := by
    rw [start.plane]
    rintro ⟨_,found,_⟩
    cases found
  have none (generation : Nat) : ¬ Outstanding s generation := by
    rintro (member | ⟨_,member⟩)
    · rw [channel] at member; cases member
    · rw [responses] at member; cases member
  refine ⟨?_,?_,?_,?_,?_,?_,fun g sent => absurd sent (none g),fun sent => absurd sent (none _),?_,?_,
    fun served => absurd served unserved,?_⟩
  · rw [start.plane]; nofun
  · rw [start.plane]
  · rw [jobs]; exact List.nodup_nil
  · rw [jobs]; nofun
  · rw [started]; nofun
  · rw [task]; nofun
  · rw [channel]; exact List.Pairwise.nil
  · rw [responses]; nofun
  · rw [start.plane]; nofun

theorem NmServed.step (ok : DaemonOk setting s.mgr s.conns) (served : Served setting s s')
    (nm : NmServed setting s.mgr) (channel : ∀ request ∈ s.channel, request.mode = .nm) : NmServed setting s'.mgr := by
  cases served with
  | nothing mgr conns => rw [mgr]; exact nm
  | setMode request rest next done conns =>
    obtain ⟨_,_,session,found,mode⟩ := ok.setMode done
    exact ⟨session,found,.inl (mode.trans (channel request (by rw [next]; exact List.mem_cons_self)))⟩
  | connect started grant done conns =>
    obtain ⟨session,found⟩ := (ok.connect done).session
    obtain ⟨_,_,_,slots,_⟩ := connect_grants done
    exact ⟨session,found.1,.inr (by rw [slots,if_pos rfl]; rfl)⟩
  | ended conn member mgr conns =>
    rcases (ok.endConn member).2 with same | ⟨session,found,mode⟩
    · rw [mgr,same]; exact nm
    · rw [mgr]; exact ⟨session,found,.inl mode⟩
  | other operation apart mgr conns =>
    obtain ⟨_,slot,there⟩ := ok.other apart
    unfold NmServed
    rw [mgr,slot,there]
    exact nm

/-- A step that starts a new generation leaves nothing of the old one but jobs that come
    too late and requests that are older; it may start one job. -/
theorem PlaneOk.newGeneration (ok : PlaneOk setting s) (next : s'.plane.spawnGen = s.plane.spawnGen + 1)
    (workers : s'.plane.workers = none) (record : s'.plane.workerGenerations = none)
    (inPage : s'.plane.inPageDevices = false) (unserved : ¬ s'.plane.Authoritative) (ready : s'.plane.ReadyServed)
    {kept : List Job} (sub : kept.Sublist s.jobs)
    (jobs : s'.jobs = kept ∨ s'.task = none ∧ ∃ kind, s'.jobs = kept ++ [⟨s.plane.spawnGen + 1,kind,false⟩])
    (started : s'.started = []) (channel : ∀ generation,
      .fallback generation ∈ s'.channel → Request.fallback generation ∈ s.channel)
    (responses : s'.responses = s.responses) : PlaneOk setting s' := by
  have older (generation : Nat) (sent : Outstanding s' generation) : generation ≤ s.plane.spawnGen := by
    refine ok.bounded generation (sent.imp (channel generation) fun ⟨answer,member⟩ => ⟨answer,?_⟩)
    rw [← responses]; exact member
  have silent : ¬ Outstanding s' s'.plane.spawnGen := by
    intro sent
    have late := older _ sent
    omega
  have before : ∀ job ∈ kept, job.generation < s'.plane.spawnGen := by
    intro job member
    have early := (ok.job job (sub.subset member)).1
    omega
  have vacant (none : s'.jobs = kept) : Vacant s' := by
    refine ⟨workers,inPage,fun job member => ?_⟩
    rw [none] at member
    exact Nat.ne_of_lt (before job member)
  refine ⟨?_,record.trans workers.symm,?_,?_,?_,?_,fun generation sent => ?_,fun sent => absurd sent silent,?_,?_,
    fun served => absurd served unserved,ready⟩
  · rw [workers]; nofun
  · have distinct : (kept.map (·.generation)).Nodup := ok.jobs.sublist (sub.map _)
    rcases jobs with same | ⟨_,kind,more⟩
    · rw [same]; exact distinct
    · rw [more,List.map_append,List.nodup_append]
      refine ⟨distinct,List.nodup_singleton _,?_⟩
      intro old member new latest
      obtain ⟨job,present,rfl⟩ := List.mem_map.mp member
      cases List.mem_singleton.mp latest
      have early := before job present
      dsimp only
      omega
  · intro job member
    have cases : job ∈ kept ∨ job.generation = s'.plane.spawnGen ∧ job.posted = false := by
      rcases jobs with same | ⟨_,kind,more⟩
      · rw [same] at member; exact .inl member
      · rw [more] at member
        refine (List.mem_append.mp member).imp_right fun new => ?_
        cases List.mem_singleton.mp new
        exact ⟨next.symm,rfl⟩
    rcases cases with old | ⟨newest,unposted⟩
    · have early := before job old
      exact ⟨Nat.le_of_lt early,fun same => absurd same (Nat.ne_of_lt early)⟩
    · exact ⟨Nat.le_of_eq newest,fun _ => ⟨workers,by rw [inPage,unposted],unserved,silent⟩⟩
  · rw [started]; nofun
  · intro dp busy
    rcases jobs with same | ⟨idle,_⟩
    · exact vacant same
    · rw [idle] at busy; cases busy
  · have late := older generation sent
    omega
  · refine List.pairwise_of_forall_mem_list fun first member later _ fallback => ?_
    subst fallback
    exact absurd (.inl member) silent
  · intro member
    exact absurd (.inr ⟨_,member⟩) silent

/-- What the bridge has of the old generation when it retires it is gone. -/
theorem PlaneOk.stopped (ok : PlaneOk setting s) : (despawnDataPlane s).started = [] := by
  refine List.eq_nil_iff_forall_not_mem.mpr fun st member => ?_
  obtain ⟨member,apart⟩ := List.mem_filter.mp member
  obtain ⟨member,away⟩ := List.mem_filter.mp member
  obtain ⟨newest,⟨workers,_⟩ | ⟨_,inPage,_⟩⟩ := ok.started st member
  · rw [Plane.workerGeneration,workers,newest] at away
    simp at away
  · rw [inPage,newest] at apart
    simp at apart

theorem despawn_plane (p : Plane) :
    ¬ p.despawnStart.despawnEnd.Authoritative ∧ p.despawnStart.despawnEnd.ReadyServed := by
  refine ⟨?_,nofun⟩
  rintro ⟨_,found,_⟩
  cases found

theorem PlaneOk.despawn (ok : PlaneOk setting s) (task : Option Task) :
    PlaneOk setting { despawnDataPlane s with task := task } ∧ Vacant { despawnDataPlane s with task := task } := by
  have unserved := despawn_plane s.plane
  have sub : (s.jobs.filter fun job => !job.posted).Sublist s.jobs := List.filter_sublist
  refine ⟨ok.newGeneration rfl rfl rfl rfl unserved.1 unserved.2 sub (.inl rfl) ok.stopped (fun _ => id) rfl,rfl,rfl,
    ?_⟩
  intro job member same
  have early := (ok.job job (sub.subset member)).1
  have late : job.generation = s.plane.spawnGen + 1 := same
  omega

theorem PlaneOk.spawnDataPlane (ok : PlaneOk setting s) (vacant : Vacant s) (kind : TransportKind)
    {channel : List Request} (older : ∀ generation, .fallback generation ∈ channel →
      Request.fallback generation ∈ s.channel) :
    PlaneOk setting { spawnDataPlane setting s kind with task := none, channel := channel } := by
  have records : s.plane.workerGenerations = none := ok.record.trans vacant.workers
  have empty : s.started = [] := by
    refine List.eq_nil_iff_forall_not_mem.mpr fun st member => ?_
    obtain ⟨_,⟨workers,_⟩ | ⟨_,inPage,_⟩⟩ := ok.started st member
    · rw [vacant.workers] at workers; cases workers
    · rw [vacant.inPage] at inPage; cases inPage
  unfold FFWebHid.PlaneSwitches.spawnDataPlane
  dsimp only
  split
  · exact ok.newGeneration rfl vacant.workers records vacant.inPage Plane.begin_unserved Plane.begin_readyServed
      (List.Sublist.refl _) (.inr ⟨rfl,kind,rfl⟩) empty older rfl
  · have same : s.plane.beginPlaneGeneration.dropWorker = s.plane.beginPlaneGeneration := by
      refine if_neg ?_
      simp [Plane.beginPlaneGeneration,vacant.workers,records]
    rw [same]
    refine ok.newGeneration rfl vacant.workers records vacant.inPage Plane.begin_unserved Plane.begin_readyServed
      (List.Sublist.refl _) (.inr ⟨rfl,kind,rfl⟩) ?_ older rfl
    simp [terminate,empty]

theorem PlaneOk.requestFallback (ok : PlaneOk setting s) (vacant : Vacant s) :
    PlaneOk setting (requestFallback s s.plane.spawnGen) := by
  have sent (generation : Nat) (sent : Outstanding (FFWebHid.PlaneSwitches.requestFallback s s.plane.spawnGen)
      generation) : generation = s.plane.spawnGen ∨ Outstanding s generation := by
    rcases sent with member | answered
    · rcases List.mem_append.mp member with before | new
      · exact .inr (.inl before)
      · cases List.mem_singleton.mp new; exact .inl rfl
    · exact .inr (.inr answered)
  have settled (before : NmSettled setting s) :
      NmSettled setting (FFWebHid.PlaneSwitches.requestFallback s s.plane.spawnGen) := by
    refine ⟨fun request member => ?_,before.2⟩
    rcases List.mem_append.mp member with old | new
    · exact before.1 request old
    · cases List.mem_singleton.mp new; rfl
  refine ⟨ok.worker,ok.record,ok.jobs,fun job member => ⟨(ok.job job member).1,fun newest => ?_⟩,ok.started,
    fun _ _ => ⟨vacant.workers,vacant.inPage,vacant.jobs⟩,fun generation outstanding => ?_,
    fun _ => ⟨vacant.workers,vacant.inPage,vacant.jobs⟩,?_,fun member => settled (ok.answer member),fun served => ?_,
    ok.ready⟩
  · exact absurd newest (vacant.jobs job member)
  · rcases sent generation outstanding with rfl | before
    · exact Nat.le_refl _
    · exact ok.bounded generation before
  · refine List.pairwise_append.mpr ⟨ok.order,List.pairwise_singleton _ _,fun first _ later new _ => ?_⟩
    cases List.mem_singleton.mp new
    rfl
  · refine (ok.authoritative served).imp (fun ⟨nm,_,before⟩ => ?_) id
    exact ⟨nm,⟨vacant.workers,vacant.inPage,vacant.jobs⟩,settled before⟩

theorem PlaneOk.others (ok : PlaneOk setting s) {job : Job} (member : job ∈ s.jobs) :
    ∀ other ∈ s.jobs.erase job, other ∈ s.jobs ∧ other.generation ≠ job.generation := by
  intro other left
  refine ⟨List.mem_of_mem_erase left,fun same => ?_⟩
  have split := (List.perm_cons_erase member).map (·.generation)
  rw [List.map_cons] at split
  refine (List.nodup_cons.mp (split.nodup_iff.mp ok.jobs)).1 ?_
  rw [← same]
  exact List.mem_map_of_mem left

/-- A job that ends leaves the others, and nothing when it was of the newest generation. -/
theorem PlaneOk.dropJob (ok : PlaneOk setting s) (job : Job) : PlaneOk setting { s with jobs := s.jobs.erase job } := by
  have vacant (before : Vacant s) : Vacant { s with jobs := s.jobs.erase job } :=
    ⟨before.workers,before.inPage,fun other left => before.jobs other (List.mem_of_mem_erase left)⟩
  refine ⟨ok.worker,ok.record,ok.jobs.sublist (List.erase_sublist.map _),fun other left => ?_,ok.started,
    fun dp busy => vacant (ok.retired dp busy),ok.bounded,fun sent => vacant (ok.fallback sent),ok.order,ok.answer,
    fun served => ?_,ok.ready⟩
  · exact ok.job other (List.mem_of_mem_erase left)
  · exact (ok.authoritative served).imp (fun ⟨nm,before,settled⟩ => ⟨nm,vacant before,settled⟩) id

theorem PlaneOk.spawnFailed (ok : PlaneOk setting s) {job : Job} (member : job ∈ s.jobs)
    (unposted : job.posted = false) :
    PlaneOk setting (spawnFailed { s with jobs := s.jobs.erase job } job.generation) := by
  unfold FFWebHid.PlaneSwitches.spawnFailed
  dsimp only
  split
  next newest =>
    obtain ⟨workers,inPage,_,_⟩ := (ok.job job member).2 newest.symm
    rw [← newest]
    refine (ok.dropJob job).requestFallback ⟨workers,inPage.trans unposted,fun other left => ?_⟩
    exact newest ▸ (ok.others member other left).2
  · exact ok.dropJob job

/-- A transport of the newest generation takes the place of its job. -/
theorem PlaneOk.startTransport (ok : PlaneOk setting s) {job : Job} (member : job ∈ s.jobs)
    (unposted : job.posted = false) (newest : job.generation = s.plane.spawnGen) (plane : Plane) (posted : List Job)
    (spawnGen : plane.spawnGen = s.plane.spawnGen) (readiness : plane.planeReadiness = s.plane.planeReadiness)
    (ready : plane.readyGenerations = s.plane.readyGenerations) (record : plane.workerGenerations = plane.workers)
    (transport : (plane.workers = some s.plane.spawnGen ∧ plane.inPageDevices = false ∧
        plane.deviceTransports = some job.kind ∧ posted = []) ∨
      (plane.workers = none ∧ plane.inPageDevices = true ∧ job.kind = .wt ∧ posted = [{ job with posted := true }])) :
    PlaneOk setting { s with
      plane := plane
      started := s.started ++ [⟨job.generation,job.kind⟩]
      jobs := s.jobs.erase job ++ posted } := by
  obtain ⟨workers,outside,unserved,silent⟩ := (ok.job job member).2 newest
  rw [unposted] at outside
  have same : plane.Authoritative ↔ s.plane.Authoritative := by
    unfold Plane.Authoritative
    rw [readiness,spawnGen]
  have empty : s.started = [] := by
    refine List.eq_nil_iff_forall_not_mem.mpr fun st present => ?_
    obtain ⟨_,⟨busy,_⟩ | ⟨_,inPage,_⟩⟩ := ok.started st present
    · rw [workers] at busy; cases busy
    · rw [outside] at inPage; cases inPage
  have untasked (dp : TransportKind) : s.task ≠ some ⟨dp,true⟩ :=
    fun busy => (ok.retired dp busy).jobs job member newest
  have posted_generation : posted.map (·.generation) = [] ∨ posted.map (·.generation) = [job.generation] := by
    rcases transport with ⟨_,_,_,rfl⟩ | ⟨_,_,_,rfl⟩
    · exact .inl rfl
    · exact .inr rfl
  refine ⟨?_,record,?_,?_,?_,fun dp busy => absurd busy (untasked dp),?_,fun sent => ?_,?_,fun answered => ?_,
    fun served => absurd (same.mp served) unserved,fun isReady => ?_⟩
  · rcases transport with ⟨_,inPage,_⟩ | ⟨none,_⟩
    · exact fun _ _ => inPage
    · rw [none]; nofun
  · have split := (List.perm_cons_erase member).map (·.generation)
    rw [List.map_cons] at split
    obtain ⟨absent,distinct⟩ := List.nodup_cons.mp (split.nodup_iff.mp ok.jobs)
    rw [List.map_append,List.nodup_append]
    refine ⟨distinct,?_,?_⟩
    · rcases posted_generation with none | one
      · rw [none]; exact List.nodup_nil
      · rw [one]; exact List.nodup_singleton _
    · rintro old before new after rfl
      rcases posted_generation with none | one
      · rw [none] at after; cases after
      · rw [one] at after
        cases List.mem_singleton.mp after
        exact absent before
  · intro other present
    rcases List.mem_append.mp present with left | new
    · obtain ⟨before,apart⟩ := ok.others member other left
      refine ⟨spawnGen ▸ (ok.job other before).1,fun same => absurd (same.trans spawnGen) ?_⟩
      rw [← newest]
      exact apart
    · rcases transport with ⟨_,_,_,rfl⟩ | ⟨none,inPage,_,rfl⟩
      · cases new
      · cases List.mem_singleton.mp new
        refine ⟨Nat.le_of_eq (newest.trans spawnGen.symm),fun _ => ⟨none,inPage,fun served =>
          unserved (same.mp served),?_⟩⟩
        dsimp only
        rw [spawnGen]
        exact silent
  · intro st present
    dsimp only at present
    rw [empty] at present
    cases List.mem_singleton.mp present
    refine ⟨newest.trans spawnGen.symm,?_⟩
    dsimp only
    rw [spawnGen]
    rcases transport with ⟨some,_,kind,_⟩ | ⟨none,inPage,kind,_⟩
    · exact .inl ⟨some,kind⟩
    · exact .inr ⟨none,inPage,kind⟩
  · dsimp only
    rw [spawnGen]
    exact ok.bounded
  · dsimp only at sent
    rw [spawnGen] at sent
    exact absurd sent silent
  · dsimp only
    rw [spawnGen]
    exact ok.order
  · dsimp only at answered
    rw [spawnGen] at answered
    exact absurd (.inr ⟨_,answered⟩) silent
  · dsimp only at isReady
    rw [ready,spawnGen] at isReady
    exact same.mpr (ok.ready isReady)

theorem PlaneOk.idle (ok : PlaneOk setting s) (vacant : Vacant s) : s.started = [] := by
  refine List.eq_nil_iff_forall_not_mem.mpr fun st present => ?_
  obtain ⟨_,⟨workers,_⟩ | ⟨_,inPage,_⟩⟩ := ok.started st present
  · rw [vacant.workers] at workers; cases workers
  · rw [vacant.inPage] at inPage; cases inPage

/-- Where only prerequisites of the plane were met, and something vouches for the newest
    generation when the daemon is said to serve it. -/
theorem PlaneOk.mark (ok : PlaneOk setting s) {plane : Plane} (spawnGen : plane.spawnGen = s.plane.spawnGen)
    (workers : plane.workers = s.plane.workers) (record : plane.workerGenerations = s.plane.workerGenerations)
    (inPage : plane.inPageDevices = s.plane.inPageDevices)
    (transports : s.started = [] ∨ plane.deviceTransports = s.plane.deviceTransports) (ready : plane.ReadyServed)
    (served : plane.Authoritative → (plane.nmPlanes = true ∧ Vacant s ∧ NmSettled setting s) ∨ Connected s)
    (unserved : plane.Authoritative → ∀ job ∈ s.jobs, job.generation ≠ s.plane.spawnGen) :
    PlaneOk setting { s with plane := plane } := by
  have vacant (before : Vacant s) : Vacant { s with plane := plane } :=
    ⟨workers.trans before.workers,inPage.trans before.inPage,fun job member same =>
      before.jobs job member (same.trans spawnGen)⟩
  refine ⟨?_,?_,ok.jobs,fun job member => ?_,fun st member => ?_,fun dp busy => vacant (ok.retired dp busy),?_,
    fun sent => ?_,?_,fun answered => ?_,fun authoritative => ?_,ready⟩
  · dsimp only
    rw [workers,inPage]
    exact ok.worker
  · dsimp only
    rw [workers,record]
    exact ok.record
  · dsimp only
    rw [spawnGen,workers,inPage]
    obtain ⟨bound,newest⟩ := ok.job job member
    refine ⟨bound,fun same => ?_⟩
    obtain ⟨none,posted,_,silent⟩ := newest same
    exact ⟨none,posted,fun authoritative => unserved authoritative job member same,silent⟩
  · dsimp only
    rcases transports with none | same
    · rw [none] at member; cases member
    · rw [spawnGen,workers,same,inPage]; exact ok.started st member
  · dsimp only
    rw [spawnGen]
    exact ok.bounded
  · dsimp only at sent
    rw [spawnGen] at sent
    exact vacant (ok.fallback sent)
  · dsimp only
    rw [spawnGen]
    exact ok.order
  · dsimp only at answered
    rw [spawnGen] at answered
    exact ok.answer answered
  · exact (served authoritative).imp (fun ⟨nm,quiet,settled⟩ => ⟨nm,vacant quiet,settled⟩) id

/-- The same where the plane is otherwise as it was. -/
theorem PlaneOk.marked (ok : PlaneOk setting s) {plane : Plane} (same : Plane.SameBut s.plane plane)
    (ready : plane.ReadyServed) (served : plane.Authoritative → s.plane.Authoritative ∨ Connected s)
    (unserved : plane.Authoritative → ∀ job ∈ s.jobs, job.generation ≠ s.plane.spawnGen) :
    PlaneOk setting { s with plane := plane } := by
  refine ok.mark same.spawnGen same.workers same.workerGenerations same.inPageDevices (.inr same.deviceTransports) ready
    (fun authoritative => ?_) unserved
  rcases served authoritative with before | connected
  · rw [same.nmPlanes]; exact ok.authoritative before
  · exact .inr connected

/-- A job of the newest generation runs only while the daemon does not serve it. -/
theorem PlaneOk.unserved (ok : PlaneOk setting s) (served : s.plane.Authoritative) :
    ∀ job ∈ s.jobs, job.generation ≠ s.plane.spawnGen :=
  fun job member newest => ((ok.job job member).2 newest).2.2.1 served

/-- The bridge takes answers in turn. -/
theorem PlaneOk.dropResponse (ok : PlaneOk setting s) {responses : List (Request × Bool)}
    (sub : ∀ answer ∈ responses, answer ∈ s.responses) : PlaneOk setting { s with responses := responses } := by
  have sent (generation : Nat) (sent : Outstanding { s with responses := responses } generation) :
      Outstanding s generation := sent.imp id fun ⟨answer,member⟩ => ⟨answer,sub _ member⟩
  refine ⟨ok.worker,ok.record,ok.jobs,fun job member => ?_,ok.started,
    fun dp busy => ⟨(ok.retired dp busy).workers,(ok.retired dp busy).inPage,(ok.retired dp busy).jobs⟩,
    fun generation outstanding => ok.bounded generation (sent generation outstanding),fun outstanding => ?_,ok.order,
    fun answered => ok.answer (sub _ answered),fun served => ?_,ok.ready⟩
  · obtain ⟨bound,newest⟩ := ok.job job member
    refine ⟨bound,fun same => ?_⟩
    obtain ⟨workers,posted,unserved,silent⟩ := newest same
    exact ⟨workers,posted,unserved,fun outstanding => silent (sent _ outstanding)⟩
  · have vacant := ok.fallback (sent _ outstanding)
    exact ⟨vacant.workers,vacant.inPage,vacant.jobs⟩
  · exact (ok.authoritative served).imp
      (fun ⟨nm,vacant,settled⟩ => ⟨nm,⟨vacant.workers,vacant.inPage,vacant.jobs⟩,settled⟩) id

/-- The daemon's answer to a fallback of the newest generation settles the plane on NM. -/
theorem PlaneOk.addNm (ok : PlaneOk setting s) (vacant : Vacant s) (settled : NmSettled setting s) :
    PlaneOk setting { s with plane := s.plane.addNm s.plane.spawnGen } := by
  have same := Plane.mark_same (p := { s.plane with nmPlanes := true, deviceTransports := none }) s.plane.spawnGen
    .authoritative
  have before : Plane.ReadyServed { s.plane with nmPlanes := true, deviceTransports := none } := ok.ready
  exact ok.mark same.spawnGen same.workers same.workerGenerations same.inPageDevices (.inl (ok.idle vacant))
    (before.mark _ _) (fun _ => .inl ⟨same.nmPlanes,vacant,settled⟩) fun _ => vacant.jobs

/-- What the daemon does leaves the plane as it is. -/
theorem PlaneOk.served (ok : PlaneOk setting s) (daemon : DaemonOk setting s.mgr s.conns) (served : Served setting s s')
    (plane : s'.plane = s.plane) (jobs : s'.jobs = s.jobs) (started : s'.started = s.started)
    (task : ∀ dp, s'.task = some ⟨dp,true⟩ → s.task = some ⟨dp,true⟩) (channel : s'.channel.Sublist s.channel)
    (sent : ∀ generation, Outstanding s' generation → Outstanding s generation)
    (conns : ∀ conn ∈ s.conns, conn.started ∈ s.started → conn ∈ s'.conns)
    (answered : (.fallback s.plane.spawnGen,true) ∈ s'.responses →
      (.fallback s.plane.spawnGen,true) ∈ s.responses ∨ NmSettled setting s') : PlaneOk setting s' := by
  have vacant (before : Vacant s) : Vacant s' := by
    refine ⟨plane ▸ before.workers,plane ▸ before.inPage,?_⟩
    rw [jobs,plane]
    exact before.jobs
  have settled (before : NmSettled setting s) : NmSettled setting s' :=
    ⟨fun request member => before.1 request (channel.subset member),before.2.step daemon served before.1⟩
  refine ⟨?_,?_,?_,fun job member => ?_,?_,fun dp busy => ?_,?_,fun outstanding => ?_,?_,fun answer => ?_,
    fun authoritative => ?_,?_⟩
  · rw [plane]; exact ok.worker
  · rw [plane]; exact ok.record
  · rw [jobs]; exact ok.jobs
  · rw [jobs] at member
    rw [plane]
    obtain ⟨bound,newest⟩ := ok.job job member
    refine ⟨bound,fun same => ?_⟩
    obtain ⟨workers,posted,unserved,silent⟩ := newest same
    exact ⟨workers,posted,unserved,fun outstanding => silent (sent _ outstanding)⟩
  · rw [started,plane]; exact ok.started
  · exact vacant (ok.retired dp (task dp busy))
  · rw [plane]; exact fun generation outstanding => ok.bounded generation (sent generation outstanding)
  · rw [plane] at outstanding; exact vacant (ok.fallback (sent _ outstanding))
  · rw [plane]; exact ok.order.sublist channel
  · rw [plane] at answer
    exact (answered answer).elim (fun before => settled (ok.answer before)) id
  · rw [plane] at authoritative
    refine (ok.authoritative authoritative).imp (fun ⟨nm,before,quiet⟩ => ?_) fun ⟨conn,member,runs⟩ => ?_
    · exact ⟨plane ▸ nm,vacant before,settled quiet⟩
    · exact ⟨conn,conns conn member runs,started ▸ runs⟩
  · rw [plane]; exact ok.ready

theorem PlaneOk.step (ok : PlaneOk setting s) (daemon : DaemonOk setting s.mgr s.conns)
    (calm : calm setting s e = true) (taken : step setting s e = some s') : PlaneOk setting s' := by
  have served := step_served taken
  unfold FFWebHid.PlaneSwitches.step at taken
  cases e with
  | change dp =>
    dsimp only at taken
    split at taken <;> cases taken
    exact ok.served daemon served rfl rfl rfl nofun (List.Sublist.refl _) (fun _ => id) (fun _ member _ => member)
      fun answer => .inl answer
  | retire =>
    dsimp only at taken
    split at taken <;> cases taken
    exact (ok.despawn _).1
  | respawn =>
    dsimp only at taken
    split at taken <;> cases taken
    next dp busy =>
      refine ok.spawnDataPlane (ok.retired dp busy) _ fun generation member => ?_
      exact (List.mem_append.mp member).elim id fun new => by cases List.mem_singleton.mp new
  | spawned job started =>
    dsimp only at taken
    split at taken <;> cases taken
    next present =>
      obtain ⟨member,unposted⟩ := present
      unfold onSpawned
      dsimp only
      cases started with
      | false => exact ok.spawnFailed member unposted
      | true =>
        rw [if_neg (by simp)]
        split
        next page =>
          have newest : s.plane.spawnGen = job.generation := by
            simpa [FFWebHid.PlaneSwitches.calm,page] using calm
          have kind : job.kind = .wt := by
            unfold inPage at page
            simpa using ((Bool.and_eq_true _ _).mp page).2
          refine ok.startTransport member unposted newest.symm _ _ rfl rfl rfl ok.record (.inr ⟨?_,rfl,kind,rfl⟩)
          exact ((ok.job job member).2 newest.symm).1
        · split
          next newest =>
            have outside := ((ok.job job member).2 newest.symm).2.1
            have whole := ok.startTransport member unposted newest.symm (s.plane.addWorker job.generation job.kind) []
              rfl rfl rfl rfl (.inl ⟨congrArg some newest.symm,outside.trans unposted,rfl,rfl⟩)
            rw [List.append_nil] at whole
            exact whole
          · exact ok.dropJob job
  | answered job conn =>
    dsimp only at taken
    split at taken <;> cases taken
    next present =>
      obtain ⟨member,posted,connected,runs,same⟩ := present
      have newest : job.generation = s.plane.spawnGen := same.symm.trans (ok.started _ runs).1
      rw [newest]
      refine (ok.dropJob job).marked (Plane.ready_same _) (ok.ready.ready _) (fun _ => .inr ⟨conn,connected,runs⟩)
        fun _ other left => ?_
      rw [← newest]
      exact (ok.others member other left).2
  | refused job => cases calm
  | timedOut job => cases calm
  | dial st =>
    dsimp only at taken
    split at taken <;> cases taken
    exact ok.served daemon served rfl rfl rfl (fun _ => id) (List.Sublist.refl _) (fun _ => id)
      (fun _ member _ => member) fun answer => .inl answer
  | drop st =>
    dsimp only at taken
    split at taken <;> cases taken
    exact ok.served daemon served rfl rfl rfl (fun _ => id) (List.Sublist.refl _) (fun _ => id)
      (fun _ member _ => member) fun answer => .inl answer
  | connect st =>
    dsimp only at taken
    split at taken
    · split at taken <;> cases taken
      · exact ok.served daemon served rfl rfl rfl (fun _ => id) (List.Sublist.refl _) (fun _ => id)
          (fun _ member _ => member) fun answer => .inl answer
      · exact ok.served daemon served rfl rfl rfl (fun _ => id) (List.Sublist.refl _) (fun _ => id)
          (fun _ member _ => List.mem_append_left _ member) fun answer => .inl answer
    · cases taken
  | ready conn =>
    dsimp only at taken
    split at taken <;> cases taken
    next present =>
      obtain ⟨connected,runs,worker⟩ := present
      have newest := (ok.started _ runs).1
      rw [newest] at worker ⊢
      refine ok.marked (Plane.ready_same _) (ok.ready.ready _) (fun _ => .inr ⟨conn,connected,runs⟩)
        fun _ job member same => ?_
      have none := ((ok.job job member).2 same).1
      rw [worker] at none
      cases none
  | wire =>
    dsimp only at taken
    split at taken <;> cases taken
    exact ok.marked (Plane.mark_same _ _) (ok.ready.mark _ _)
      (fun served => .inl (Plane.authoritative_localPort served))
      fun served => ok.unserved (Plane.authoritative_localPort served)
  | process =>
    dsimp only at taken
    unfold onProcess at taken
    cases next : s.channel with
    | nil => rw [next] at taken; cases taken
    | cons request rest =>
      obtain ⟨mgr,done⟩ := daemon.accepts request.mode
      rw [next] at taken
      simp only [done] at taken
      cases taken
      refine ok.served daemon served rfl rfl rfl (fun _ => id) ?_ (fun generation sent => ?_)
        (fun _ member _ => member) fun answer => ?_
      · rw [next]; exact List.sublist_cons_self _ _
      · rcases sent with later | ⟨answer,member⟩
        · exact .inl (by rw [next]; exact List.mem_cons_of_mem _ later)
        · rcases List.mem_append.mp member with before | new
          · exact .inr ⟨answer,before⟩
          · cases List.mem_singleton.mp new
            exact .inl (by rw [next]; exact List.mem_cons_self)
      · rcases List.mem_append.mp answer with before | new
        · exact .inl before
        · have order := ok.order
          rw [next] at order
          cases List.mem_singleton.mp new
          obtain ⟨_,_,session,found,mode⟩ := daemon.setMode done
          exact .inr ⟨fun later member => (List.pairwise_cons.mp order).1 later member rfl,session,found,.inl mode⟩
  | respond =>
    dsimp only at taken
    unfold onRespond at taken
    cases next : s.responses with
    | nil => rw [next] at taken; cases taken
    | cons answer rest =>
      obtain ⟨request,accepted⟩ := answer
      have dropped : PlaneOk setting { s with responses := rest } :=
        ok.dropResponse fun answer member => by rw [next]; exact List.mem_cons_of_mem _ member
      rw [next] at taken
      cases request with
      | switch dp => cases taken; exact dropped
      | fallback generation =>
        dsimp only at taken
        split at taken
        · cases taken; exact dropped
        next newest =>
          have same := not_ne_iff.mp newest
          subst same
          cases accepted with
          | false => cases taken; exact (dropped.despawn _).1
          | true =>
            cases taken
            have sent : Outstanding s s.plane.spawnGen := .inr ⟨true,by rw [next]; exact List.mem_cons_self⟩
            have vacant := ok.fallback sent
            exact dropped.addNm ⟨vacant.workers,vacant.inPage,vacant.jobs⟩
              (ok.answer (by rw [next]; exact List.mem_cons_self))
  | timeout =>
    dsimp only at taken
    split at taken <;> cases taken
    obtain ⟨retired,vacant⟩ := ok.despawn s.task
    exact retired.requestFallback vacant
  | gone conn =>
    dsimp only at taken
    split at taken <;> cases taken
    next present =>
      refine ok.served daemon served rfl rfl rfl (fun _ => id) (List.Sublist.refl _) (fun _ => id)
        (fun other member runs => (List.mem_erase_of_ne ?_).mpr member) fun answer => .inl answer
      rintro rfl
      exact present.2 runs
  | fail conn => cases calm
  | recover dp => cases calm
  | other operation =>
    dsimp only at taken
    split at taken <;> cases taken
    exact ok.served daemon served rfl rfl rfl (fun _ => id) (List.Sublist.refl _) (fun _ => id)
      (fun _ member _ => member) fun answer => .inl answer

/-- In a settled state the daemon has the session in the mode of the plane that is ready. -/
theorem PlaneOk.settled (ok : PlaneOk setting s) (daemon : DaemonOk setting s.mgr s.conns) (settled : Settled s)
    {mode : Mode} (reported : s.plane.reported = some mode) :
    ∃ session, s.mgr.sessions.lookup setting.token = some session ∧ session.mode = mode := by
  unfold Plane.reported at reported
  split at reported
  next ready =>
    rcases ok.authoritative (ok.ready ready) with ⟨nm,vacant,_,session,found,served⟩ | ⟨conn,member,runs⟩
    · rw [if_neg (by rw [vacant.workers]; nofun),if_neg (by rw [vacant.inPage]; nofun),if_pos nm] at reported
      cases reported
      refine ⟨session,found,served.resolve_right fun held => ?_⟩
      obtain ⟨f,held⟩ := Option.isSome_iff_exists.mp held
      obtain ⟨conn,member,_⟩ := daemon.current f held
      have runs := (settled.conns conn member).1
      rw [ok.idle vacant] at runs
      cases runs
    · obtain ⟨session,found,same,_⟩ := daemon.mode conn member
        (daemon.held conn member (settled.conns conn member).2)
      refine ⟨session,found,same.trans ?_⟩
      obtain ⟨_,⟨workers,kind⟩ | ⟨none,inPage,kind⟩⟩ := ok.started _ runs
      · rw [if_pos workers,kind] at reported
        exact Option.some.inj reported
      · rw [if_neg (by rw [none]; nofun),if_pos inPage] at reported
        rw [kind]
        exact Option.some.inj reported
  · cases reported

/-- A switch does not undo itself exactly when the daemon takes its request before the
    new transport connects; and when everything is done and no transport has failed, the
    daemon has the session in the mode of the plane that the bridge holds ready. -/
theorem live_switch {trace : List Event} (start : Start setting s) (run : exec (step setting) s trace = some s') :
    (AllSteps (step setting) NotUndone s trace ↔ AllSteps (step setting) BeforeConnect s trace) ∧
      (AllSteps (step setting) (fun s e _ => calm setting s e = true) s trace → Settled s' →
        ∀ mode, s'.plane.reported = some mode →
          ∃ session, s'.mgr.sessions.lookup setting.token = some session ∧ session.mode = mode) := by
  refine ⟨?_,fun calm settled mode reported => ?_⟩
  · exact allSteps_congr (I := fun s => DaemonOk setting s.mgr s.conns)
      (fun _ _ _ ok taken => ok.step (step_served taken)) (fun _ _ _ ok taken => notUndone_iff ok taken) (.start start)
  · obtain ⟨daemon,plane⟩ := exec_invariant_under
      (I := fun s => DaemonOk setting s.mgr s.conns ∧ PlaneOk setting s)
      (fun s e s' ok taken quiet => ⟨ok.1.step (step_served taken),ok.2.step ok.1 quiet taken⟩)
      ⟨.start start,.start start⟩ run calm
    exact plane.settled daemon settled reported

end

/-- A device that a client has opened. -/
def opened : DeviceManager :=
  ((exec (Threads.step Safety.vendorDaemon) {} (Safety.connecting 1 ++ Safety.openingFirst 1 Safety.tokenA)).map
    (·.mgr)).getD {}

def vendorSession : Setting := ⟨1,7,Safety.tokenA,true,true⟩

theorem opened_starts : Start vendorSession { mgr := opened } := by
  obtain ⟨w,run⟩ := Option.isSome_iff_exists.mp (by decide : (exec (Threads.step Safety.vendorDaemon) {}
    (Safety.connecting 1 ++ Safety.openingFirst 1 Safety.tokenA)).isSome = true)
  have same : opened = w.mgr := by
    unfold opened
    rw [run]
    rfl
  have facts : ((opened.sessions.lookup Safety.tokenA).map fun s => (s.mode,s.deviceId,s.ownerClientId)) =
      some (.nm,7,1) := by decide
  obtain ⟨session,found,values⟩ := Option.map_eq_some_iff.mp facts
  simp only [Prod.mk.injEq] at values
  exact ⟨by dsimp only; rw [same]; exact (Safety.reachable_ok ⟨_,run⟩).coherent,
    ⟨session,found,values.1,values.2.1,values.2.2⟩,by decide,rfl,rfl,rfl,rfl,rfl,rfl,rfl,rfl⟩

/-- The bridge switches the session to WebSocket, and its worker is up. -/
def switchToWs : List Event :=
  [.change .ws,.retire,.respawn,.spawned ⟨2,.ws,false⟩ true,.dial ⟨2,.ws⟩]

/-- The worker connects while the request of the switch is on its way, and the request
    revokes it. -/
theorem switch_undoes_itself : ∃ s s' : State,
    exec (step vendorSession) { mgr := opened } (switchToWs ++ [.connect ⟨2,.ws⟩]) = some s ∧
    step vendorSession s .process = some s' ∧ ¬ NotUndone s .process s' := by
  obtain ⟨s,run⟩ := Option.isSome_iff_exists.mp (by decide : (exec (step vendorSession) { mgr := opened }
    (switchToWs ++ [.connect ⟨2,.ws⟩])).isSome = true)
  have facts : (exec (step vendorSession) { mgr := opened } (switchToWs ++ [.connect ⟨2,.ws⟩])).map (fun s =>
      (s.channel,s.conns.map (fun conn => (conn.started.generation,s.mgr.valid conn.grant.capability)),
        s.plane.spawnGen)) = some ([.switch .ws],[(2,true)],2) := by decide
  have enabled : ((exec (step vendorSession) { mgr := opened } (switchToWs ++ [.connect ⟨2,.ws⟩])).bind fun s =>
      step vendorSession s .process).isSome = true := by decide
  rw [run] at facts enabled
  simp only [Option.map_some,Option.some.injEq,Prod.mk.injEq] at facts
  obtain ⟨channel,conns,newest⟩ := facts
  obtain ⟨s',taken⟩ : ∃ s', step vendorSession s .process = some s' := Option.isSome_iff_exists.mp enabled
  refine ⟨s,s',run,taken,fun kept => ?_⟩
  have daemon : DaemonOk vendorSession s.mgr s.conns :=
    exec_invariant (I := fun s => DaemonOk vendorSession s.mgr s.conns)
      (fun _ _ _ ok taken => ok.step (step_served taken)) (.start opened_starts) run
  have before := (notUndone_iff daemon taken).mp kept ⟨rfl,.ws,[],channel⟩
  obtain ⟨conn,member,values⟩ : ∃ conn ∈ s.conns,
      (conn.started.generation,s.mgr.valid conn.grant.capability) = (2,true) :=
    List.mem_map.mp (by rw [conns]; exact List.mem_singleton.mpr rfl)
  simp only [Prod.mk.injEq] at values
  have cleared := before conn member (values.1.trans newest.symm)
  rw [values.2] at cleared
  cases cleared

/-- No transport is connected when the daemon takes a request. -/
def unconnected (s : State) : Event → Bool
  | .process => s.conns.isEmpty
  | _ => true

/-- The request comes first, and the switch ends in WebSocket mode on both sides. -/
theorem live_switch_ws : ∃ s' session,
    exec (step vendorSession) { mgr := opened } (switchToWs ++
      [.process,.respond,.connect ⟨2,.ws⟩,.ready ⟨⟨2,.ws⟩,⟨1,1⟩⟩]) = some s' ∧ s'.plane.reported = some .ws ∧
    AllSteps (step vendorSession) NotUndone { mgr := opened } (switchToWs ++
      [.process,.respond,.connect ⟨2,.ws⟩,.ready ⟨⟨2,.ws⟩,⟨1,1⟩⟩]) ∧
    s'.mgr.sessions.lookup Safety.tokenA = some session ∧ session.mode = .ws := by
  obtain ⟨s',run⟩ := Option.isSome_iff_exists.mp (by decide : (exec (step vendorSession) { mgr := opened }
    (switchToWs ++ [.process,.respond,.connect ⟨2,.ws⟩,.ready ⟨⟨2,.ws⟩,⟨1,1⟩⟩])).isSome = true)
  have facts : (exec (step vendorSession) { mgr := opened } (switchToWs ++
      [.process,.respond,.connect ⟨2,.ws⟩,.ready ⟨⟨2,.ws⟩,⟨1,1⟩⟩])).map (fun s => (s.plane.reported,s.started,
        s.conns,s.mgr.valid 1)) = some (some .ws,[⟨2,.ws⟩],[⟨⟨2,.ws⟩,⟨1,1⟩⟩],true) := by decide
  have idle : (exec (step vendorSession) { mgr := opened } (switchToWs ++
      [.process,.respond,.connect ⟨2,.ws⟩,.ready ⟨⟨2,.ws⟩,⟨1,1⟩⟩])).map (fun s =>
        s.channel.isEmpty && s.responses.isEmpty && s.task.isNone && s.jobs.isEmpty && s.dialing.isEmpty) =
      some true := by decide
  rw [run] at facts idle
  simp only [Option.map_some,Option.some.injEq,Prod.mk.injEq,Bool.and_eq_true,List.isEmpty_iff,
    Option.isNone_iff_eq_none,and_assoc] at facts idle
  obtain ⟨reported,started,conns,valid⟩ := facts
  obtain ⟨undone,modes⟩ := live_switch opened_starts run
  have early : checkAll (step vendorSession) unconnected { mgr := opened } (switchToWs ++
      [.process,.respond,.connect ⟨2,.ws⟩,.ready ⟨⟨2,.ws⟩,⟨1,1⟩⟩]) = true := by decide
  have before : AllSteps (step vendorSession) BeforeConnect { mgr := opened } (switchToWs ++
      [.process,.respond,.connect ⟨2,.ws⟩,.ready ⟨⟨2,.ws⟩,⟨1,1⟩⟩]) := by
    refine allSteps_mono (I := fun _ => True) (fun _ _ _ _ _ => trivial) (fun s e _ _ _ none => ?_) trivial
      (allSteps_of_checkAll early)
    rintro ⟨rfl,_⟩ conn member
    rw [List.isEmpty_iff.mp none] at member
    cases member
  have settled : Settled s' := by
    refine ⟨idle,fun conn member => ?_⟩
    rw [conns] at member
    cases List.mem_singleton.mp member
    exact ⟨by rw [started]; exact List.mem_singleton.mpr rfl,valid⟩
  obtain ⟨session,found,mode⟩ := modes (allSteps_of_checkAll (by decide)) settled .ws reported
  exact ⟨s',session,run,reported,undone.mpr before,found,mode⟩

end FFWebHid.PlaneSwitches
