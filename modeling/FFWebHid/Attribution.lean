import FFWebHid.Maps
import FFWebHid.Runs
import FFWebHid.StateOps

/-!
How a bridge knows whom a request is from. The port of a request is kept under the
request's identifier, which the page chose; the answer, and the origin of the grant
that a picker ends in, are looked up there when they are due. By then another reply
may have used the entry, another port may have taken it, or its frame may be gone,
and without an entry the origin is that of the top-level page.

A request that is answered once is open to any answer; only what a request for a
device does on the way is told apart. What the requests ask for is left out.
-/
namespace FFWebHid.Attribution
open FFWebHid.Maps FFWebHid.Runs FFWebHid.StateOps

abbrev PortId := Nat

abbrev RequestId := Nat

/-- Ports are numbered as they come, frames by their generation. -/
structure FrameContext where
  generation : Nat
  origin : Origin
  deriving DecidableEq, Repr

inductive ClientKey where
  | window
  | worker (n : Nat)
  deriving DecidableEq, Repr

inductive RequestAction where
  | workerPort (transferred : Bool)
  | workerClientDestroyed (clientKey : ClientKey)
  | dataPort
  | requestDevice
  | other
  deriving DecidableEq, Repr

/-- The identifier is `none` where the page set it to `null`. The port that the request
    came on and the context of that port are ghosts. -/
structure Request where
  id : Option RequestId
  port : PortId
  frame : Option FrameContext
  deriving DecidableEq, Repr

/-- What the handler of a request waits for: the answer that it will pass on, the
    settings of its origin, the result of the picker in a window or in the page, or
    the grants it has sent. -/
inductive Stage where
  | working
  | settings
  | picker
  | modal
  | granting (origin : Option Origin) (devices : List DeviceId)
  deriving DecidableEq, Repr

inductive GrantMessage where
  | pairDevice (deviceId : DeviceId)
  | recordGrantGroup (deviceIds : List DeviceId)
  deriving DecidableEq, Repr

/-- `posted` are the replies with the ports that they were posted to, `granted` the
    grants that were sent with their origins, both with the requests that they are for. -/
structure Bridge where
  nextPort : PortId := 0
  nextFrameGeneration : Nat := 0
  frameContextByPort : HashMap PortId FrameContext := ∅
  clientKeysByPort : HashMap PortId ClientKey := ∅
  portOrigin : HashMap PortId Origin := ∅
  requestPortMap : HashMap RequestId PortId := ∅
  leaving : List PortId := []
  nextSerial : Nat := 0
  pending : HashMap Nat (Request × Stage) := ∅
  posted : List (Request × PortId) := []
  granted : List (Request × Option Origin × GrantMessage) := []

namespace Bridge
variable (top : Origin) (s : Bridge)

def acceptBootstrapPort (origin : Origin) : Bridge :=
  { s with
    nextPort := s.nextPort + 1
    nextFrameGeneration := s.nextFrameGeneration + 1
    frameContextByPort := s.frameContextByPort.insert s.nextPort ⟨s.nextFrameGeneration + 1,origin⟩
    clientKeysByPort := s.clientKeysByPort.insert s.nextPort .window
    portOrigin := s.portOrigin.insert s.nextPort origin }

/-- The bookkeeping of `handleWorkerPortRequest`. -/
def addWorkerPort (context : FrameContext) : Bridge :=
  { s with
    nextPort := s.nextPort + 1
    nextFrameGeneration := s.nextFrameGeneration + 1
    frameContextByPort := s.frameContextByPort.insert s.nextPort context
    clientKeysByPort := s.clientKeysByPort.insert s.nextPort (.worker (s.nextFrameGeneration + 1))
    portOrigin := s.portOrigin.insert s.nextPort context.origin }

def forgetPorts (gone : PortId → Bool) : Bridge :=
  { s with
    frameContextByPort := retain s.frameContextByPort fun port _ => !gone port
    clientKeysByPort := retain s.clientKeysByPort fun port _ => !gone port
    portOrigin := retain s.portOrigin fun port _ => !gone port
    requestPortMap := retain s.requestPortMap fun _ port => !gone port }

/-- `destroyFrameContext` up to its first `await`: the ports of the page and its workers. -/
def destroyFrameContext (generation : Nat) : Bridge :=
  s.forgetPorts fun port => (s.frameContextByPort.lookup port).any fun context => context.generation == generation

/-- The port of a client of the frame. -/
def workerPortOf (context : FrameContext) (clientKey : ClientKey) : Option PortId :=
  (s.clientKeysByPort.entries.find? fun entry =>
    entry.2 == clientKey && s.frameContextByPort.lookup entry.1 == some context).map (·.1)

/-- `replyToPage`. -/
def replyToPage (request : Request) : Bridge :=
  match request.id with
  | none => s
  | some id =>
    match s.requestPortMap.lookup id with
    | none => s
    | some port =>
      { s with requestPortMap := s.requestPortMap.erase id, posted := (request,port) :: s.posted }

def getRequestOrigin (id : Option RequestId) : Option Origin :=
  match id.bind s.requestPortMap.lookup with
  | some port => s.portOrigin.lookup port
  | none => some top

def await (request : Request) (stage : Stage) : Bridge :=
  { s with nextSerial := s.nextSerial + 1, pending := s.pending.insert s.nextSerial (request,stage) }

def proceed (n : Nat) (request : Request) (stage : Stage) : Bridge :=
  { s with pending := s.pending.insert n (request,stage) }

def finish (n : Nat) (request : Request) : Bridge := { s with pending := s.pending.erase n }.replyToPage request

def handleRequest (request : Request) : RequestAction → Bridge
  | .workerPort transferred =>
    match request.frame with
    | none => s
    | some context =>
      if transferred then
        let s := s.addWorkerPort context
        { s with posted := (request,request.port) :: s.posted }
      else s
  | .workerClientDestroyed clientKey =>
    -- The code hands it the list of ports for the port of the request, and it finds no
    -- context: it never gets beyond `none`. What its body does is among the runs all the same.
    match request.frame.bind fun context => s.workerPortOf context clientKey with
    | none => s
    | some port => { s with leaving := port :: s.leaving }
  | .dataPort =>
    match request.id with
    | none => s
    | some id => { s with requestPortMap := s.requestPortMap.erase id }
  | .requestDevice => s.await request .settings
  | .other => s.await request .working

def dispatchPortMessage (port : PortId) (id : Option RequestId) (action : RequestAction) : Bridge :=
  let s := match id with
    | none => s
    | some id => { s with requestPortMap := s.requestPortMap.insert id port }
  s.handleRequest ⟨id,port,s.frameContextByPort.lookup port⟩ action

/-- `grantSelectedDevices` up to its first `await`. -/
def grantSelectedDevices (n : Nat) (request : Request) (devices : List DeviceId) : Bridge :=
  let origin := s.getRequestOrigin top request.id
  { s with granted := devices.map (fun d => (request,origin,GrantMessage.pairDevice d)) ++ s.granted }.proceed n request
    (.granting origin devices)

/-- The rest of it: the group of several devices is recorded, and the reply can come. -/
def recordGrantGroup (n : Nat) (request : Request) (origin : Option Origin) (devices : List DeviceId) : Bridge :=
  let s := if 1 < devices.length then
      { s with granted := (request,origin,.recordGrantGroup devices) :: s.granted }
    else s
  s.proceed n request .working

end Bridge

/-- `pickerResult` is a result that names the identifier of the request, and reaches its
    listener; without devices it is a cancellation. -/
inductive Event where
  | bootstrap (origin : Origin)
  | post (port : PortId) (id : Option RequestId) (action : RequestAction)
  | settingsLoaded (n : Nat) (inPage : Bool)
  | pickerResult (n : Nat) (devices : Option (List DeviceId))
  | pickerTimeout (n : Nat)
  | modalResult (n : Nat) (devices : List DeviceId)
  | granted (n : Nat)
  | reply (n : Nat)
  | frameDestroyed (generation : Nat)
  | workerGone (port : PortId)
  deriving DecidableEq, Repr

/-- The pending request `n`, if it stands at a stage. -/
def standsAt (s : Bridge) (n : Nat) (stage : Stage) : Option Request :=
  match s.pending.lookup n with
  | some (request,current) => if current = stage then some request else none
  | none => none

/-- `top` is `window.location.origin`. -/
def step (top : Origin) (s : Bridge) : Event → Option Bridge
  | .bootstrap origin => some (s.acceptBootstrapPort origin)
  | .post port id action => if port < s.nextPort then some (s.dispatchPortMessage port id action) else none
  | .settingsLoaded n inPage => (standsAt s n .settings).map fun request =>
    s.proceed n request (if inPage then .modal else .picker)
  | .pickerResult n devices => (standsAt s n .picker).map fun request =>
    match devices with
    | some devices => s.grantSelectedDevices top n request devices
    | none => s.finish n request
  | .pickerTimeout n => (standsAt s n .picker).map fun request => s.finish n request
  | .modalResult n devices => (standsAt s n .modal).map fun request =>
    if devices = [] then s.finish n request else s.grantSelectedDevices top n request devices
  | .granted n =>
    match s.pending.lookup n with
    | some (request,.granting origin devices) => some (s.recordGrantGroup n request origin devices)
    | _ => none
  | .reply n => (standsAt s n .working).map fun request => s.finish n request
  | .frameDestroyed generation => some (s.destroyFrameContext generation)
  | .workerGone port =>
    if port ∈ s.leaving then
      some { s.forgetPorts (fun other => other == port) with leaving := s.leaving.erase port }
    else none

def init : Bridge := {}

/-! ### Attribution -/

/-- Every reply went to the port of the request that it answers, and every grant that a
    picker ended in was sent for the origin of the frame that opened it. -/
structure Attributed (s : Bridge) : Prop where
  replies : ∀ request port, (request,port) ∈ s.posted → port = request.port
  grants : ∀ request origin message, (request,origin,message) ∈ s.granted →
    ∃ context, request.frame = some context ∧ origin = some context.origin

/-- The bridge still has the port of the request under its identifier, and the port
    still belongs to a frame. -/
def onRecord (s : Bridge) (n : Nat) : Bool :=
  match s.pending.lookup n with
  | some (request,_) =>
    request.id.bind s.requestPortMap.lookup == some request.port && (s.frameContextByPort.lookup request.port).isSome
  | none => true

/-- No request takes the identifier of an unanswered request of another port, and
    devices are chosen only while the request that asked for them is on record. -/
def orderly (s : Bridge) : Event → Bool
  | .post port id _ => id.isNone || (values s.pending).all fun entry => entry.1.id != id || entry.1.port == port
  | .pickerResult n (some _) => onRecord s n
  | .modalResult n devices => devices.isEmpty || onRecord s n
  | _ => true

section
variable {top : Origin} {s s' : Bridge} {request : Request} {n : Nat} {stage : Stage}

/-- A grant under way is for the origin of the frame. -/
def StageOk (request : Request) (stage : Stage) : Prop := ∀ origin devices, stage = .granting origin devices →
  ∃ context, request.frame = some context ∧ origin = some context.origin

/-- The port of a request belongs to the frame that it came from or to none, and what
    the bridge has under its identifier is its port. -/
structure Known (s : Bridge) (request : Request) : Prop where
  port : request.port < s.nextPort
  frame : ∀ context, s.frameContextByPort.lookup request.port = some context → request.frame = some context
  entry : ∀ id port, request.id = some id → s.requestPortMap.lookup id = some port → port = request.port

structure Recorded (s : Bridge) : Prop where
  fresh : ∀ port context, s.frameContextByPort.lookup port = some context → port < s.nextPort
  origins : ∀ port, s.portOrigin.lookup port = (s.frameContextByPort.lookup port).map (·.origin)
  pending : ∀ n request stage, s.pending.lookup n = some (request,stage) → Known s request ∧ StageOk request stage
  attributed : Attributed s

theorem recorded_init : Recorded init where
  fresh port context found := by cases (lookup_empty port).symm.trans found
  origins port := rfl
  pending n request stage found := by cases (lookup_empty n).symm.trans found
  attributed := ⟨fun _ _ member => absurd member List.not_mem_nil,fun _ _ _ member => absurd member List.not_mem_nil⟩

theorem Attributed.of_same (attributed : Attributed s) (posted : s'.posted = s.posted)
    (granted : s'.granted = s.granted) : Attributed s' :=
  ⟨fun request port member => attributed.replies request port (posted ▸ member),
    fun request origin message member => attributed.grants request origin message (granted ▸ member)⟩

theorem Known.shrink (known : Known s request) (ports : s'.nextPort = s.nextPort)
    (frames : ∀ port context, s'.frameContextByPort.lookup port = some context →
      s.frameContextByPort.lookup port = some context)
    (entries : ∀ id port, s'.requestPortMap.lookup id = some port → s.requestPortMap.lookup id = some port) :
    Known s' request where
  port := ports ▸ known.port
  frame context found := known.frame context (frames _ context found)
  entry id port same found := known.entry id port same (entries id port found)

theorem stageOk_plain (plain : ∀ origin devices, stage ≠ .granting origin devices) : StageOk request stage :=
  fun origin devices same => absurd same (plain origin devices)

/-- The ports stay as they are; entries may be forgotten, and what is new among the
    pending requests is known. -/
theorem Recorded.keep (ok : Recorded s) (ports : s'.nextPort = s.nextPort)
    (frames : s'.frameContextByPort = s.frameContextByPort) (origins : s'.portOrigin = s.portOrigin)
    (entries : ∀ id port, s'.requestPortMap.lookup id = some port → s.requestPortMap.lookup id = some port)
    (pending : ∀ n request stage, s'.pending.lookup n = some (request,stage) →
      s.pending.lookup n = some (request,stage) ∨ Known s request ∧ StageOk request stage)
    (attributed : Attributed s') : Recorded s' where
  fresh port context found := by rw [ports]; exact ok.fresh port context (frames ▸ found)
  origins port := by rw [origins,frames]; exact ok.origins port
  pending n request stage found := by
    have before := (pending n request stage found).elim (ok.pending n request stage) id
    exact before.imp_left fun known => known.shrink ports (fun _ _ here => frames ▸ here) entries
  attributed := attributed

theorem Recorded.forgetEntry (ok : Recorded s) (id : RequestId) :
    Recorded { s with requestPortMap := s.requestPortMap.erase id } :=
  ok.keep rfl rfl rfl (fun _ _ => lookup_of_erase) (fun _ _ _ => Or.inl) (ok.attributed.of_same rfl rfl)

theorem Recorded.forgetPending (ok : Recorded s) (n : Nat) : Recorded { s with pending := s.pending.erase n } :=
  ok.keep rfl rfl rfl (fun _ _ => id) (fun _ _ _ found => Or.inl (lookup_of_erase found)) (ok.attributed.of_same rfl rfl)

theorem Recorded.proceed (ok : Recorded s) (n : Nat) (known : Known s request) (fine : StageOk request stage) :
    Recorded (s.proceed n request stage) := by
  refine ok.keep rfl rfl rfl (fun _ _ => id) (fun m request' stage' found => ?_) (ok.attributed.of_same rfl rfl)
  rw [Bridge.proceed,lookup_insert_eq] at found
  split_ifs at found
  · cases found; exact Or.inr ⟨known,fine⟩
  · exact Or.inl found

theorem Recorded.await (ok : Recorded s) (known : Known s request)
    (plain : ∀ origin devices, stage ≠ .granting origin devices) : Recorded (s.await request stage) := by
  refine (ok.proceed s.nextSerial known (stageOk_plain plain)).keep rfl rfl rfl (fun _ _ => id) (fun _ _ _ => Or.inl) ?_
  exact ok.attributed.of_same rfl rfl

theorem Recorded.post (ok : Recorded s) (request : Request) :
    Recorded { s with posted := (request,request.port) :: s.posted } := by
  refine ok.keep rfl rfl rfl (fun _ _ => id) (fun _ _ _ => Or.inl) ⟨fun request' port member => ?_,ok.attributed.grants⟩
  rcases List.mem_cons.mp member with same | before
  · cases same; rfl
  · exact ok.attributed.replies request' port before

/-- Grants are sent for the origin of the frame. -/
theorem Recorded.grant (ok : Recorded s) {origin : Option Origin} (messages : List GrantMessage)
    (right : ∃ context, request.frame = some context ∧ origin = some context.origin) :
    Recorded { s with granted := messages.map (fun message => (request,origin,message)) ++ s.granted } := by
  refine ok.keep rfl rfl rfl (fun _ _ => id) (fun _ _ _ => Or.inl)
    ⟨ok.attributed.replies,fun request' origin' message member => ?_⟩
  rcases List.mem_append.mp member with new | before
  · obtain ⟨_,_,same⟩ := List.mem_map.mp new
    cases same
    exact right
  · exact ok.attributed.grants request' origin' message before

theorem Recorded.forgetPorts (ok : Recorded s) (gone : PortId → Bool) : Recorded (s.forgetPorts gone) where
  fresh port context found := ok.fresh port context (lookup_of_retain found)
  origins port := by
    show (retain s.portOrigin _).lookup port = ((retain s.frameContextByPort _).lookup port).map _
    rw [lookup_retain,lookup_retain,ok.origins]
    cases s.frameContextByPort.lookup port with
    | none => rfl
    | some context => by_cases left : gone port <;> simp [left,Option.filter]
  pending n request stage found := (ok.pending n request stage found).imp_left fun known =>
    known.shrink rfl (fun _ _ => lookup_of_retain) fun _ _ => lookup_of_retain
  attributed := ok.attributed.of_same rfl rfl

theorem Recorded.replyToPage (ok : Recorded s) (known : Known s request) : Recorded (s.replyToPage request) := by
  unfold Bridge.replyToPage
  split
  · exact ok
  · next id same =>
    split
    · exact ok
    · next port found =>
      obtain rfl := known.entry id port same found
      exact (ok.forgetEntry id).post request

theorem Recorded.finish (ok : Recorded s) (known : Known s request) (n : Nat) : Recorded (s.finish n request) :=
  (ok.forgetPending n).replyToPage (known.shrink rfl (fun _ _ => id) fun _ _ => id)

/-- A new port belongs to a frame from the start. -/
theorem Recorded.addPort (ok : Recorded s) (context : FrameContext) (keys : HashMap PortId ClientKey) (m : Nat) :
    Recorded { s with
      nextPort := s.nextPort + 1
      nextFrameGeneration := m
      frameContextByPort := s.frameContextByPort.insert s.nextPort context
      clientKeysByPort := keys
      portOrigin := s.portOrigin.insert s.nextPort context.origin } where
  fresh port other found := by
    rw [lookup_insert_eq] at found
    split_ifs at found with new
    · exact new ▸ Nat.lt_succ_self _
    · exact Nat.lt_succ_of_lt (ok.fresh port other found)
  origins port := by
    simp only [lookup_insert_eq,ok.origins]
    split_ifs <;> rfl
  pending n request stage found := (ok.pending n request stage found).imp_left fun known => {
    port := Nat.lt_succ_of_lt known.port
    frame := fun other here => by
      rw [lookup_insert_eq,if_neg (Nat.ne_of_lt known.port)] at here
      exact known.frame other here
    entry := known.entry }
  attributed := ok.attributed.of_same rfl rfl

theorem Recorded.handleRequest (ok : Recorded s) (known : Known s request) (action : RequestAction) :
    Recorded (s.handleRequest request action) := by
  cases action with
  | workerPort transferred =>
    simp only [Bridge.handleRequest]
    split
    · exact ok
    · next context _ =>
      split_ifs
      · exact (ok.addPort context _ _).post request
      · exact ok
  | workerClientDestroyed clientKey =>
    simp only [Bridge.handleRequest]
    split
    · exact ok
    · exact ok.keep rfl rfl rfl (fun _ _ => id) (fun _ _ _ => Or.inl) (ok.attributed.of_same rfl rfl)
  | dataPort =>
    simp only [Bridge.handleRequest]
    split
    · exact ok
    · exact ok.forgetEntry _
  | requestDevice => exact ok.await known (by simp)
  | other => exact ok.await known (by simp)

/-- A request that is alone with its identifier, among other ports, is recorded. -/
theorem Recorded.dispatch (ok : Recorded s) {port : PortId} {id : Option RequestId} (fresh : port < s.nextPort)
    (alone : ∀ i, id = some i → ∀ n request stage, s.pending.lookup n = some (request,stage) → request.id = some i →
      request.port = port) (action : RequestAction) : Recorded (s.dispatchPortMessage port id action) := by
  cases id with
  | none => exact ok.handleRequest ⟨fresh,fun _ found => found,by simp⟩ action
  | some i =>
    have inserted : Recorded { s with requestPortMap := s.requestPortMap.insert i port } := {
      fresh := ok.fresh
      origins := ok.origins
      attributed := ok.attributed.of_same rfl rfl
      pending := fun m request stage found => (ok.pending m request stage found).imp_left fun known => {
        port := known.port
        frame := known.frame
        entry := fun i' port' same here => by
          rw [lookup_insert_eq] at here
          split_ifs at here with hit
          · cases here
            exact (alone i rfl m request stage found (hit ▸ same)).symm
          · exact known.entry i' port' same here } }
    refine inserted.handleRequest ⟨fresh,fun _ found => found,fun i' port' same here => ?_⟩ action
    cases same
    rw [lookup_insert_eq,if_pos rfl] at here
    exact (Option.some.inj here).symm

/-- On record, the origin of a request is that of its frame. -/
theorem getRequestOrigin_of_onRecord (top : Origin) (ok : Recorded s) (waiting : s.pending.lookup n = some (request,stage))
    (there : onRecord s n = true) :
    ∃ context, request.frame = some context ∧ s.getRequestOrigin top request.id = some context.origin := by
  simp only [onRecord,waiting,Bool.and_eq_true,beq_iff_eq,Option.isSome_iff_exists] at there
  obtain ⟨entry,context,belongs⟩ := there
  refine ⟨context,(ok.pending n request stage waiting).1.frame context belongs,?_⟩
  rw [Bridge.getRequestOrigin,entry]
  show s.portOrigin.lookup request.port = _
  rw [ok.origins,belongs]
  rfl

theorem Recorded.grantSelectedDevices (ok : Recorded s) (waiting : s.pending.lookup n = some (request,stage))
    (there : onRecord s n = true) (devices : List DeviceId) :
    Recorded (s.grantSelectedDevices top n request devices) := by
  have right := getRequestOrigin_of_onRecord top ok waiting there
  have known := (ok.pending n request stage waiting).1
  have sent := ok.grant (devices.map .pairDevice) right
  rw [List.map_map] at sent
  refine sent.proceed n (known.shrink rfl (fun _ _ => id) fun _ _ => id) fun origin devices' same => ?_
  cases same
  exact right

theorem standsAt_iff : standsAt s n stage = some request ↔ s.pending.lookup n = some (request,stage) := by
  unfold standsAt
  cases s.pending.lookup n with
  | none => simp
  | some entry =>
    obtain ⟨other,current⟩ := entry
    by_cases same : current = stage <;> simp [same]

theorem step_recorded (ok : Recorded s) {e : Event} (taken : step top s e = some s') (fine : orderly s e = true) :
    Recorded s' := by
  cases e with
  | bootstrap origin => cases taken; exact ok.addPort ⟨_,origin⟩ _ _
  | post port id action =>
    simp only [step] at taken
    split_ifs at taken with fresh
    cases taken
    refine ok.dispatch fresh (fun i same n request stage waiting here => ?_) action
    subst same
    have alone : (values s.pending).all (fun entry => entry.1.id != some i || entry.1.port == port) = true := fine
    have checked := List.all_eq_true.mp alone (request,stage) (mem_values.mpr ⟨n,waiting⟩)
    simpa [here] using checked
  | settingsLoaded n inPage =>
    obtain ⟨request,stands,rfl⟩ := Option.map_eq_some_iff.mp taken
    refine ok.proceed n (ok.pending n request _ (standsAt_iff.mp stands)).1 (stageOk_plain fun _ _ => ?_)
    split_ifs <;> simp
  | pickerResult n devices =>
    obtain ⟨request,stands,rfl⟩ := Option.map_eq_some_iff.mp taken
    have waiting := standsAt_iff.mp stands
    cases devices with
    | none => exact ok.finish (ok.pending n request _ waiting).1 n
    | some devices => exact ok.grantSelectedDevices waiting fine devices
  | pickerTimeout n =>
    obtain ⟨request,stands,rfl⟩ := Option.map_eq_some_iff.mp taken
    exact ok.finish (ok.pending n request _ (standsAt_iff.mp stands)).1 n
  | modalResult n devices =>
    obtain ⟨request,stands,rfl⟩ := Option.map_eq_some_iff.mp taken
    have waiting := standsAt_iff.mp stands
    split_ifs with none
    · exact ok.finish (ok.pending n request _ waiting).1 n
    · have there : onRecord s n = true := by
        rcases (Bool.or_eq_true_iff).mp fine with empty | there
        · exact absurd (List.isEmpty_iff.mp empty) none
        · exact there
      exact ok.grantSelectedDevices waiting there devices
  | granted n =>
    simp only [step] at taken
    split at taken
    · next request origin devices waiting =>
      cases taken
      obtain ⟨known,fine⟩ := ok.pending n request _ waiting
      unfold Bridge.recordGrantGroup
      split_ifs
      · exact (ok.grant [.recordGrantGroup devices] (fine origin devices rfl)).proceed n
          (known.shrink rfl (fun _ _ => id) fun _ _ => id) (stageOk_plain (by simp))
      · exact ok.proceed n known (stageOk_plain (by simp))
    · cases taken
  | reply n =>
    obtain ⟨request,stands,rfl⟩ := Option.map_eq_some_iff.mp taken
    exact ok.finish (ok.pending n request _ (standsAt_iff.mp stands)).1 n
  | frameDestroyed generation => cases taken; exact ok.forgetPorts _
  | workerGone port =>
    simp only [step] at taken
    split_ifs at taken
    cases taken
    exact (ok.forgetPorts fun other => other == port).keep rfl rfl rfl (fun _ _ => id) (fun _ _ _ => Or.inl)
      (ok.attributed.of_same rfl rfl)

/-- In every run in which no port takes the identifier of another's unanswered request,
    and devices are chosen only for requests on record, every reply and grant is
    attributed to the frame that asked. -/
theorem requests_attributed {trace : List Event} (run : exec (step top) init trace = some s)
    (keeps : AllSteps (step top) (fun s e _ => orderly s e = true) init trace) : Attributed s :=
  (exec_invariant_under (I := Recorded) (fun _ _ _ ok taken fine => step_recorded ok taken fine) recorded_init run
    keeps).attributed

end

/-- A frame of a widget asks for a device, and is destroyed while the picker is open. -/
def widgetAsks : List Event :=
  [.bootstrap "https://example.org",.bootstrap "https://widget.example",.post 1 (some 1) .requestDevice,
    .settingsLoaded 0 false]

/-- The device that is then chosen is granted to the top-level page. -/
theorem grant_after_frame_goes_to_top : ∃ s : Bridge, exec (step "https://example.org") init
      (widgetAsks ++ [.frameDestroyed 2,.pickerResult 0 (some [7])]) = some s ∧ ¬ Attributed s := by
  obtain ⟨s,run⟩ := Option.isSome_iff_exists.mp (by decide : (exec (step "https://example.org") init
    (widgetAsks ++ [.frameDestroyed 2,.pickerResult 0 (some [7])])).isSome = true)
  refine ⟨s,run,fun attributed => ?_⟩
  have facts : (exec (step "https://example.org") init
      (widgetAsks ++ [.frameDestroyed 2,.pickerResult 0 (some [7])])).map (·.granted) =
      some [(⟨some 1,1,some ⟨2,"https://widget.example"⟩⟩,some "https://example.org",.pairDevice 7)] := by decide
  rw [run] at facts
  have granted : s.granted = _ := Option.some.inj facts
  obtain ⟨context,frame,origin⟩ := attributed.grants ⟨some 1,1,some ⟨2,"https://widget.example"⟩⟩
    (some "https://example.org") (.pairDevice 7) (granted ▸ List.mem_singleton.mpr rfl)
  cases frame
  exact absurd origin (by decide)

/-- Two devices are chosen in time, and granted to the widget. -/
theorem requests_attributed_widget : ∃ s : Bridge, exec (step "https://example.org") init
      (widgetAsks ++ [.pickerResult 0 (some [7,8]),.granted 0,.reply 0]) = some s ∧
    s.granted.length = 3 ∧ s.posted.length = 1 ∧ Attributed s := by
  obtain ⟨s,run⟩ := Option.isSome_iff_exists.mp (by decide : (exec (step "https://example.org") init
    (widgetAsks ++ [.pickerResult 0 (some [7,8]),.granted 0,.reply 0])).isSome = true)
  have facts : (exec (step "https://example.org") init
      (widgetAsks ++ [.pickerResult 0 (some [7,8]),.granted 0,.reply 0])).map
      (fun s => (s.granted.length,s.posted.length)) = some (3,1) := by decide
  rw [run] at facts
  simp only [Option.map_some,Option.some.injEq,Prod.mk.injEq] at facts
  exact ⟨s,run,facts.1,facts.2,requests_attributed run (allSteps_of_checkAll (by decide))⟩

end FFWebHid.Attribution
