import FFWebHid.Cooperative
import FFWebHid.Maps
import FFWebHid.PlaneGenerations

/-!
The runtime data ports of a bridge. The port of a device is shared by the clients of all
frames: an NM plane, an open that is under way and a report that is not answered each hold
it, and whoever removes one of them asks whether the port is still needed. The functions
are followed from one `await` to the next. A `deviceId` is a number in some maps and part
of a string in others.
-/
namespace FFWebHid.RuntimePorts
open FFWebHid.Maps FFWebHid.Lifecycle FFWebHid.Planes FFWebHid.Cooperative
open FFWebHid.PlaneGenerations (Start)

/-- A `deviceId`: the daemon numbers its devices, a part of a key is a string. -/
inductive DeviceId where
  | number (n : Nat)
  | string (s : String)
  deriving DecidableEq

/-- `String(deviceId)`. -/
def DeviceId.text : DeviceId → String
  | .number n => toString n
  | .string s => s

/-- A client by its frame and its `clientKey`, `window` for the frame itself. -/
structure Client where
  frame : Nat
  clientKey : String
  deriving DecidableEq

/-- The parts of the key of a plane. -/
structure Key where
  frame : Nat
  device : String
  clientKey : String
  deriving DecidableEq

def planeKeyForClient (client : Client) (deviceId : DeviceId) : Key :=
  ⟨client.frame,deviceId.text,client.clientKey⟩

def Key.client (key : Key) : Client := ⟨key.frame,key.clientKey⟩

/-- What the maps hold at a key, beside those that are modelled as lists. -/
structure Records extends Plane where
  pendingPlaneReady : Option Nat := none
  workerReadyDevices : Bool := false
  deriving DecidableEq

/-- An entry of `dataPending`. -/
structure Pending where
  reqId : Nat
  key : Key
  deviceId : DeviceId
  deriving DecidableEq

/-- A port of `dataPorts`, with the `deviceId` that its handler holds. -/
structure DataPort where
  key : Key
  deviceId : DeviceId
  deriving DecidableEq

/-- An entry of `pendingPlaneSpawns`. -/
structure PlaneSpawn where
  id : Nat
  key : Key
  deriving DecidableEq

/-- A record of a `destroyFrameContext` that has ended: the devices that were open in
    the frame from its start until they were looked at, or to its end. -/
structure Destruction where
  frame : Nat
  notify : Bool
  opened : List DeviceId
  deriving DecidableEq

/-- `clients` are those with a port in `clientKeysByPort`, `nmOpenAttempts` has a key as
    often as it counts. `notices` are the disconnects that `destroyFrameContext` has posted,
    of which those of a frame are its `notifiedDevices`. -/
structure State where
  frameContexts : List Nat := []
  clients : List Client := []
  nextFrameGeneration : Nat := 0
  sessions : List (Client × DeviceId) := []
  planes : HashMap Key Records := ∅
  nmOpenAttempts : List Key := []
  dataPorts : List DataPort := []
  dataPending : List Pending := []
  dataReqSeq : Nat := 0
  pendingPlaneSpawns : List PlaneSpawn := []
  planeReqSeq : Nat := 0
  runtimeDataPorts : List DeviceId := []
  notices : List (Nat × DeviceId) := []
  destructions : List Destruction := []

/-- Who goes on when a plane was set up: an open, with an attempt that it retains or
    without, or nobody. -/
inductive Caller where
  | nobody
  | opening (attempt : Bool)
  deriving DecidableEq

/-- A function at an `await`; `finished` stands for nothing more to do after another. -/
inductive Task where
  | finished
  | opening (client : Client) (deviceId : DeviceId) (attempt : Bool)
  | opened (client : Client) (deviceId : DeviceId) (attempt accepted : Bool)
  | cleaning (client : Client) (deviceId : DeviceId) (attempt : Bool)
  | spawning (client : Client) (deviceId : DeviceId) (generation : Nat) (kind : TransportKind) (rewire : Bool)
      (caller : Caller)
  | hashing (client : Client) (deviceId : DeviceId) (generation : Nat) (rewire : Bool) (caller : Caller)
  | connecting (client : Client) (deviceId : DeviceId) (generation id : Nat) (rewire : Bool) (caller : Caller)
  | retired (client : Client) (deviceId : DeviceId)
  | requesting (client : Client) (deviceId : DeviceId) (generation : Nat) (rewire : Bool) (caller : Caller)
  | recovering (client : Client) (deviceId : DeviceId)
  | closing (client : Client) (deviceId : DeviceId) (reserved : Bool)
  | reconciling (deviceId : DeviceId) (todo : List Client) (next : Task)
  | resetting (frame : Nat) (clients : List Client) (devices : List DeviceId) (frames : List Nat)
  | retiring (client : Client) (visited : List DeviceId)
  | retiringClose (client : Client) (deviceId : DeviceId) (visited : List DeviceId)
  | switching (start : Start) (todo active : List (Client × DeviceId))
  | asking (client : Client) (deviceId : DeviceId) (rest : List (Client × DeviceId))
  | refused (rest : List (Client × DeviceId))
  | destroying (frame : Nat) (notify : Bool) (records : List Client) (opened : List DeviceId)
      (todo : List (Key × DeviceId))
  | notifying (frame : Nat) (notify : Bool) (records : List Client) (opened : List DeviceId) (deviceId : DeviceId)
      (todo : List (Key × DeviceId))
  | despawning (client : Client) (deviceId : DeviceId) (keepPort : Bool) (next : Task)
  deriving DecidableEq

def Task.follow : Task → List Task
  | .finished => []
  | task => [task]

/-- The caller gets a generation, or `null`. -/
def Caller.next (client : Client) (deviceId : DeviceId) (accepted : Bool) : Caller → Task
  | .nobody => .finished
  | .opening attempt => .opened client deviceId attempt accepted

namespace Records
variable (r : Records)

def beginPlaneGeneration : Records :=
  { r with
    toPlane := r.toPlane.beginPlaneGeneration
    pendingPlaneReady := r.pendingPlaneReady.filter (· = r.spawnGen + 1) }

def markPlanePrerequisite (generation : Nat) (prerequisite : Prerequisite) : Records :=
  let state := (r.readinessOf generation).meet prerequisite
  { r with
    toPlane := r.toPlane.markPlanePrerequisite generation prerequisite
    pendingPlaneReady :=
      if r.spawnGen = generation ∧ state.localPort ∧ state.authoritative then
        r.pendingPlaneReady.filter (· ≠ generation)
      else r.pendingPlaneReady }

def markPlaneReady (generation : Nat) : Records :=
  (r.markPlanePrerequisite generation .localPort).markPlanePrerequisite generation .authoritative

/-- `despawnDataPlane` up to where it waits for the page. -/
def despawnHead : Records :=
  { r.beginPlaneGeneration with
    inPageDevices := false
    workers := none
    workerGenerations := none
    workerReadyDevices := false }

/-- What `handleOpenSuccess` records for NM. -/
def openNm : Records :=
  let begun := r.beginPlaneGeneration
  { begun with nmPlanes := true }.markPlanePrerequisite begun.spawnGen .authoritative

/-- What `fallbackToNm` records when the daemon has accepted. -/
def fallbackNm (generation : Nat) : Records :=
  { r with nmPlanes := true, deviceTransports := none }.markPlanePrerequisite generation .authoritative

/-- What `applyDataPlane` records for NM. -/
def switchNm : Records := { r with nmPlanes := true }.markPlanePrerequisite r.spawnGen .authoritative

/-- The head of `spawnWorker`. -/
def dropWorker : Records :=
  { r with
    toPlane := r.toPlane.dropWorker
    workerReadyDevices := r.workerReadyDevices && !(r.workers.isSome || r.workerGenerations.isSome) }

end Records

namespace State
variable (s : State)

def recordsOf (key : Key) : Records := (s.planes.lookup key).getD {}

def record (key : Key) (f : Records → Records) : State :=
  { s with planes := s.planes.insert key (f (s.recordsOf key)) }

/-- The keys in `nmPlanes`. -/
def nmPlanes : List Key := (s.planes.entries.filter fun entry => entry.2.nmPlanes).map (·.1)

def hasDeviceKey (keys : List Key) (deviceId : DeviceId) : Bool := keys.any (·.device = deviceId.text)

def ensureRuntimeDataPort (deviceId : DeviceId) : State :=
  if deviceId ∈ s.runtimeDataPorts then s else { s with runtimeDataPorts := s.runtimeDataPorts ++ [deviceId] }

def retainNmOpenAttempt (key : Key) : State := { s with nmOpenAttempts := key :: s.nmOpenAttempts }

def releaseNmOpenAttempt (key : Key) : State := { s with nmOpenAttempts := s.nmOpenAttempts.erase key }

/-- The attempt of an open is released, if it has one. -/
def release (attempt : Bool) (key : Key) : State := if attempt then s.releaseNmOpenAttempt key else s

/-- What `maybeDisconnectRuntimeDataPort` looks for. -/
def inUse (deviceId : DeviceId) : Bool :=
  hasDeviceKey s.nmPlanes deviceId || hasDeviceKey s.nmOpenAttempts deviceId ||
    s.dataPending.any (·.deviceId = deviceId)

def maybeDisconnectRuntimeDataPort (deviceId : DeviceId) : State :=
  if s.inUse deviceId then s else { s with runtimeDataPorts := s.runtimeDataPorts.filter (· ≠ deviceId) }

/-- The client whose sessions `discardFailedOpenDataPort` looks at. -/
def sessionOwner (client : Client) : Client :=
  if client ∈ s.clients then client else { client with clientKey := "window" }

def discardFailedOpenDataPort (client : Client) (deviceId : DeviceId) : State :=
  if (s.sessionOwner client,deviceId) ∈ s.sessions ∨ planeKeyForClient client deviceId ∈ s.nmOpenAttempts then s
  else s.maybeDisconnectRuntimeDataPort deviceId

def setSession (client : Client) (deviceId : DeviceId) : State :=
  if (client,deviceId) ∈ s.sessions then s else { s with sessions := s.sessions ++ [(client,deviceId)] }

def deleteSession (client : Client) (deviceId : DeviceId) : State :=
  { s with sessions := s.sessions.filter (· ≠ (client,deviceId)) }

def clientsOf (frame : Nat) : List Client := s.clients.filter (·.frame = frame)

def devicesOf (clients : List Client) : List DeviceId :=
  ((s.sessions.filter (·.1 ∈ clients)).map (·.2)).eraseDups

def despawnHead (key : Key) : State := s.record key Records.despawnHead

/-- The rest of `despawnDataPlane`. -/
def despawnTail (key : Key) (deviceId : DeviceId) (keepPort : Bool) : State :=
  { s.record key fun r => { r with toPlane := r.toPlane.despawnEnd } with
    dataPorts := if keepPort then s.dataPorts else s.dataPorts.filter (·.key ≠ key)
    dataPending := s.dataPending.filter (·.key ≠ key)
    pendingPlaneSpawns := s.pendingPlaneSpawns.filter (·.key ≠ key) }.maybeDisconnectRuntimeDataPort deviceId

/-- `despawnDataPlane` up to where it waits, and what goes on when it has returned.
    Others may run in between also where there is no worker to wait for. -/
def despawnDataPlane (client : Client) (deviceId : DeviceId) (keepPort : Bool) (next : Task) : State × List Task :=
  (s.despawnHead (planeKeyForClient client deviceId),[.despawning client deviceId keepPort next])

/-- `fallbackToNm` from its last check up to where it waits for the daemon. -/
def requestFallback (client : Client) (deviceId : DeviceId) (generation : Nat) (rewire : Bool) (caller : Caller) :
    State × List Task :=
  if client.frame ∉ s.frameContexts ∨ (s.recordsOf (planeKeyForClient client deviceId)).spawnGen ≠ generation then
    (s,(caller.next client deviceId false).follow)
  else (s.ensureRuntimeDataPort deviceId,[.requesting client deviceId generation rewire caller])

/-- `fallbackToNm` gives up, and removes the plane where it still is of its generation. -/
def failFallback (client : Client) (deviceId : DeviceId) (generation : Nat) (caller : Caller) : State × List Task :=
  if (s.recordsOf (planeKeyForClient client deviceId)).spawnGen = generation then
    s.despawnDataPlane client deviceId false (caller.next client deviceId false)
  else (s,(caller.next client deviceId false).follow)

/-- The daemon has accepted; `wired` says whether there is a port of the page to wire. -/
def grantFallback (client : Client) (deviceId : DeviceId) (generation : Nat) (rewire : Bool) (caller : Caller)
    (wired : Bool) : State × List Task :=
  let key := planeKeyForClient client deviceId
  if client.frame ∉ s.frameContexts ∨ (s.recordsOf key).spawnGen ≠ generation then
    s.failFallback client deviceId generation caller
  else
    let s := s.record key (·.fallbackNm generation)
    if rewire ∧ !wired then s.failFallback client deviceId generation caller
    else (s,(caller.next client deviceId true).follow)

/-- `spawnDataPlane` up to where it waits. NM planes are not spawned. -/
def spawnDataPlane (client : Client) (deviceId : DeviceId) (start : Start) (rewire : Bool) (caller : Caller) :
    State × List Task :=
  let key := planeKeyForClient client deviceId
  let begun := s.record key Records.beginPlaneGeneration
  let generation := (begun.recordsOf key).spawnGen
  match start with
  | .inPage => (begun,[.hashing client deviceId generation rewire caller])
  | .worker kind => (begun.record key Records.dropWorker,[.spawning client deviceId generation kind rewire caller])
  | .nm => (begun,(caller.next client deviceId false).follow)

/-- A `spawnDataPlane` whose transport was not started. -/
def spawnFailed (client : Client) (deviceId : DeviceId) (generation : Nat) (rewire : Bool) (caller : Caller) :
    State × List Task :=
  if (s.recordsOf (planeKeyForClient client deviceId)).spawnGen = generation then
    s.requestFallback client deviceId generation rewire caller
  else (s,(caller.next client deviceId true).follow)

/-- The end of `spawnWorker`, when the page has started the worker. -/
def workerSpawned (client : Client) (deviceId : DeviceId) (generation : Nat) (kind : TransportKind) (caller : Caller) :
    State × List Task :=
  let key := planeKeyForClient client deviceId
  let next := (caller.next client deviceId true).follow
  if (s.recordsOf key).spawnGen ≠ generation then (s,next)
  else (s.record key fun r => { r with toPlane := r.toPlane.addWorker generation kind },next)

/-- `spawnInPageDataPlane` after the hash was computed. -/
def connectInPage (client : Client) (deviceId : DeviceId) (generation : Nat) (rewire : Bool) (caller : Caller) :
    State × List Task :=
  let key := planeKeyForClient client deviceId
  ({ s.record key fun r => { r with inPageDevices := true } with
      planeReqSeq := s.planeReqSeq + 1
      pendingPlaneSpawns := s.pendingPlaneSpawns ++ [⟨s.planeReqSeq,key⟩] },
    [.connecting client deviceId generation s.planeReqSeq rewire caller])

/-- The entry of `pendingPlaneSpawns` is gone. -/
def settleSpawn (id : Nat) : State := { s with pendingPlaneSpawns := s.pendingPlaneSpawns.filter (·.id ≠ id) }

/-- What throws in `spawnDataPlane` ends an open in its `catch`. -/
def spawnThrown (client : Client) (deviceId : DeviceId) : Caller → State × List Task
  | .nobody => (s,[])
  | .opening attempt =>
    ((s.release attempt (planeKeyForClient client deviceId)).deleteSession client deviceId).despawnDataPlane client
      deviceId false (.cleaning client deviceId false)

/-- `handleGenericRequest` for an open that is allowed, up to where it waits for the
    daemon; `nm` is what the settings say. -/
def openRequest (client : Client) (deviceId : DeviceId) (nm : Bool) : Option (State × List Task) :=
  let key := planeKeyForClient client deviceId
  if client ∉ s.clients ∨ client.frame ∉ s.frameContexts then none
  else if nm || (s.recordsOf key).nmPlanes then
    some ((s.ensureRuntimeDataPort deviceId).retainNmOpenAttempt key,[.opening client deviceId true])
  else some (s,[.opening client deviceId false])

/-- The daemon has opened the device that was asked for. -/
def handleOpenSuccess (client : Client) (deviceId : DeviceId) (attempt : Bool) (start : Start) : State × List Task :=
  let key := planeKeyForClient client deviceId
  if client ∉ s.clients ∨ client.frame ∉ s.frameContexts then (s,[.opened client deviceId attempt false])
  else
    let s := s.setSession client deviceId
    if start = .nm ∨ (s.recordsOf key).nmPlanes then
      let s := s.record key Records.openNm
      (s.ensureRuntimeDataPort deviceId,[.opened client deviceId attempt true])
    else s.spawnDataPlane client deviceId start false (.opening attempt)

/-- The daemon has refused, or the request has failed, which also ends the session. -/
def openFailed (client : Client) (deviceId : DeviceId) (attempt thrown : Bool) : State × List Task :=
  let released := s.release attempt (planeKeyForClient client deviceId)
  ((if thrown then released.deleteSession client deviceId else released).discardFailedOpenDataPort client deviceId,[])

/-- `handleGenericRequest` after `handleOpenSuccess`. -/
def openDone (client : Client) (deviceId : DeviceId) (attempt accepted : Bool) : State × List Task :=
  if accepted then (s.release attempt (planeKeyForClient client deviceId),[])
  else (s.deleteSession client deviceId).despawnDataPlane client deviceId false (.cleaning client deviceId attempt)

def closed (client : Client) (deviceId : DeviceId) (reserved ok : Bool) : State × List Task :=
  if ok then (s.deleteSession client deviceId).despawnDataPlane client deviceId false .finished
  else if reserved then (s.setSession client deviceId,[]) else (s,[])

/-- The loop over the clients that have lost a device. -/
def reconcileNext (deviceId : DeviceId) (next : Task) : List Client → State × List Task
  | [] => (s,next.follow)
  | client :: todo =>
    (s.deleteSession client deviceId).despawnDataPlane client deviceId false (.reconciling deviceId todo next)

def havingDevice (clients : List Client) (deviceId : DeviceId) : List Client :=
  clients.filter fun client => (client,deviceId) ∈ s.sessions

def reconcileFrameDevice (frame : Nat) (deviceId : DeviceId) : Option (State × List Task) :=
  if frame ∉ s.frameContexts then none
  else some (s.reconcileNext deviceId .finished (s.havingDevice (s.clientsOf frame) deviceId))

/-- A device of a frame in `resetAuthorityState`. -/
def resetDevice (frame : Nat) (clients : List Client) (deviceId : DeviceId) (next : Task) : State × List Task :=
  match s.havingDevice clients deviceId with
  | [] => s.despawnDataPlane ⟨frame,"window"⟩ deviceId false next
  | having => s.reconcileNext deviceId next having

/-- The rest of `resetAuthorityState`, from the next frame with a device. -/
def resetFrames : List Nat → State × List Task
  | [] => (s,[])
  | frame :: frames =>
    let clients := s.clientsOf frame
    match s.devicesOf clients with
    | [] => resetFrames frames
    | deviceId :: devices => s.resetDevice frame clients deviceId (.resetting frame clients devices frames)

/-- The loop of `handleWorkerClientDestroyed`, and what follows it. It is called with the
    list of ports for the port of the request and returns before it; its body is followed
    as if it were called with that port, which only adds runs. -/
def retireNext (client : Client) (visited : List DeviceId) : State × List Task :=
  match (s.devicesOf [client]).find? (· ∉ visited) with
  | some deviceId => (s,[.retiringClose client deviceId visited])
  | none =>
    ({ s with
        sessions := s.sessions.filter (·.1 ≠ client)
        clients := s.clients.filter (· ≠ client) },[])

/-- The sessions of frames, which are those of an origin. -/
def activeIn (frames : List Nat) : List (Client × DeviceId) :=
  s.sessions.filter fun entry =>
    entry.1 ∈ s.clients && entry.1.frame ∈ s.frameContexts && entry.1.frame ∈ frames

def switchNext (start : Start) (active : List (Client × DeviceId)) : List (Client × DeviceId) → State × List Task
  | [] => (s,[.switching start [] active])
  | (client,deviceId) :: todo => s.despawnDataPlane client deviceId true (.switching start todo active)

def askNext : List (Client × DeviceId) → State × List Task
  | [] => (s,[])
  | (client,deviceId) :: rest => (s,[.asking client deviceId rest])

def respawnPlanesForMode (start : Start) : State → List (Client × DeviceId) → State × List Task
  | s,[] => (s,[])
  | s,(client,deviceId) :: rest =>
    let spawned := s.spawnDataPlane client deviceId start true .nobody
    let others := respawnPlanesForMode start spawned.1 rest
    (others.1,spawned.2 ++ others.2)

/-- The daemon has answered `applyDataPlane` for a session. -/
def switchAnswered (client : Client) (deviceId : DeviceId) (rest : List (Client × DeviceId)) (ok : Bool) :
    State × List Task :=
  let key := planeKeyForClient client deviceId
  if ok then
    ((s.ensureRuntimeDataPort deviceId).record key Records.switchNm).askNext rest
  else s.despawnDataPlane client deviceId false (.refused rest)

/-- `planes.set(key, ...)`. -/
def setPlane (planes : List (Key × DeviceId)) (key : Key) (deviceId : DeviceId) : List (Key × DeviceId) :=
  if planes.any (·.1 = key) then planes.map fun plane => if plane.1 = key then (key,deviceId) else plane
  else planes ++ [(key,deviceId)]

/-- The keys of the maps that `destroyFrameContext` goes through. -/
def mapKeys : List Key :=
  (s.planes.entries.filter fun entry => entry.2 ≠ {}).map (·.1) ++ s.dataPorts.map (·.key) ++ s.nmOpenAttempts

def keysOf (frame : Nat) : List Key := s.mapKeys.filter fun key => key.frame = frame ∧ key.device ≠ ""

/-- The `planes` of `destroyFrameContext`: those of the sessions, and those of the maps,
    whose `deviceId` is the part of the key. -/
def planesOf (frame : Nat) : List (Key × DeviceId) :=
  let owned := (s.sessions.filter fun entry => entry.1 ∈ s.clientsOf frame).foldl
    (fun planes entry => setPlane planes (planeKeyForClient entry.1 entry.2) entry.2) []
  (s.keysOf frame).foldl (fun planes key => setPlane planes key (.string key.device)) owned

/-- `destroyFrameContext` up to where it waits for the background page. -/
def destroyFrameContext (frame : Nat) (notify : Bool) : Option (State × List Task) :=
  if frame ∉ s.frameContexts then none
  else
    let records := s.clientsOf frame
    some ({ s with
        frameContexts := s.frameContexts.filter (· ≠ frame)
        clients := s.clients.filter (·.frame ≠ frame) },
      [.destroying frame notify records (s.devicesOf records) (s.planesOf frame)])

/-- The loop over `planes`, and what follows it. -/
def destroyNext (frame : Nat) (notify : Bool) (records : List Client) (opened : List DeviceId) :
    List (Key × DeviceId) → State × List Task
  | [] =>
    ({ s with
        sessions := s.sessions.filter (·.1 ∉ records)
        destructions := s.destructions ++ [⟨frame,notify,opened⟩] },[])
  | (key,deviceId) :: todo =>
    s.despawnDataPlane key.client deviceId false (.notifying frame notify records opened deviceId todo)

/-- The page is told of a device that a client of the frame has open. -/
def notice (frame : Nat) (notify : Bool) (records : List Client) (deviceId : DeviceId) : State :=
  if notify ∧ (frame,deviceId) ∉ s.notices ∧ s.havingDevice records deviceId ≠ [] then
    { s with notices := s.notices ++ [(frame,deviceId)] }
  else s

/-- `onDataPortMessage`. When the runtime port refuses the request, which `thrown` says,
    the entry is removed at once. -/
def onDataPortMessage (port : DataPort) (thrown : Bool) : State :=
  let s := s.ensureRuntimeDataPort port.deviceId
  let reqId := s.dataReqSeq + 1
  let entries := if thrown then [] else [⟨reqId,port.key,port.deviceId⟩]
  { s with dataReqSeq := reqId, dataPending := s.dataPending ++ entries }

/-- A message on the port of a device answers a request. -/
def onMessage (deviceId : DeviceId) (reqId : Nat) : State :=
  match s.dataPending.find? (·.reqId = reqId) with
  | none => s
  | some pending =>
    if pending.deviceId ≠ deviceId then s
    else { s with dataPending := s.dataPending.erase pending }.maybeDisconnectRuntimeDataPort deviceId

/-- The background page has disconnected the port of a device. -/
def onDisconnect (deviceId : DeviceId) : State :=
  if deviceId ∉ s.runtimeDataPorts then s
  else
    { s with
      runtimeDataPorts := s.runtimeDataPorts.filter (· ≠ deviceId)
      dataPending := s.dataPending.filter (·.deviceId ≠ deviceId) }

/-- `handleDataPortRequest` once the client and its grant were looked up. -/
def handleDataPortRequest (client : Client) (deviceId : DeviceId) (generation : Nat) : State :=
  let key := planeKeyForClient client deviceId
  let r := s.recordsOf key
  if client ∉ s.clients ∨ r.spawnGen ≠ generation then s
  else if r.workers = some generation then s.record key fun r => { r with connectParams := none }
  else
    { s.record key fun r => r.markPlanePrerequisite generation .localPort with
      dataPorts := s.dataPorts ++ [⟨key,deviceId⟩] }

/-- A worker says that it is ready. -/
def workerReady (client : Client) (deviceId : DeviceId) (generation : Nat) : State :=
  s.record (planeKeyForClient client deviceId) fun r =>
    { r with workerReadyDevices := true }.markPlaneReady generation

/-- `handleWorkerErrorEvent`, for the `deviceId` that the page names. -/
def handleWorkerErrorEvent (client : Client) (deviceId : DeviceId) : Option (State × List Task) :=
  if client ∉ s.clients then none
  else some (s.despawnDataPlane client deviceId false
    (if (client,deviceId) ∈ s.sessions then .recovering client deviceId else .finished))

/-- `recoverDataPlane` after the removal of the plane. -/
def recovered (client : Client) (deviceId : DeviceId) (start : Start) : State × List Task :=
  if client.frame ∉ s.frameContexts then (s,[])
  else match start with
    | .nm => s.requestFallback client deviceId (s.recordsOf (planeKeyForClient client deviceId)).spawnGen true .nobody
    | start => s.spawnDataPlane client deviceId start true .nobody

/-- `waitForPlaneReady`, where it puts the caller into `pendingPlaneReady`. -/
def waitForPlaneReady (client : Client) (deviceId : DeviceId) (generation : Nat) : State :=
  let key := planeKeyForClient client deviceId
  let r := s.recordsOf key
  if client.frame ∉ s.frameContexts ∨ r.spawnGen ≠ generation ∨ r.readyGenerations = some generation then s
  else s.record key fun r => { r with pendingPlaneReady := some generation }

/-- The timer of `waitForPlaneReady`. -/
def planeReadyTimeout (client : Client) (deviceId : DeviceId) : Option (State × List Task) :=
  let key := planeKeyForClient client deviceId
  (s.recordsOf key).pendingPlaneReady.map fun generation =>
    let s := s.record key fun r => { r with pendingPlaneReady := none }
    if (s.recordsOf key).spawnGen ≠ generation then (s,[])
    else s.despawnDataPlane client deviceId false (.retired client deviceId)

end State

/-! ### Steps -/

/-- What begins in the bridge. -/
inductive Call where
  | frameCreated
  | workerPort (frame : Nat)
  | openRequest (client : Client) (deviceId : DeviceId) (nm : Bool)
  | closeRequest (client : Client) (deviceId : DeviceId)
  | dataPortRequest (client : Client) (deviceId : DeviceId) (generation : Nat)
  | dataPortMessage (k : Nat) (thrown : Bool)
  | message (deviceId : DeviceId) (reqId : Nat)
  | portDisconnected (deviceId : DeviceId)
  | workerReady (client : Client) (deviceId : DeviceId) (generation : Nat)
  | workerError (client : Client) (deviceId : DeviceId)
  | planeReadyRequest (client : Client) (deviceId : DeviceId) (generation : Nat)
  | planeReadyTimeout (client : Client) (deviceId : DeviceId)
  | deviceEvent (frame : Nat) (deviceId : DeviceId)
  | globalReset
  | workerClientDestroyed (client : Client)
  | applyDataPlane (start : Start) (frames : List Nat)
  | destroyFrame (frame : Nat) (notify : Bool)
  deriving DecidableEq

/-- What a task has waited for: nothing but its turn, a yes or no, a yes with what the
    settings then say, a yes with or without a port to wire, a timer, an exception, or its
    turn with the frames of an origin. -/
inductive Answer where
  | resumed
  | answered (ok : Bool)
  | accepted (start : Start)
  | granted (wired : Bool)
  | timedOut
  | thrown
  | inOrigin (frames : List Nat)
  deriving DecidableEq

def start (s : State) : Call → Option (State × List Task)
  | .frameCreated =>
    let frame := s.nextFrameGeneration + 1
    some ({ s with
      nextFrameGeneration := frame
      frameContexts := s.frameContexts ++ [frame]
      clients := s.clients ++ [⟨frame,"window"⟩] },[])
  | .workerPort frame =>
    if frame ∉ s.frameContexts then none
    else
      let number := s.nextFrameGeneration + 1
      some ({ s with nextFrameGeneration := number, clients := s.clients ++ [⟨frame,s!"worker-{number}"⟩] },[])
  | .openRequest client deviceId nm => s.openRequest client deviceId nm
  | .closeRequest client deviceId =>
    if client ∉ s.clients then none else some (s,[.closing client deviceId ((client,deviceId) ∈ s.sessions)])
  | .dataPortRequest client deviceId generation => some (s.handleDataPortRequest client deviceId generation,[])
  | .dataPortMessage k thrown => (s.dataPorts[k]?).map fun port => (s.onDataPortMessage port thrown,[])
  | .message deviceId reqId => some (s.onMessage deviceId reqId,[])
  | .portDisconnected deviceId => some (s.onDisconnect deviceId,[])
  | .workerReady client deviceId generation => some (s.workerReady client deviceId generation,[])
  | .workerError client deviceId => s.handleWorkerErrorEvent client deviceId
  | .planeReadyRequest client deviceId generation => some (s.waitForPlaneReady client deviceId generation,[])
  | .planeReadyTimeout client deviceId => s.planeReadyTimeout client deviceId
  | .deviceEvent frame deviceId => s.reconcileFrameDevice frame deviceId
  | .globalReset => some (s.resetFrames s.frameContexts)
  | .workerClientDestroyed client => if client ∉ s.clients then none else some (s.retireNext client [])
  | .applyDataPlane start frames => some (s.switchNext start (s.activeIn frames) (s.activeIn frames))
  | .destroyFrame frame notify => s.destroyFrameContext frame notify

/-- A task goes on with what it has waited for. -/
def go (s : State) : Task → Answer → Option (State × List Task)
  | .opening client deviceId attempt,.accepted start => some (s.handleOpenSuccess client deviceId attempt start)
  | .opening client deviceId attempt,.answered false => some (s.openFailed client deviceId attempt false)
  | .opening client deviceId attempt,.thrown => some (s.openFailed client deviceId attempt true)
  | .opened client deviceId attempt accepted,.resumed => some (s.openDone client deviceId attempt accepted)
  | .cleaning client deviceId attempt,.resumed =>
    some ((s.discardFailedOpenDataPort client deviceId).release attempt (planeKeyForClient client deviceId),[])
  | .spawning client deviceId generation kind _ caller,.answered true =>
    some (s.workerSpawned client deviceId generation kind caller)
  | .spawning client deviceId generation _ rewire caller,.answered false =>
    some (s.spawnFailed client deviceId generation rewire caller)
  | .spawning client deviceId _ _ _ caller,.thrown => some (s.spawnThrown client deviceId caller)
  | .hashing client deviceId generation rewire caller,.answered true =>
    some (s.connectInPage client deviceId generation rewire caller)
  | .hashing client deviceId generation rewire caller,.answered false =>
    some (s.spawnFailed client deviceId generation rewire caller)
  | .hashing client deviceId _ _ caller,.thrown => some (s.spawnThrown client deviceId caller)
  | .connecting client deviceId generation id rewire caller,.answered ok =>
    if ⟨id,planeKeyForClient client deviceId⟩ ∈ s.pendingPlaneSpawns then
      if ok then
        some ((s.settleSpawn id).record (planeKeyForClient client deviceId) (·.markPlaneReady generation),
          (caller.next client deviceId true).follow)
      else some ((s.settleSpawn id).spawnFailed client deviceId generation rewire caller)
    else none
  | .connecting client deviceId generation id rewire caller,.timedOut =>
    if ⟨id,planeKeyForClient client deviceId⟩ ∈ s.pendingPlaneSpawns then
      some (((s.settleSpawn id).record (planeKeyForClient client deviceId) fun r =>
        { r with inPageDevices := false }).spawnFailed client deviceId generation rewire caller)
    else none
  | .connecting client deviceId generation id rewire caller,.resumed =>
    -- A removal of the plane has told it that it has failed.
    if ⟨id,planeKeyForClient client deviceId⟩ ∈ s.pendingPlaneSpawns then none
    else some (s.spawnFailed client deviceId generation rewire caller)
  | .retired client deviceId,.resumed =>
    some (s.requestFallback client deviceId (s.recordsOf (planeKeyForClient client deviceId)).spawnGen true .nobody)
  | .requesting client deviceId generation _ caller,.answered false =>
    some (s.failFallback client deviceId generation caller)
  | .requesting client deviceId generation rewire caller,.granted wired =>
    some (s.grantFallback client deviceId generation rewire caller wired)
  | .recovering client deviceId,.accepted start => some (s.recovered client deviceId start)
  | .closing client deviceId reserved,.answered ok => some (s.closed client deviceId reserved ok)
  | .closing _ _ _,.thrown => some (s,[])
  | .reconciling deviceId todo next,.resumed => some (s.reconcileNext deviceId next todo)
  | .resetting frame clients devices frames,.resumed =>
    match devices with
    | [] => some (s.resetFrames frames)
    | deviceId :: devices => some (s.resetDevice frame clients deviceId (.resetting frame clients devices frames))
  | .retiring client visited,.resumed => some (s.retireNext client visited)
  | .retiringClose client deviceId visited,.resumed =>
    some (s.despawnDataPlane client deviceId false (.retiring client (deviceId :: visited)))
  | .switching start todo active,.resumed => if todo = [] then none else some (s.switchNext start active todo)
  | .switching start [] active,.inOrigin frames =>
    if start = .nm then some (s.askNext active) else some (State.respawnPlanesForMode start s (s.activeIn frames))
  | .asking client deviceId rest,.answered ok => some (s.switchAnswered client deviceId rest ok)
  | .refused rest,.resumed => some (s.askNext rest)
  | .destroying frame notify records opened todo,.resumed => some (s.destroyNext frame notify records opened todo)
  | .notifying frame notify records opened deviceId todo,.resumed =>
    let told := s.notice frame notify records deviceId
    some (told.destroyNext frame notify records (opened.filter fun d => s.havingDevice records d ≠ []) todo)
  | .despawning client deviceId keepPort next,.resumed =>
    some (s.despawnTail (planeKeyForClient client deviceId) deviceId keepPort,next.follow)
  | _,_ => none

def step : World State Task → Event Call Answer → Option (World State Task) := Cooperative.step start go

end FFWebHid.RuntimePorts
