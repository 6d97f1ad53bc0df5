import Mathlib.Logic.Function.Basic
import FFWebHid.Maps
import FFWebHid.Runs
import FFWebHid.Types
import FFWebHid.Descriptor
import FFWebHid.ReportBlocking
import FFWebHid.Registry
import FFWebHid.Lifecycle

/-!
The daemon as threads over shared state: a request loop and an event task for
each client, two tasks for each transport, and a reader and an I/O worker for
each physical open. A step of a thread runs at most one critical section or
touches one shared cell.
-/
namespace FFWebHid.Threads
open FFWebHid.Types FFWebHid.Maps FFWebHid.Descriptor FFWebHid.ReportBlocking FFWebHid.Registry FFWebHid.Lifecycle

/-- The libraries of the daemon and the nonce that it draws when it starts. -/
structure Daemon where
  lib : Externals
  wsNonce : String

def Daemon.computeWsAuthHash (daemon : Daemon) (token : Token) : String :=
  daemon.lib.sha256Hex (token ++ daemon.wsNonce)

/-- One report operation. -/
inductive ReportOp where
  | output (reportId : UInt8) (data : Bytes)
  | featureWrite (reportId : UInt8) (data : Bytes)
  | featureRead (reportId : UInt8)
  deriving DecidableEq, Repr

def ReportOp.reportId : ReportOp → UInt8
  | .output reportId _ => reportId
  | .featureWrite reportId _ => reportId
  | .featureRead reportId => reportId

def ReportOp.reportType : ReportOp → ReportType
  | .output _ _ => .output
  | .featureWrite _ _ => .feature
  | .featureRead _ => .feature

/-- A read has no payload. -/
def ReportOp.payloadLen : ReportOp → Option Nat
  | .output _ data => some data.length
  | .featureWrite _ data => some data.length
  | .featureRead _ => none

/-- Who enqueued a command: a client for a device, or a transport. -/
inductive Sender where
  | nm (clientId : ClientId) (deviceId : DeviceId)
  | transport (transport : Nat)
  deriving DecidableEq, Repr

/-- A command in the queue of a worker; `reply` names its reply channel. -/
structure IoCommand where
  op : ReportOp
  bufSize : Nat
  epoch : Nat
  validity : Flag
  sender : Sender
  reply : Nat
  deriving DecidableEq, Repr

inductive Queued where
  | shutdown
  | command (command : IoCommand)
  deriving DecidableEq, Repr

/-- What the reader of a device is started with. -/
structure ReaderConfig where
  deviceId : DeviceId
  usesNumberedReports : Bool
  filter : InputFilter
  deviceInfo : DeviceInfo

/-- An event of the broadcast channel. The stamp is not part of the source: it is
    the number of reservations taken when the event was emitted. -/
structure Emitted where
  event : IpcResponse
  stamp : Nat

structure Shared where
  mgr : DeviceManager := {}
  queue : Lifetime → List Queued := fun _ => []
  epoch : Lifetime → Nat := fun _ => 0
  stopFlag : Lifetime → Bool := fun _ => false
  readerStart : Lifetime → Bool := fun _ => false
  readerStopped : Lifetime → Bool := fun _ => false
  workerStopped : Lifetime → Bool := fun _ => false
  readerConfig : Lifetime → Option ReaderConfig := fun _ => none
  /-- The answers on the reply channels: the operation ran, or it did not. -/
  replies : Nat → Option Bool := fun _ => none
  nextReply : Nat := 0
  events : ClientId → List Emitted := fun _ => []
  /-- Not part of the source: the tokens drawn, the entry built for each lifetime,
      and the operations that workers have started. -/
  issued : List Token := []
  entryOf : Lifetime → Option Entry := fun _ => none
  starts : List (Lifetime × ReportOp) := []

/-- The capacity of the queue of a worker. -/
def queueCapacity : Nat := 128

namespace Shared

/-- Broadcast an event to every client. -/
def emit (sh : Shared) (event : IpcResponse) : Shared :=
  { sh with events := fun c => sh.events c ++ [⟨event,sh.mgr.nextLifetimeGeneration⟩] }

/-- Enqueue, when the worker is there and the queue has room. -/
def push (sh : Shared) (l : Lifetime) (item : Queued) : Option Shared :=
  if sh.workerStopped l || (sh.queue l).length ≥ queueCapacity then none
  else some { sh with queue := Function.update sh.queue l (sh.queue l ++ [item]) }

def answer (sh : Shared) (reply : Nat) (ran : Bool) : Shared :=
  { sh with replies := Function.update sh.replies reply (some ran) }

/-- One instruction of a teardown; `none` while it blocks. -/
def teardown (sh : Shared) : TeardownStep → Option Shared
  | .cancel token => some { sh with mgr := sh.mgr.cancel token }
  | .subNonNm count => some { sh with mgr := sh.mgr.subNonNm count }
  | .setStop l => some { sh with stopFlag := Function.update sh.stopFlag l true }
  | .bumpEpoch l => some { sh with epoch := Function.update sh.epoch l (sh.epoch l + 1) }
  | .releaseStart l => some { sh with readerStart := Function.update sh.readerStart l true }
  | .requestShutdown l => if sh.workerStopped l then some sh else sh.push l .shutdown
  | .joinReader l => if sh.readerStopped l then some sh else none
  | .joinWorker l => if sh.workerStopped l then some sh else none
  | .emit event => some (sh.emit event)

end Shared

/-- The instructions after `force_close` has released the mutex. -/
def forceCloseTeardown : List Token × Nat × Option Entry → List TeardownStep
  | (cancels,nonNm,entry) =>
    cancels.map .cancel ++ (if nonNm > 0 then [.subNonNm nonNm] else []) ++ (entry.map stopEntry).getD []

/-- The instructions of a reader that has lost its device, up to the event. -/
def deadReaderTeardown (info : DeviceInfo) : Entry × List Token × Nat → List TeardownStep
  | (entry,cancels,nonNm) =>
    stopEntryIoWorker entry ++ (if nonNm > 0 then [.subNonNm nonNm] else []) ++ cancels.map .cancel ++
      [.emit (.deviceDisconnected info)]

structure OpenCall where
  deviceId : DeviceId
  token : Token
  deriving DecidableEq, Repr

/-- Where an open stands. `generation` is the reservation it holds. -/
inductive OpenPc where
  | enter
  | wait (generation seen : Nat)
  | recheck
  | physical (generation : Nat)
  | check (generation : Nat) (info : DeviceInfo) (numbered : Bool)
  | spawn (generation : Nat) (info : DeviceInfo) (numbered : Bool)
  | install (generation : Nat) (id : DeviceId) (entry : Entry)
  | stopLocal (generation : Nat) (steps : List TeardownStep)
  | start (generation : Nat)
  | release (generation : Nat)
  | notify (generation : Nat)

/-- Where a report operation over native messaging stands. -/
inductive NmPc where
  | allowed
  | haveHot (hot : NmHotSession)
  | haveBuf (hot : NmHotSession) (bufSize : Nat)
  | haveCommand (queue : Lifetime) (command : IoCommand)
  | awaiting (reply : Nat)

inductive ClientPc where
  | absent
  | connecting
  | idle
  | opening (call : OpenCall) (pc : OpenPc)
  | closing (steps : List TeardownStep)
  | report (deviceId : DeviceId) (op : ReportOp) (pc : NmPc)
  | aborting
  | unregistering
  | collecting
  | closingAll (rest : List (DeviceId × Token)) (steps : List TeardownStep)
  | gone

inductive ClientAction where
  | connect
  | openDevice (deviceId : DeviceId) (token : Token)
  | opened (info : DeviceInfo) (numbered : Bool)
  | openFailed
  | closeSession (deviceId : DeviceId) (token : Token)
  | setDataPlane (deviceId : DeviceId) (token : Token) (mode : String)
  | report (deviceId : DeviceId) (op : ReportOp)
  | disconnect
  | advance

/-- The buffer for reads: the largest declared payload and the report identifier,
    within fixed bounds. -/
def readBufSizeOf (info : DeviceInfo) : Nat :=
  let maxPayload := max (max (maxInputReportSize info.collections) (maxOutputReportSize info.collections))
    (maxFeatureReportSize info.collections)
  min (max (maxPayload + 1) 64) DeviceManager.maxReadBuffer

/-- The entry and the reader that `open_physical` builds for one lifetime. -/
def buildEntry (daemon : Daemon) (generation : Nat) (info : DeviceInfo) (numbered : Bool) : Entry where
  lifetime := generation
  ioTx := some generation
  vendorId := info.vendorId
  productId := info.productId
  readBufSize := readBufSizeOf info
  blocking := DeviceReportBlocking.new daemon.lib info numbered

def buildReader (daemon : Daemon) (info : DeviceInfo) (numbered : Bool) : ReaderConfig where
  deviceId := info.deviceId
  usesNumberedReports := numbered
  filter := inputFilter (DeviceReportBlocking.new daemon.lib info numbered) info.vendorId info.productId
  deviceInfo := info

/-- A step of an open; `none` while it waits. -/
def openStep (daemon : Daemon) (sh : Shared) (c : ClientId) (call : OpenCall) : OpenPc → Option (ClientPc × Shared)
  | .enter =>
    let (outcome,mgr) := sh.mgr.openEnter call.deviceId call.token c (daemon.computeWsAuthHash call.token)
    match outcome with
    | .registered => some (.idle,{ sh with mgr := mgr })
    | .waiting generation seen => some (.opening call (.wait generation seen),{ sh with mgr := mgr })
    | .reserved generation => some (.opening call (.physical generation),{ sh with mgr := mgr })
    | _ => none
  | .wait generation seen =>
    if sh.mgr.notified generation > seen then some (.opening call .recheck,sh) else none
  | .recheck =>
    let (outcome,mgr) := sh.mgr.openRecheck call.deviceId call.token c (daemon.computeWsAuthHash call.token)
    match outcome with
    | .registered => some (.idle,{ sh with mgr := mgr })
    | .again => some (.opening call .enter,{ sh with mgr := mgr })
    | .failed => some (.idle,{ sh with mgr := mgr })
    | _ => none
  | .physical _ => none
  | .check generation info numbered =>
    let (outcome,mgr) := sh.mgr.openCheck call.deviceId info.deviceId generation call.token c
      (daemon.computeWsAuthHash call.token)
    match outcome with
    | .proceed => some (.opening call (.spawn generation info numbered),{ sh with mgr := mgr })
    | _ => some (.opening call (.release generation),{ sh with mgr := mgr })
  | .spawn generation info numbered =>
    let entry := buildEntry daemon generation info numbered
    some (.opening call (.install generation info.deviceId entry),{ sh with
      readerConfig := Function.update sh.readerConfig generation (some (buildReader daemon info numbered))
      entryOf := Function.update sh.entryOf generation (some entry) })
  | .install generation id entry =>
    let (outcome,mgr) := sh.mgr.openInstall call.deviceId id generation entry call.token c
      (daemon.computeWsAuthHash call.token)
    match outcome with
    | .installed => some (.opening call (.start generation),{ sh with mgr := mgr })
    | _ => some (.opening call (.stopLocal generation (stopEntry entry)),{ sh with mgr := mgr })
  | .stopLocal generation [] => some (.opening call (.release generation),sh)
  | .stopLocal generation (step :: rest) =>
    (sh.teardown step).map fun sh => (.opening call (.stopLocal generation rest),sh)
  | .start generation =>
    some (.opening call (.release generation),{ sh with readerStart := Function.update sh.readerStart generation true })
  | .release generation =>
    let (wake,mgr) := sh.mgr.releaseReservation call.deviceId generation
    some (if wake then .opening call (.notify generation) else .idle,{ sh with mgr := mgr })
  | .notify generation => some (.idle,{ sh with mgr := sh.mgr.notifyWaiters generation })

/-- A step of a report operation. The binding is looked up a second time after
    the check, and the epoch is read after that. -/
def nmStep (sh : Shared) (c : ClientId) (d : DeviceId) (op : ReportOp) : NmPc → Option (ClientPc × Shared)
  | .allowed =>
    match sh.mgr.nmHot.lookup (c,d) with
    | none => some (.idle,sh)
    | some hot => some (.report d op (.haveHot hot),sh)
  | .haveHot hot =>
    let bufSize := match op with
      | .featureRead _ => sh.mgr.readBufSize d
      | _ => 0
    some (.report d op (.haveBuf hot bufSize),sh)
  | .haveBuf hot bufSize =>
    some (.report d op (.haveCommand hot.ioTx ⟨op,bufSize,sh.epoch hot.epoch,hot.valid,.nm c d,sh.nextReply⟩),
      { sh with nextReply := sh.nextReply + 1 })
  | .haveCommand queue command =>
    if sh.workerStopped queue then some (.idle,sh)
    else (sh.push queue (.command command)).map fun sh => (.report d op (.awaiting command.reply),sh)
  | .awaiting reply => if (sh.replies reply).isSome then some (.idle,sh) else none

def clientStep (daemon : Daemon) (sh : Shared) (c : ClientId) : ClientPc → ClientAction → Option (ClientPc × Shared)
  | .absent,.connect =>
    let (id,mgr) := sh.mgr.newClientId
    if id = c then some (.connecting,{ sh with mgr := mgr, events := Function.update sh.events c [] }) else none
  | .connecting,.advance => some (.idle,{ sh with mgr := sh.mgr.registerNmSink c c })
  | .idle,.openDevice deviceId token =>
    -- Tokens are random: a fresh one differs from all before it, and so does its hash.
    if sh.issued.all fun t => t != token && daemon.computeWsAuthHash t != daemon.computeWsAuthHash token then
      some (.opening ⟨deviceId,token⟩ .enter,{ sh with issued := token :: sh.issued })
    else none
  | .opening call (.physical generation),.opened info numbered =>
    some (if info.descriptorParseFailed then .opening call (.release generation)
      else .opening call (.check generation info numbered),sh)
  | .opening call (.physical generation),.openFailed => some (.opening call (.release generation),sh)
  | .opening call pc,.advance => openStep daemon sh c call pc
  | .idle,.closeSession deviceId token =>
    let (outcome,mgr) := sh.mgr.close deviceId token c
    match outcome with
    | .closed (some entry) => some (.closing (stopEntry entry),{ sh with mgr := mgr })
    | _ => some (.idle,{ sh with mgr := mgr })
  | .closing [],.advance => some (.idle,sh)
  | .closing (step :: rest),.advance => (sh.teardown step).map fun sh => (.closing rest,sh)
  | .idle,.setDataPlane deviceId token mode =>
    match sh.mgr.setDataplaneMode deviceId token (Mode.ofString mode) c with
    | .ok mgr => some (.idle,{ sh with mgr := mgr })
    | .error _ => some (.idle,sh)
  | .idle,.report deviceId op =>
    match sh.mgr.nmReportSendAllowed c deviceId op.reportId op.reportType op.payloadLen with
    | .ok () => some (.report deviceId op .allowed,sh)
    | .error _ => some (.idle,sh)
  | .report d op pc,.advance => nmStep sh c d op pc
  | .idle,.disconnect => some (.aborting,sh)
  | .aborting,.advance => some (.unregistering,sh)
  | .unregistering,.advance => some (.collecting,{ sh with mgr := sh.mgr.unregisterNmSink c })
  | .collecting,.advance => some (.closingAll (sh.mgr.sessionsOfClient c) [],sh)
  | .closingAll rest (step :: steps),.advance => (sh.teardown step).map fun sh => (.closingAll rest steps,sh)
  | .closingAll ((deviceId,token) :: rest) [],.advance =>
    let (outcome,mgr) := sh.mgr.close deviceId token c
    match outcome with
    | .closed (some entry) => some (.closingAll rest (stopEntry entry),{ sh with mgr := mgr })
    | _ => some (.closingAll rest [],{ sh with mgr := mgr })
  | .closingAll [] [],.advance => some (.gone,sh)
  | _,_ => none

inductive RelayPc where
  | idle
  | teardown (steps : List TeardownStep)

inductive RelayAction where
  | take
  | lag (count : Nat)
  | advance

/-- The task force-closes the device of every disconnect event it takes. It takes
    no event once the request loop has ended. -/
def relayStep (sh : Shared) (c : ClientId) (running : Bool) : RelayPc → RelayAction → Option (RelayPc × Shared)
  | .idle,.take =>
    if running then
      match sh.events c with
      | [] => none
      | first :: rest =>
        let taken := { sh with events := Function.update sh.events c rest }
        match first.event with
        | .deviceDisconnected info =>
          let (removed,mgr) := sh.mgr.forceClose info.deviceId
          some (.teardown (forceCloseTeardown removed),{ taken with mgr := mgr })
        | _ => some (.idle,taken)
    else none
  | .idle,.lag count =>
    if running then some (.idle,{ sh with events := Function.update sh.events c ((sh.events c).drop count) }) else none
  | .teardown [],.advance => some (.idle,sh)
  | .teardown (step :: rest),.advance => (sh.teardown step).map fun sh => (.teardown rest,sh)
  | _,_ => none

/-- The event task runs from the registration of the client to its abort. -/
def ClientPc.relays : ClientPc → Bool
  | .absent => false
  | .connecting => false
  | .unregistering => false
  | .collecting => false
  | .closingAll _ _ => false
  | .gone => false
  | _ => true

structure Link where
  kind : TransportKind
  deviceId : DeviceId
  token : Token
  grant : TransportGrant

inductive FramePc where
  | idle
  | received (op : ReportOp)
  | valid (op : ReportOp)
  | prechecked (op : ReportOp)
  | context (op : ReportOp)
  | haveEntry (op : ReportOp) (queue : Lifetime) (epochOf : Lifetime) (bufSize : Nat)
  | haveCommand (queue : Lifetime) (command : IoCommand)
  | awaiting (reply : Nat)

inductive TransportPc where
  | absent
  | authenticated (kind : TransportKind) (deviceId : DeviceId) (token : Token)
  | connected (link : Link) (frame : FramePc)
  | closed (link : Link) (frame : FramePc)

inductive TransportAction where
  | authenticate (kind : TransportKind) (hash : String)
  | connect
  | frame (op : ReportOp)
  | advance
  | disconnect

/-- A step of the frame worker: the capability is read three times, the check and
    the look-up of the queue find the device by identifier, each on its own. -/
def frameStep (sh : Shared) (t : Nat) (link : Link) : FramePc → Option (FramePc × Shared)
  | .idle => none
  | .received op => some (if sh.mgr.valid link.grant.capability then .valid op else .idle,sh)
  | .valid op =>
    match sh.mgr.reportSendAllowed link.deviceId op.reportId op.reportType op.payloadLen with
    | .ok () => some (.prechecked op,sh)
    | .error _ => some (.idle,sh)
  | .prechecked op => some (if sh.mgr.valid link.grant.capability then .context op else .idle,sh)
  | .context op =>
    match sh.mgr.devices.lookup link.deviceId with
    | none => some (.idle,sh)
    | some entry =>
      match entry.ioTx with
      | none => some (.idle,sh)
      | some queue => some (.haveEntry op queue entry.lifetime entry.readBufSize,sh)
  | .haveEntry op queue epochOf bufSize =>
    some (.haveCommand queue ⟨op,bufSize,sh.epoch epochOf,link.grant.capability,.transport t,sh.nextReply⟩,
      { sh with nextReply := sh.nextReply + 1 })
  | .haveCommand queue command =>
    if sh.workerStopped queue then some (.idle,sh)
    else (sh.push queue (.command command)).map fun sh => (.awaiting command.reply,sh)
  | .awaiting reply => if (sh.replies reply).isSome then some (.idle,sh) else none

def transportStep (sh : Shared) (t : Nat) : TransportPc → TransportAction → Option (TransportPc × Shared)
  | .absent,.authenticate kind hash =>
    (sh.mgr.getDeviceByWsAuth hash).map fun (deviceId,token) => (.authenticated kind deviceId token,sh)
  | .authenticated kind deviceId token,.connect =>
    match sh.mgr.connect kind deviceId token with
    | none => some (.absent,sh)
    | some (grant,mgr) => some (.connected ⟨kind,deviceId,token,grant⟩ .idle,{ sh with mgr := mgr })
  | .connected link .idle,.frame op =>
    some (.connected link (if sh.mgr.valid link.grant.capability then .received op else .idle),sh)
  | .connected link frame,.advance => (frameStep sh t link frame).map fun (frame,sh) => (.connected link frame,sh)
  | .connected link frame,.disconnect =>
    some (.closed link frame,{ sh with
      mgr := sh.mgr.disconnect link.kind link.deviceId link.token link.grant.generation link.grant.capability })
  | .closed link frame,.advance => (frameStep sh t link frame).map fun (frame,sh) => (.closed link frame,sh)
  | _,_ => none

/-- One client that a report is routed to. -/
structure Target where
  clientId : ClientId
  sink : Sink
  valid : Flag
  deriving DecidableEq, Repr

inductive ReaderPc where
  | waiting
  | top
  | reading
  | report (reportId : UInt8) (data : Bytes)
  | routing (reportId : UInt8) (data : Bytes) (targets : List Target)
  | sending (reportId : UInt8) (data : Bytes) (target : Target) (targets : List Target)
  | publishing (reportId : UInt8) (data : Bytes)
  | failed
  | cleanup (steps : List TeardownStep)
  | stopped

inductive ReadResult where
  | ok (buf : Bytes)
  | timedOut
  | error

inductive ReaderAction where
  | read (result : ReadResult)
  | trySend (full : Bool)
  | advance

/-- Split off the report identifier of a numbered report. -/
def splitReport (numbered : Bool) (buf : Bytes) : UInt8 × Bytes :=
  if numbered then
    match buf with
    | [] => (0,[])
    | first :: rest => (first,rest)
  else (0,buf)

/-- The bindings on a device, in the order of the map. -/
def routeTargets (m : DeviceManager) (d : DeviceId) : List Target :=
  (m.nmHot.entries.filter fun e => e.1.2 == d).map fun e => ⟨e.1.1,e.2.sink,e.2.valid⟩

def readerStep (sh : Shared) (l : Lifetime) (config : ReaderConfig) :
    ReaderPc → ReaderAction → Option (ReaderPc × Shared)
  | .waiting,.advance => if sh.readerStart l then some (.top,sh) else none
  | .top,.advance =>
    if sh.stopFlag l then some (.stopped,{ sh with readerStopped := Function.update sh.readerStopped l true })
    else some (.reading,sh)
  | .reading,.read (.ok buf) =>
    let (reportId,data) := splitReport config.usesNumberedReports buf
    some (if config.filter.drops reportId then .top else .report reportId data,sh)
  | .reading,.read .timedOut => some (.top,sh)
  | .reading,.read .error => some (.failed,sh)
  | .report reportId data,.advance => some (.routing reportId data (routeTargets sh.mgr config.deviceId),sh)
  | .routing reportId data [],.advance => some (.publishing reportId data,sh)
  | .routing reportId data (target :: rest),.advance =>
    -- A binding that was cleared since the snapshot loses the report.
    some (if sh.mgr.valid target.valid then .sending reportId data target rest else .routing reportId data rest,sh)
  | .sending reportId data target rest,.trySend full =>
    some (if full then .routing reportId data (target :: rest) else .routing reportId data rest,sh)
  | .publishing reportId data,.advance =>
    some (.top,if sh.mgr.nonNmSessions > 0 then sh.emit (.inputReport config.deviceId reportId data) else sh)
  | .failed,.advance =>
    match sh.mgr.detachDeadReaderLifetime config.deviceId with
    | none => some (.stopped,{ sh with readerStopped := Function.update sh.readerStopped l true })
    | some (removed,mgr) => some (.cleanup (deadReaderTeardown config.deviceInfo removed),{ sh with mgr := mgr })
  | .cleanup [],.advance => some (.stopped,{ sh with readerStopped := Function.update sh.readerStopped l true })
  | .cleanup (step :: rest),.advance => (sh.teardown step).map fun sh => (.cleanup rest,sh)
  | _,_ => none

inductive WorkerPc where
  | idle
  | received (command : IoCommand)
  | validated (command : IoCommand)
  | running (command : IoCommand)
  | stopped
  deriving DecidableEq

/-- A command runs when its capability is set and its epoch is the present one. -/
def workerStep (sh : Shared) (l : Lifetime) : WorkerPc → Option (WorkerPc × Shared)
  | .idle =>
    match sh.queue l with
    | [] => none
    | .shutdown :: rest =>
      -- The receiver is dropped, and with it every command that is still queued.
      let dropped := rest.filterMap fun
        | .shutdown => none
        | .command command => some command.reply
      some (.stopped,{ dropped.foldl (fun sh reply => sh.answer reply false) sh with
        queue := Function.update sh.queue l []
        workerStopped := Function.update sh.workerStopped l true })
    | .command command :: rest => some (.received command,{ sh with queue := Function.update sh.queue l rest })
  | .received command =>
    if sh.mgr.valid command.validity then some (.validated command,sh)
    else some (.idle,sh.answer command.reply false)
  | .validated command =>
    if command.epoch = sh.epoch l then some (.running command,{ sh with starts := (l,command.op) :: sh.starts })
    else some (.idle,sh.answer command.reply false)
  | .running command => some (.idle,sh.answer command.reply true)
  | .stopped => none

/-! ### The daemon -/

structure World where
  shared : Shared := {}
  client : ClientId → ClientPc := fun _ => .absent
  relay : ClientId → RelayPc := fun _ => .idle
  transport : Nat → TransportPc := fun _ => .absent
  reader : Lifetime → ReaderPc := fun _ => .waiting
  worker : Lifetime → WorkerPc := fun _ => .idle

def World.mgr (w : World) : DeviceManager := w.shared.mgr

inductive Action where
  | client (clientId : ClientId) (action : ClientAction)
  | relay (clientId : ClientId) (action : RelayAction)
  | transport (transport : Nat) (action : TransportAction)
  | reader (lifetime : Lifetime) (action : ReaderAction)
  | worker (lifetime : Lifetime)
  | hotplug (connected : Bool) (info : DeviceInfo)

/-- One step of the daemon; `none` when the action is not enabled. -/
def step (daemon : Daemon) (w : World) : Action → Option World
  | .client c action => (clientStep daemon w.shared c (w.client c) action).map fun (pc,sh) =>
      { w with shared := sh, client := Function.update w.client c pc }
  | .relay c action => (relayStep w.shared c (w.client c).relays (w.relay c) action).map fun (pc,sh) =>
      { w with shared := sh, relay := Function.update w.relay c pc }
  | .transport t action => (transportStep w.shared t (w.transport t) action).map fun (pc,sh) =>
      { w with shared := sh, transport := Function.update w.transport t pc }
  | .reader l action => (w.shared.readerConfig l).bind fun config =>
      (readerStep w.shared l config (w.reader l) action).map fun (pc,sh) =>
        { w with shared := sh, reader := Function.update w.reader l pc }
  | .worker l => if (w.shared.readerConfig l).isSome then
      (workerStep w.shared l (w.worker l)).map fun (pc,sh) =>
        { w with shared := sh, worker := Function.update w.worker l pc }
      else none
  | .hotplug connected info => some { w with
      shared := w.shared.emit (if connected then .deviceConnected info else .deviceDisconnected info) }

/-- The daemon reaches `w` from its start. -/
def Reachable (daemon : Daemon) (w : World) : Prop := ∃ trace, Runs.exec (step daemon) {} trace = some w

end FFWebHid.Threads
