import FFWebHid.Maps
import FFWebHid.Runs
import FFWebHid.StateOps
import FFWebHid.Background
import FFWebHid.Bookkeeping
import FFWebHid.Revocations
import FFWebHid.Callers

/-!
One bridge beside the background page. The bridge keeps for each of its clients the token
of each open device, and sends the requests of the clients to the background one after the
other. The background tells it of lost devices, revoked grants and a lost daemon by
messages that take their own time. Other bridges do as they like.

Of the requests on the control port only those that open, close and clean up sessions and
the end of a frame are followed; the others only take the port for a while. Setting up and
ending a data plane is a wait. A worker client stays as long as its frame.
-/
namespace FFWebHid.BridgeSessions
open FFWebHid.Maps FFWebHid.Runs FFWebHid.StateOps FFWebHid.Background FFWebHid.Bookkeeping FFWebHid.Revocations
open FFWebHid.Callers

/-- What the bridge reads of an answer: the token of an open, or the status. -/
inductive Reply where
  | opened (t : Token)
  | ok
  | failed
  deriving DecidableEq, Repr

/-- A request to the background. A close carries the token that the bridge held when the
    page asked for it. -/
inductive Job where
  | opening (c : Client) (d : DeviceId)
  | closing (c : Client) (d : DeviceId) (reservedToken : Option Token)
  | cleanupSession (d : DeviceId) (t : Token)
  | frameDestroyed (frame : FrameKey)
  deriving DecidableEq, Repr

/-- Where the request on the port stands: on its way, in the background, where it waits for
    the grant store or the native host, or answered, with the answer on its way. -/
inductive Stage where
  | posted
  | stored (k : Nat)
  | native (n : Nat)
  | discarding (n : Nat)
  | answered (reply : Reply)
  deriving DecidableEq, Repr

/-- What goes on in the bridge after an `await`: an open waits for its data plane, or for
    the end of it; `reconcileFrameDevice` and `resetAuthorityState` wait for the end of the
    plane of the session that they have deleted last. -/
inductive Task where
  | plane (c : Client) (d : DeviceId) (t : Token)
  | discard (d : DeviceId) (t : Token)
  | reconcile (d : DeviceId) (rest : List Client)
  | reset (frames : List FrameKey) (clients : List Client) (devices : List DeviceId) (d : DeviceId) (rest : List Client)
  deriving DecidableEq, Repr

/-- A message to the tab. -/
inductive Event where
  | disconnect (d : DeviceId)
  | revoked (d : DeviceId) (origin : Origin)
  | globalReset
  deriving DecidableEq, Repr

/-- The bridge and the background. `firstId` is the first native request on the present
    native port. `gone` and `handed` are ghosts: the frames that have ended, and the tokens
    that opens of the bridge were answered with. -/
structure World where
  background : Background.World := {}
  firstId : Nat := 0
  clients : List Client := []
  gone : List FrameKey := []
  sessions : HashMap (Client × DeviceId) Token := ∅
  controlQueue : List Job := []
  controlPending : Option (Job × Stage) := none
  tasks : List Task := []
  events : List Event := []
  handed : List Token := []

namespace World
variable (b : Browser) (w : World)

def enqueue (job : Job) : World := { w with controlQueue := w.controlQueue ++ [job] }

def start (t : Task) : World := { w with tasks := w.tasks ++ [t] }

/-- `sessions.has` for the client. -/
def has (d : DeviceId) (c : Client) : Bool := (w.sessions.lookup (c,d)).isSome

def frames : List FrameKey := (w.clients.map fun c => c.frame).eraseDups

/-- `sessionsForContext`. -/
def clientsOf (frame : FrameKey) : List Client := w.clients.filter fun c => c.frame == frame

def devicesOf (clients : List Client) : List DeviceId :=
  ((w.sessions.keys.filter fun key => clients.contains key.1).map Prod.snd).eraseDups

/-- `reconcileFrameDevice` on each of the frames, up to where each waits: the sessions
    that are deleted and what goes on. -/
def reconcileFrames (frames : List FrameKey) (d : DeviceId) : List (Client × DeviceId) × List Task :=
  let clients := (frames.map fun frame => (w.clientsOf frame).filter (w.has d)).filter fun cs => !cs.isEmpty
  (clients.filterMap fun cs => cs.head?.map fun c => (c,d),clients.map fun cs => .reconcile d cs.tail)

/-- `resetAuthorityState` at the next device of a frame. -/
def resetDevice (frames : List FrameKey) (clients : List Client) (devices : List DeviceId) (d : DeviceId) :
    List (Client × DeviceId) × List Task :=
  match clients.filter (w.has d) with
  | [] => ([],[.reset frames clients devices d []])
  | c :: rest => ([(c,d)],[.reset frames clients devices d rest])

/-- `resetAuthorityState` at the next frame. -/
def resetFrames : List FrameKey → List (Client × DeviceId) × List Task
  | [] => ([],[])
  | frame :: frames =>
    match w.devicesOf (w.clientsOf frame) with
    | [] => resetFrames frames
    | d :: devices => w.resetDevice frames (w.clientsOf frame) devices d

def continued : Task → List (Client × DeviceId) × List Task
  | .reconcile d (c :: rest) => ([(c,d)],[.reconcile d rest])
  | .reset frames clients devices d (c :: rest) => ([(c,d)],[.reset frames clients devices d rest])
  | .reset frames clients (d :: devices) _ [] => w.resetDevice frames clients devices d
  | .reset frames _ [] _ [] => w.resetFrames frames
  | _ => ([],[])

/-- `handleBackgroundEvent` and `handleGlobalReset`. -/
def reconciled : Event → List (Client × DeviceId) × List Task
  | .disconnect d => w.reconcileFrames w.frames d
  | .revoked d origin => w.reconcileFrames (w.frames.filter fun frame => b.originOf frame == origin) d
  | .globalReset => w.resetFrames w.frames

def apply (done : List (Client × DeviceId) × List Task) : World :=
  { w with sessions := eraseAll w.sessions done.1, tasks := w.tasks ++ done.2 }

/-- `handleOpenSuccess` up to where it waits, and the rest of an open that it refuses. -/
def handleOpenSuccess (c : Client) (d : DeviceId) (t : Token) : World :=
  if c ∈ w.clients then { w with sessions := w.sessions.insert (c,d) t }.start (.plane c d t)
  else w.start (.discard d t)

/-- `handleGenericRequest` after the answer. The map of a client that is gone is no
    longer read. -/
def delivered : Job → Reply → World
  | .opening c d,.opened t => w.handleOpenSuccess c d t
  | .closing c d _,.ok => { w with sessions := w.sessions.erase (c,d) }
  | .closing c d (some t),.failed => if c ∈ w.clients then { w with sessions := w.sessions.insert (c,d) t } else w
  | _,_ => w

/-- A task goes on. An open that has no data plane gives its session up. -/
def resumed : Task → Bool → World
  | .plane _ _ _,true => w
  | .plane c d t,false => { w with sessions := w.sessions.erase (c,d) }.start (.discard d t)
  | .discard d t,_ => w.enqueue (.cleanupSession d t)
  | task,_ => w.apply (w.continued task)

/-- `destroyFrameContext`. -/
def destroyFrame (frame : FrameKey) : World :=
  { w with
    clients := w.clients.filter fun c => c.frame != frame
    sessions := retain w.sessions fun key _ => key.1.frame != frame
    gone := frame :: w.gone }.enqueue (.frameDestroyed frame)

/-- What a handler waits for; one that waits for nothing has refused. -/
def waits (before after : Background.World) : Stage :=
  if before.nextStore < after.nextStore then .stored before.nextStore
  else if before.nextId < after.nextId then .native before.nextId
  else .answered .failed

/-- The handler of a request. The end of a frame is answered some time after its closes. -/
def handle : Job → Option World
  | .opening c d => (Background.step b w.background (.openRequest c d)).map fun after =>
    { w with background := after, controlPending := some (.opening c d,waits w.background after) }
  | .closing c d token => (Background.step b w.background (.closeRequest c d (token.getD ""))).map fun after =>
    { w with background := after, controlPending := some (.closing c d token,waits w.background after) }
  | .cleanupSession d t => (Background.step b w.background (.cleanupSession d t)).map fun after =>
    { w with background := after, controlPending := some (.cleanupSession d t,waits w.background after) }
  | .frameDestroyed frame => (Background.step b w.background (.frameDestroyed frame)).map fun after =>
    { w with background := after, controlPending := some (.frameDestroyed frame,.answered .ok) }

/-- The second lookup of an open finds all that a session needs. -/
def registers (bg : Background.World) (c : Client) (d : DeviceId) (r : NmResponse) : Bool :=
  decide ((b.origin c,d) ∈ bg.allowed) && bg.state.isFrameLifetimeActive (b.tab c) c.frame &&
    (bg.state.registerDeviceSession r.i r.t
      ⟨b.tab c,b.origin c,c.frame,c.frame.bridgeInstanceId,c.clientKey,bg.nextStore⟩).isSome

/-- The native host has answered the request that a handler waits for. -/
def hostAnswered (bg : Background.World) (r : NmResponse) : Job → Stage
  | .opening _ _ =>
    if !isOk r.s then .answered .failed
    else if r.i ≠ 0 then .stored bg.nextStore
    else if r.t ≠ "" then .answered (.opened r.t)
    else .answered .failed
  | .cleanupSession _ _ => .answered (if isCleanupConfirmed r.s then .ok else .failed)
  | _ => .answered (if isOk r.s then .ok else .failed)

/-- Where the request stands after a step of the background. -/
def follow (bg : Background.World) (a : Background.Action) (job : Job) : Stage → Stage
  | .stored k =>
    if a = .stored k then
      match bg.store.lookup k with
      | some (.openLookup c d) => if (b.origin c,d) ∈ bg.allowed then .native bg.nextId else .answered .failed
      | some (.openRecheck c d r) => if registers b bg c d r then .answered (.opened r.t) else .discarding bg.nextId
      | _ => .stored k
    else if a = .storeFailed k then .answered .failed
    else .stored k
  | .native n =>
    match a with
    | .answer m r => if m = n then hostAnswered bg r job else .native n
    | .timeout m => if m = n then .answered .failed else .native n
    | _ => .native n
  | .discarding n =>
    match a with
    | .answer m _ => if m = n then .answered .failed else .discarding n
    | .timeout m => if m = n then .answered .failed else .discarding n
    | _ => .discarding n
  | stage => stage

/-- The end of a revocation tells all tabs. -/
def announced (bg : Background.World) : Background.Action → List Event
  | .stored k =>
    match bg.store.lookup k with
    | some (.revokeFinish origin call) => call.toRevoke.map fun d => .revoked d origin
    | _ => []
  | _ => []

/-- The token that the request on the port is answered with. -/
def handedOver : Option (Job × Stage) → List Token
  | some (_,.answered (.opened t)) => [t]
  | _ => []

def after (a : Background.Action) (bg : Background.World) : World :=
  let pending := w.controlPending.map fun entry => (entry.1,follow b w.background a entry.1 entry.2)
  { w with
    background := bg
    controlPending := pending
    events := w.events ++ announced w.background a
    handed := handedOver pending ++ w.handed }

/-- What happens in the background without the bridge. The tab and the bridge stay, no
    other bridge knows its tokens, and a native port that is gone does not answer. -/
def foreign (bridge : String) : Background.Action → Bool
  | .openRequest c _ => c.frame.bridgeInstanceId != bridge
  | .closeRequest c _ _ => c.frame.bridgeInstanceId != bridge
  | .cleanupSession _ t => !w.handed.contains t
  | .frameDestroyed frame => frame.bridgeInstanceId != bridge
  | .bridgeGone other => other != bridge
  | .tabRemoved tab => tab != b.tabOf bridge
  | .answer n _ => w.firstId ≤ n
  | _ => true

end World

/-! ### Steps -/

inductive Action where
  | join (c : Client)
  | leave (frame : FrameKey)
  | openRequest (c : Client) (d : DeviceId)
  | closeRequest (c : Client) (d : DeviceId)
  | send
  | handle
  | deliver
  | resume (k : Nat) (accepted : Bool)
  | event (k : Nat)
  | background (a : Background.Action)
  | deviceLost (d : DeviceId)
  | daemonLost
  deriving DecidableEq, Repr

/-- `none` when the action cannot happen in the state. The requests that a lost daemon
    leaves behind are rejected, each as by its timer. -/
def step (b : Browser) (bridge : String) (w : World) : Action → Option World
  | .join c =>
    if c.frame.bridgeInstanceId = bridge ∧ c ∉ w.clients ∧ c.frame ∉ w.gone then
      some { w with clients := w.clients ++ [c] }
    else none
  | .leave frame => if w.clients.any fun c => c.frame == frame then some (w.destroyFrame frame) else none
  | .openRequest c d => if c ∈ w.clients then some (w.enqueue (.opening c d)) else none
  | .closeRequest c d =>
    if c ∈ w.clients then some (w.enqueue (.closing c d (w.sessions.lookup (c,d)))) else none
  | .send =>
    match w.controlPending,w.controlQueue with
    | none,job :: rest => some { w with controlQueue := rest, controlPending := some (job,.posted) }
    | _,_ => none
  | .handle =>
    match w.controlPending with
    | some (job,.posted) => w.handle b job
    | _ => none
  | .deliver =>
    match w.controlPending with
    | some (job,.answered reply) => some ({ w with controlPending := none }.delivered job reply)
    | _ => none
  | .resume k accepted => (w.tasks[k]?).map fun t => { w with tasks := w.tasks.eraseIdx k }.resumed t accepted
  | .event k => (w.events[k]?).map fun e => { w with events := w.events.eraseIdx k }.apply (w.reconciled b e)
  | .background a =>
    if w.foreign b bridge a then (Background.step b w.background a).map (w.after b a) else none
  | .deviceLost d =>
    some { w with
      background := { w.background with state := w.background.state.clearDeviceOwnership d }
      events := w.events ++ [.disconnect d] }
  | .daemonLost =>
    some { w with
      background := { w.background with state := w.background.state.clearAuthorityOwnership }
      firstId := w.background.nextId
      events := w.events ++ [.globalReset] }

def init : World := {}

/-- The background has the token registered for the client. -/
def registered (w : World) (c : Client) (d : DeviceId) (t : Token) : Bool :=
  (w.background.state.deviceSessions.lookup (d,t)).any fun o => o.frameKey == c.frame && o.clientKey == c.clientKey

/-- Nothing is under way. -/
def settled (w : World) : Bool :=
  w.controlQueue.isEmpty && w.controlPending.isNone && w.tasks.isEmpty && w.events.isEmpty &&
    w.background.pending.entries.isEmpty && w.background.store.entries.isEmpty

def Agrees (bridge : String) (w : World) : Prop := ∀ c d t, c.frame.bridgeInstanceId = bridge →
  (w.sessions.lookup (c,d) = some t ↔ registered w c d t = true)

end FFWebHid.BridgeSessions
