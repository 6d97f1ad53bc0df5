import Mathlib.Data.Finset.Basic
import FFWebHid.Maps
import FFWebHid.StateOps

/-!
The background page between its await points: the handlers of `messages.js` that
open, close, clean up, purge and revoke, the native requests of `nm.js` that they
wait for, and the grant store. JavaScript runs a handler without interruption up to
its next `await`, so one step is one such stretch: it starts with a message, an
answer of the daemon, the 30 s timer of a request, or the end of a store transaction.

A lookup of the store and the code that awaits it are one step, for the transactions
of one store run in order and the promise jobs of one end before the event of the next.
What the handlers answer to the page is left out; no bookkeeping depends on it.
-/
namespace FFWebHid.Background
open FFWebHid.Maps FFWebHid.StateOps

/-- The page or worker of a frame that a bridge forwards a request for. -/
structure Client where
  frame : FrameKey
  clientKey : String
  deriving DecidableEq, Repr

/-- What a bridge knows of its frames and sets in each request: a bridge lives in
    one tab, and a frame generation has one origin. -/
structure Browser where
  tabOf : String → TabId
  originOf : FrameKey → Origin

def Browser.tab (b : Browser) (client : Client) : TabId := b.tabOf client.frame.bridgeInstanceId

def Browser.origin (b : Browser) (client : Client) : Origin := b.originOf client.frame

inductive ReportOp where
  | sendReport
  | receiveFeatureReport
  | sendFeatureReport
  deriving DecidableEq, Repr

/-- The requests to the native host. A close without token has the empty one. -/
inductive NmRequest where
  | openDevice (deviceId : DeviceId)
  | closeDevice (deviceId : DeviceId) (sessionToken : Token)
  | report (op : ReportOp) (deviceId : DeviceId)
  deriving DecidableEq, Repr

/-- The fields of an answer that the handlers read; the empty token is an absent one. -/
structure NmResponse where
  s : Nat
  i : DeviceId := 0
  t : Token := ""
  deriving DecidableEq, Repr

/-- `http.isOk`. -/
def isOk (status : Nat) : Bool := 200 ≤ status && status < 300

/-- A call of `revokeDevices`: what was asked for, and the grant groups of the origin
    that were read. The number of the request is a ghost. -/
structure RevokeCall where
  request : Nat
  targetIds : List DeviceId
  groups : List (List DeviceId)
  deriving DecidableEq, Repr

/-- The groups of a target are revoked with it. -/
def RevokeCall.toRevoke (call : RevokeCall) : List DeviceId :=
  let memberGroups := call.groups.filter fun ids => ids.any fun id => call.targetIds.contains id
  (call.targetIds ++ memberGroups.flatten).eraseDups

/-- Where `revokeDevices` stands: the device whose tokens it closes one after the
    other, and the devices whose grants it has still to remove. -/
structure Revocation where
  origin : Origin
  deviceId : DeviceId
  tokens : List Token
  devices : List DeviceId
  call : RevokeCall
  deriving DecidableEq, Repr

/-- What runs when a native request settles. -/
inductive Continuation where
  | opened (client : Client) (deviceId : DeviceId)
  | cleaned (deviceId : DeviceId) (token : Token) (ownerAtStart : Option Owner) (rest : Option Revocation)
  | closed (client : Client) (deviceId : DeviceId) (token : Token)
  | reported (client : Client) (op : ReportOp) (deviceId : DeviceId)
  deriving DecidableEq, Repr

def Continuation.request : Continuation → NmRequest
  | .opened _ d => .openDevice d
  | .cleaned d t _ _ => .closeDevice d t
  | .closed _ d t => .closeDevice d t
  | .reported _ op d => .report op d

/-- What waits for the grant store. -/
inductive StoreWait where
  | openLookup (client : Client) (deviceId : DeviceId)
  | openRecheck (client : Client) (deviceId : DeviceId) (response : NmResponse)
  | revokeGroups (origin : Origin) (targetIds : List DeviceId)
  | revokeRemove (origin : Origin) (deviceId : DeviceId) (rest : List DeviceId) (call : RevokeCall)
  | revokeFinish (origin : Origin) (call : RevokeCall)
  deriving DecidableEq, Repr

/-- The background page with the native requests and store transactions under way.
    `pending` are the requests that wait for their answer, `inFlight` those that the
    daemon has still to answer: a request that timed out is only in the latter.
    `issued`, `known` and `confirmed` are ghosts: the sessions that the daemon opened, the
    tokens that somebody named, and the sessions whose close was confirmed. -/
structure World where
  state : BgState := {}
  allowed : Finset (Origin × DeviceId) := ∅
  nextId : Nat := 1
  pending : HashMap Nat Continuation := ∅
  inFlight : HashMap Nat NmRequest := ∅
  nextStore : Nat := 0
  store : HashMap Nat StoreWait := ∅
  issued : List (DeviceId × Token) := []
  known : List Token := []
  confirmed : List (DeviceId × Token) := []

namespace World
variable (b : Browser) (w : World)

def sendFrame (c : Continuation) : World :=
  { w with
    nextId := w.nextId + 1
    pending := w.pending.insert w.nextId c
    inFlight := w.inFlight.insert w.nextId c.request }

def await (wait : StoreWait) : World :=
  { w with nextStore := w.nextStore + 1, store := w.store.insert w.nextStore wait }

/-- `closeForCleanup` up to its `await`. -/
def closeForCleanup (deviceId : DeviceId) (token : Token) (rest : Option Revocation) : World :=
  w.sendFrame (.cleaned deviceId token (w.state.deviceSessions.lookup (deviceId,token)) rest)

/-- Update the bookkeeping for a session and send its close. -/
def closeNext (before : BgState → DeviceId × Token → BgState) (key : DeviceId × Token) : World :=
  { w with state := before w.state key }.closeForCleanup key.1 key.2 none

def closeAll (before : BgState → DeviceId × Token → BgState) (keys : List (DeviceId × Token)) : World :=
  keys.foldl (closeNext · before ·) w

def purgeFrame (tabId : TabId) (frameKey : FrameKey) : World :=
  let w := { w with state := w.state.retireFrameLifetime tabId frameKey }
  w.closeAll (fun s key => s.unregisterDeviceTab key.1 tabId) (w.state.collectDeviceSessionsForFrame tabId frameKey)

def purgeBridge (tabId : TabId) (bridgeInstanceId : String) : World :=
  let w := { w with state := w.state.retireBridgeFrames tabId bridgeInstanceId }
  w.closeAll (fun s key => s.unregisterDeviceTab key.1 tabId)
    (w.state.collectDeviceSessionsForBridge tabId bridgeInstanceId)

def purgeTab (tabId : TabId) : World :=
  let w := { w with state := (w.state.forgetTabDevices tabId).forgetTabFrames tabId }
  w.closeAll (fun s _ => s) (w.state.collectDeviceSessionsForTab tabId)

def retryOrphanCleanup : World :=
  w.closeAll (fun s _ => s) (w.state.orphanCleanup.entries.map fun entry => (entry.2,entry.1))

/-- The head of the outer loop of `revokeDevices`. After the loop the grant groups are
    deleted, which cannot fail, and the grants are read once more. -/
def revokeNext (origin : Origin) (call : RevokeCall) : List DeviceId → World
  | [] => w.await (.revokeFinish origin call)
  | d :: rest => w.await (.revokeRemove origin d rest call)

/-- The head of the inner loop of `revokeDevices`. -/
def revokeTokens (rev : Revocation) : World :=
  match rev.tokens with
  | [] => w.revokeNext rev.origin rev.call rev.devices
  | t :: tokens =>
    { w with state := w.state.unregisterOwnerTab rev.deviceId t }.closeForCleanup rev.deviceId t
      (some { rev with tokens })

/-- After `removeAllowedDevice`. -/
def revokeRemoved (origin : Origin) (d : DeviceId) (rest : List DeviceId) (call : RevokeCall) : World :=
  let w := { w with allowed := w.allowed.erase (origin,d) }
  w.revokeTokens ⟨origin,d,(w.state.collectDeviceSessionsForOrigin d origin).map Prod.snd,rest,call⟩

def handleRevokeDevice (origin : Origin) (targetIds : List DeviceId) : World :=
  if origin = "" then w else w.await (.revokeGroups origin targetIds)

/-- The grant groups of the origin were read. -/
def revokeGroupsRead (origin : Origin) (call : RevokeCall) : World := w.revokeNext origin call call.toRevoke

def handleOpen (client : Client) (d : DeviceId) : World :=
  match w.state.registerFrameLifetime (b.tab client) client.frame with
  | none => w
  | some s => { w with state := s }.await (.openLookup client d)

/-- After the first lookup of the grants. -/
def openLookedUp (client : Client) (d : DeviceId) : World :=
  if (b.origin client,d) ∈ w.allowed then w.sendFrame (.opened client d) else w

/-- After the answer of the daemon. -/
def openAnswered (client : Client) (d : DeviceId) (response : NmResponse) : World :=
  if isOk response.s ∧ response.i ≠ 0 then w.await (.openRecheck client d response) else w

/-- After the second lookup of the grants; `ref` is the identity of a new owner. -/
def openRechecked (client : Client) (d : DeviceId) (response : NmResponse) (ref : Nat) : World :=
  let tabId := b.tab client
  let discard := if response.t = "" then w else w.closeForCleanup response.i response.t none
  if (b.origin client,d) ∈ w.allowed ∧ w.state.isFrameLifetimeActive tabId client.frame then
    if response.t = "" then { w with state := w.state.registerDeviceTab response.i tabId }
    else
      match w.state.registerDeviceSession response.i response.t
        ⟨tabId,b.origin client,client.frame,client.frame.bridgeInstanceId,client.clientKey,ref⟩ with
      | none => discard
      | some s => { w with state := s.registerDeviceTab response.i tabId }
  else discard

def handleClose (client : Client) (d : DeviceId) (token : Token) : World :=
  if w.state.isTabAuthorizedForDevice (b.tab client) d ∧ (token = "" ∨
      w.state.isSessionOwnedBy d token (b.origin client) (b.tab client) client.frame client.clientKey) then
    w.sendFrame (.closed client d token)
  else w

/-- After the answer of the daemon. -/
def closeAnswered (client : Client) (d : DeviceId) (token : Token) (response : NmResponse) : World :=
  if isOk response.s then
    let s := w.state.unregisterDeviceTab d (b.tab client)
    { w with
      state := if token = "" then s else s.unregisterDeviceSession d token
      confirmed := (d,token) :: w.confirmed }
  else w

/-- `handleSendReport` and its two siblings. -/
def handleReport (client : Client) (op : ReportOp) (d : DeviceId) : World :=
  if w.state.isTabAuthorizedForDevice (b.tab client) d then w.sendFrame (.reported client op d) else w

/-- `closeForCleanup` after its `await`. -/
def cleanupDone (d : DeviceId) (token : Token) (ownerAtStart : Option Owner) (gone : Bool) : World :=
  if gone then { w with state := w.state.confirmCleanup d token ownerAtStart, confirmed := (d,token) :: w.confirmed }
  else { w with state := w.state.retainOrphanCleanup d token ownerAtStart }

/-- The revocation that awaits the cleanup goes on. -/
def cleanupSettled (d : DeviceId) (token : Token) (ownerAtStart : Option Owner) (rest : Option Revocation)
    (gone : Bool) : World :=
  match rest with
  | none => w.cleanupDone d token ownerAtStart gone
  | some rev => (w.cleanupDone d token ownerAtStart gone).revokeTokens rev

def resolve (response : NmResponse) : Continuation → World
  | .opened client d => w.openAnswered client d response
  | .cleaned d t own rest => w.cleanupSettled d t own rest (isCleanupConfirmed response.s)
  | .closed client d t => w.closeAnswered b client d t response
  | .reported _ _ _ => w

/-- The timer of `sendFrame` rejects the request. -/
def reject : Continuation → World
  | .opened _ _ => w
  | .cleaned d t own rest => w.cleanupSettled d t own rest false
  | .closed _ _ _ => w
  | .reported _ _ _ => w

/-- An open holds the token, and nobody else has seen it. -/
def holds (token : Token) : Bool := (values w.store).any fun wait =>
  match wait with
  | .openRecheck _ _ response => response.t == token
  | _ => false

/-- What the daemon may answer. A successful open names the device that was opened
    and carries a token drawn at random, which nobody has named; a close without
    token is an error. -/
def mayAnswer (response : NmResponse) : NmRequest → Bool
  | .openDevice d => !isOk response.s || response.i == d && response.t != "" && !w.known.contains response.t
  | .closeDevice _ token => !isOk response.s || token != ""
  | .report _ _ => true

def record (response : NmResponse) : NmRequest → World
  | .openDevice d =>
    if isOk response.s then { w with issued := (d,response.t) :: w.issued, known := response.t :: w.known } else w
  | _ => w

end World

/-! ### Steps -/

inductive Action where
  | openRequest (client : Client) (deviceId : DeviceId)
  | closeRequest (client : Client) (deviceId : DeviceId) (token : Token)
  | cleanupSession (deviceId : DeviceId) (token : Token)
  | frameDestroyed (frame : FrameKey)
  | bridgeGone (bridgeInstanceId : String)
  | tabRemoved (tabId : TabId)
  | revokeRequest (origin : Origin) (targetIds : List DeviceId)
  | retryOrphans
  | pair (origin : Origin) (deviceId : DeviceId)
  | report (client : Client) (op : ReportOp) (deviceId : DeviceId)
  | answer (id : Nat) (response : NmResponse)
  | timeout (id : Nat)
  | stored (k : Nat)
  | groupsRead (k : Nat) (groups : List (List DeviceId))
  | storeFailed (k : Nat)
  deriving DecidableEq, Repr

/-- The end of a store transaction. -/
def storeStep (b : Browser) (w : World) (k : Nat) (wait : StoreWait) : Option World :=
  let w := { w with store := w.store.erase k }
  match wait with
  | .openLookup client d => some (w.openLookedUp b client d)
  | .openRecheck client d response => some (w.openRechecked b client d response k)
  | .revokeGroups _ _ => none
  | .revokeRemove origin d rest call => some (w.revokeRemoved origin d rest call)
  | .revokeFinish _ _ => some w

/-- `none` when the action cannot happen in the state. A page cannot name a token
    that only an open under way has seen. -/
def step (b : Browser) (w : World) : Action → Option World
  | .openRequest client d => some (w.handleOpen b client d)
  | .closeRequest client d t => some (w.handleClose b client d t)
  | .cleanupSession d t =>
    if w.holds t then none else some ({ w with known := t :: w.known }.closeForCleanup d t none)
  | .frameDestroyed frame => some (w.purgeFrame (b.tabOf frame.bridgeInstanceId) frame)
  | .bridgeGone bridge => some (w.purgeBridge (b.tabOf bridge) bridge)
  | .tabRemoved tabId => some (w.purgeTab tabId)
  | .revokeRequest origin targetIds => some (w.handleRevokeDevice origin targetIds)
  | .retryOrphans => some w.retryOrphanCleanup
  | .pair origin d => some { w with allowed := insert (origin,d) w.allowed }
  | .report client op d => some (w.handleReport b client op d)
  | .answer id response =>
    match w.inFlight.lookup id with
    | none => none
    | some request =>
      if w.mayAnswer response request then
        let w' := { w with inFlight := w.inFlight.erase id, pending := w.pending.erase id }.record response request
        match w.pending.lookup id with
        | none => some w'
        | some c => some (w'.resolve b response c)
      else none
  | .timeout id =>
    match w.pending.lookup id with
    | none => none
    | some c => some ({ w with pending := w.pending.erase id }.reject c)
  | .stored k => (w.store.lookup k).bind (storeStep b w k)
  | .groupsRead k groups =>
    match w.store.lookup k with
    | some (.revokeGroups origin targetIds) =>
      some ({ w with store := w.store.erase k }.revokeGroupsRead origin ⟨k,targetIds,groups⟩)
    | _ => none
  | .storeFailed k =>
    match w.store.lookup k with
    | none => none
    | some (.revokeGroups _ _) => none
    | some _ => some { w with store := w.store.erase k }

def init : World := {}

/-- One bridge in tab 1; all frames have one origin. -/
def oneTab : Browser := ⟨fun _ => 1,fun _ => "https://example.org"⟩

/-- The window of the bridge's n-th frame. -/
def frameWindow (n : Nat) : Client := ⟨⟨"bridge-a",n⟩,"window"⟩

/-- Both frames open device 7. -/
def bothOpen : List Action :=
  [.pair "https://example.org" 7,
    .openRequest (frameWindow 1) 7,.stored 0,.answer 1 ⟨200,7,"first"⟩,.stored 1,
    .openRequest (frameWindow 2) 7,.stored 2,.answer 2 ⟨200,7,"second"⟩,.stored 3]

end FFWebHid.Background
