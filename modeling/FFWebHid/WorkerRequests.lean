import FFWebHid.ReportDecoders
import FFWebHid.ReportResults
import FFWebHid.Runs

/-!
The requests of the isolated worker, `content/isolated/worker/index.js`: the queue
for the time before the transport is open, the table of those that await an answer,
and the replies on the data port. The transport is seen through what it answers at
the time: whether it is open, and whether it takes a frame.
-/
namespace FFWebHid.WorkerRequests
open FFWebHid.Types FFWebHid.LittleEndian FFWebHid.TransportFrames FFWebHid.ReportResults FFWebHid.Runs

/-- A message on the data port: its type, `none` if it is not one that the worker
    knows, and the fields that are read. `data` is absent if it is not a `Uint8Array`. -/
structure Request where
  op : Option PageOp
  reqId : Option Nat
  reportId : Nat
  data : Option Bytes
  deriving DecidableEq

/-- What the closures of a pending entry keep. The ticket is the place of the message
    among all that came, no part of the code. -/
structure Entry where
  ticket : Nat
  op : PageOp
  reqId : Option Nat
  deriving DecidableEq

inductive Output where
  | ready
  | closed
  | authFailed (code : Nat)
  | reply (ticket : Nat) (reqId : Option Nat) (result : PortResult)
  | frame (ticket frameId : Nat) (bytes : Bytes) (taken : Bool)
  | inputReports (reports : List (UInt8 × Option Bytes))
  deriving DecidableEq

/-- The variables of the worker, and everything that it has given out. -/
structure Worker where
  nextReqId : Nat := 1
  pending : List (Nat × Entry) := []
  preOpen : List (Nat × Request) := []
  log : List Output := []
  deriving DecidableEq

/-- The answers of the transport while one event is handled: `isOpen`, false also
    where there is no transport, and `send` for the frame of a request identifier. -/
structure Transport where
  isOpen : Bool
  send : Nat → Bool

def maxPreOpen : Nat := 1024

def Worker.put (w : Worker) (output : Output) : Worker := { w with log := w.log ++ [output] }

def Worker.replyData (w : Worker) (ticket : Nat) (reqId : Option Nat) (result : PortResult) : Worker :=
  w.put (.reply ticket reqId result)

/-- `entry.resolve` and `entry.reject`. -/
def Worker.settle (w : Worker) (entry : Entry) (reply : Reply) : Worker :=
  w.replyData entry.ticket entry.reqId (workerReply entry.op reply)

def Worker.registerPending (w : Worker) (reqId : Nat) (entry : Entry) : Worker :=
  { w with pending := w.pending ++ [(reqId,entry)] }

/-- `pending.delete`. -/
def Worker.delete (w : Worker) (reqId : Nat) : Worker :=
  { w with pending := w.pending.filter (·.1 ≠ reqId) }

/-- `msg.type === 'receiveFeature' ? 'featureResult' : 'sendResult'`. -/
def queueResult (op : Option PageOp) (error : String) : PortResult :=
  { type := if op = some .receiveFeatureReport then "featureResult" else "sendResult", error := some error }

/-- The type of result that `handleSend` and `handleReceiveFeature` reply with. -/
def opResult (op : PageOp) (error : String) : PortResult :=
  { type := if op = .sendReport then "sendResult" else "featureResult", error := some error }

/-- What `handleSend` and `handleReceiveFeature` do with a frame under a new request
    identifier. -/
def Worker.transmit (w : Worker) (t : Transport) (entry : Entry) (frame : Nat → Bytes) : Worker :=
  let reqId := w.nextReqId
  let w := { w with nextReqId := reqId + 1 }.registerPending reqId entry
  let w := w.put (.frame entry.ticket reqId (frame reqId) (t.send reqId))
  if t.send reqId then w
  else
    match w.pending.lookup reqId with
    | none => w
    | some entry => (w.delete reqId).settle entry (.reject (.error "ws closed"))

def Worker.handleSend (w : Worker) (t : Transport) (ticket : Nat) (msg : Request) (op : PageOp) (msgType : UInt8) : Worker :=
  if t.isOpen then
    match msg.data with
    | none => w.replyData ticket msg.reqId (opResult op "bad payload")
    | some payload => w.transmit t ⟨ticket,op,msg.reqId⟩ fun reqId => buildSendFrame msgType reqId msg.reportId (some payload)
  else w.replyData ticket msg.reqId (opResult op "ws not open")

def Worker.handleReceiveFeature (w : Worker) (t : Transport) (ticket : Nat) (msg : Request) : Worker :=
  if t.isOpen then
    w.transmit t ⟨ticket,.receiveFeatureReport,msg.reqId⟩ fun reqId =>
      buildSendFrame msgReceiveFeatureReport reqId msg.reportId none
  else w.replyData ticket msg.reqId (opResult .receiveFeatureReport "ws not open")

def Worker.handleDataPortMessage (t : Transport) (w : Worker) (item : Nat × Request) : Worker :=
  if t.isOpen then
    match item.2.op with
    | some .sendReport => w.handleSend t item.1 item.2 .sendReport msgSendReport
    | some .sendFeatureReport => w.handleSend t item.1 item.2 .sendFeatureReport msgSendFeatureReport
    | some .receiveFeatureReport => w.handleReceiveFeature t item.1 item.2
    | none => w
  else if w.preOpen.length ≥ maxPreOpen then w.replyData item.1 item.2.reqId (queueResult item.2.op "busy")
  else { w with preOpen := w.preOpen ++ [item] }

def Worker.onReady (w : Worker) (t : Transport) : Worker :=
  w.preOpen.foldl (Worker.handleDataPortMessage t) { w.put .ready with preOpen := [] }

def Worker.onClosed (w : Worker) (willReconnect : Bool) : Worker :=
  let w := if willReconnect then w else w.put .closed
  let drained := w.pending.foldl (fun w entry => w.settle entry.2 (.reject (.error "ws closed"))) w
  let drained := { drained with pending := [] }
  drained.preOpen.foldl (fun w item => w.replyData item.1 item.2.reqId (queueResult item.2.op "ws closed"))
    { drained with preOpen := [] }

def Worker.onAuthFailed (w : Worker) (code : Nat) : Worker := w.put (.authFailed code)

def Worker.pushInputBatch (w : Worker) (batch : Bytes) (offset : Nat) : Worker :=
  match ReportDecoders.parseInputReports batch offset with
  | none | some [] => w
  | some reports => w.put (.inputReports reports)

def msgInputBatch : UInt8 := 0x00

/-- Whether a frame of the daemon is an answer to a request. -/
def isResponse (batch : Bytes) : Bool :=
  match batch with
  | [] => false
  | first :: _ => first ≥ 0x81

/-- The request identifier that a response names. -/
def responseId (batch : Bytes) : Nat := fieldAt batch 1 4

def Worker.onBinary (w : Worker) (batch : Bytes) : Worker :=
  if batch.head? = some msgInputBatch then w.pushInputBatch batch 1
  else if isResponse batch then
    match handleControlResponse batch fun reqId => w.pending.lookup reqId with
    | none => w
    | some (entry,reply) => (w.delete (responseId batch)).settle entry reply
  else w.pushInputBatch batch 0

/-- The deadline of a request. -/
def Worker.onTimeout (w : Worker) (reqId : Nat) : Worker :=
  match w.pending.lookup reqId with
  | none => w
  | some entry => (w.delete reqId).settle entry (.reject (.error "request timed out"))

/-! ### What happens to it -/

inductive Event where
  | data (msg : Request) (t : Transport)
  | opened (t : Transport)
  | closed (willReconnect : Bool)
  | authFailed (code : Nat)
  | binary (batch : Bytes)
  | timeout (reqId : Nat)

def Worker.handle (w : Worker) (ticket : Nat) : Event → Worker
  | .data msg t => w.handleDataPortMessage t (ticket,msg)
  | .opened t => w.onReady t
  | .closed willReconnect => w.onClosed willReconnect
  | .authFailed code => w.onAuthFailed code
  | .binary batch => w.onBinary batch
  | .timeout reqId => w.onTimeout reqId

/-- The requests whose frame the transport was given under an identifier that a
    property holds of. -/
def framedAs (log : List Output) (named : Nat → Bool) : List Nat :=
  log.filterMap fun
    | .frame ticket frameId _ _ => if named frameId then some ticket else none
    | _ => none

/-- The requests that an event answers, lets time out, or ends as it closes the
    transport or fails its authentication. A frame carries 32 bits of an identifier. -/
def endedBy (w : Worker) (arrived : Nat) : Event → List Nat
  | .closed _ | .authFailed _ => List.range arrived
  | .timeout reqId => framedAs w.log (· = reqId)
  | .binary batch =>
    if isResponse batch ∧ 6 ≤ batch.length then framedAs w.log (· % 2 ^ 32 = responseId batch) else []
  | _ => []

/-- The worker with a record of what has happened: the messages that came, the
    tickets of those that were ever queued, of those queued when the transport
    opened, and of those that an event has ended. -/
structure World where
  worker : Worker := {}
  requests : List Request := []
  queued : List Nat := []
  opened : List Nat := []
  ended : List Nat := []

def arrivals : Event → List Request
  | .data msg _ => [msg]
  | _ => []

def openedBy (w : Worker) : Event → List Nat
  | .opened t => if t.isOpen then w.preOpen.map (·.1) else []
  | _ => []

def step (w : World) (event : Event) : Option World :=
  let worker := w.worker.handle w.requests.length event
  some {
    worker
    requests := w.requests ++ arrivals event
    queued := w.queued ++ worker.preOpen.map (·.1)
    opened := w.opened ++ openedBy w.worker event
    ended := w.ended ++ endedBy w.worker w.requests.length event }

end FFWebHid.WorkerRequests
