import FFWebHid.LittleEndian
import FFWebHid.Runs
import FFWebHid.Types
import FFWebHid.Registry
import FFWebHid.Lifecycle
import FFWebHid.WireFormats
import FFWebHid.NativeMessages
import FFWebHid.TransportFrames
import FFWebHid.ReportResults

/-!
The tasks of one WebSocket or WebTransport connection. Everything for the peer passes
through one bounded queue: the responses to its frames, the input batches and the
answers to its pings. A WebSocket connection takes frames into a second queue, and
ends with any of its tasks; a WebTransport session reads the next frame when it has
answered the last, and waits for its reader only.

A task that the connection waits for takes it down when it ends; what the others do
until they are stopped is left out. The producers of input batches and the manager
behind the handlers are not part of the state: any batch may be flushed, and the
manager may have changed in any way when a handler ends.
-/
namespace FFWebHid.Connections
open FFWebHid.LittleEndian FFWebHid.Runs FFWebHid.Types FFWebHid.Registry FFWebHid.Lifecycle FFWebHid.TransportFrames
open FFWebHid.ReportResults (fieldAt_reqId)

/-- What is sent to the peer; a response with the frame that it answers. -/
inductive Message where
  | response (frame : Bytes) (bytes : Bytes)
  | batch (bytes : Bytes)
  | pong (data : Bytes)
  deriving DecidableEq, Repr

def Message.answers : Message → Option Bytes
  | .response frame _ => some frame
  | _ => none

/-- `received` are the frames of the peer that ask for a response, `produced` the
    messages that the tasks had for the peer, and `sent` those that were written to it. -/
structure Connection where
  inbox : List Bytes := []
  busy : Option Bytes := none
  outbox : List Message := []
  writer : Bool := true
  sender : Bool := true
  down : Bool := false
  received : List Bytes := []
  produced : List Message := []
  sent : List Message := []
  deriving DecidableEq, Repr

/-- The capacity of both queues. -/
def capacity : Nat := 1024

/-- A frame with a type and an identifier. -/
def asks (frame : Bytes) : Bool := 5 ≤ frame.length

inductive Event (σ : Type) where
  | frame (frame : Bytes)
  | ping (data : Bytes)
  | take
  | handle (state : σ)
  | flush (batch : Bytes)
  | write (ok : Bool)
  | hangUp

namespace Connection
variable (c : Connection)

def hasRoom : Bool := c.writer && c.outbox.length < capacity

/-- `try_send`, with whether it succeeded. -/
def trySend (message : Message) : Bool × Connection :=
  let c := { c with produced := c.produced ++ [message] }
  if c.hasRoom then (true,{ c with outbox := c.outbox ++ [message] }) else (false,c)

/-- `try_send` in a task that ends when it fails. -/
def trySendOrEnd (message : Message) : Connection :=
  let (ok,c) := c.trySend message
  if ok then c else { c with down := true }

def receive (frame : Bytes) : Connection := if asks frame then { c with received := c.received ++ [frame] } else c

/-- A frame of the peer. -/
def onFrame (kind : TransportKind) (frame : Bytes) : Option Connection :=
  match kind with
  | .ws =>
    some (if c.inbox.length < capacity then { c.receive frame with inbox := c.inbox ++ [frame] }
      else { c.receive frame with down := true })
  | .wt =>
    if c.busy.isSome then none
    else if frame.length ≤ NativeMessages.maxNmFrame then some { c.receive frame with busy := some frame }
    else some { c with down := true }

/-- The handler of a frame ends: whether the transport is still valid, and what it emits. -/
def onHandled (kind : TransportKind) (frame : Bytes) (alive : Bool) (response : Option Bytes) : Connection :=
  let c := { c with busy := none }
  let c := match response with
    | none => c
    | some bytes =>
      match kind with
      | .ws => (c.trySend (.response frame bytes)).2
      | .wt => c.trySendOrEnd (.response frame bytes)
  if alive then c else { c with down := true }

/-- A flush that fails ends `run_sender`. -/
def onFlush (kind : TransportKind) (batch : Bytes) : Connection :=
  match kind with
  | .ws => c.trySendOrEnd (.batch batch)
  | .wt =>
    let (ok,c) := c.trySend (.batch batch)
    { c with sender := ok }

/-- The writer takes the next message; when it cannot be written, the writer ends, and
    the queue is dropped with it. -/
def onWrite (kind : TransportKind) (ok : Bool) : Option Connection :=
  match c.outbox with
  | [] => none
  | message :: rest =>
    if ok then some { c with outbox := rest, sent := c.sent ++ [message] }
    else some { c with outbox := [], writer := false, down := kind == .ws }

end Connection

section
variable {σ : Type} (kind : TransportKind) (calls : TransportCalls σ) (deviceId : DeviceId) (capability : Flag)

/-- What the tasks of a connection that is up do. Only a WebSocket answers pings and has
    a queue of frames. -/
def run (c : Connection) : Event σ → Option Connection
  | .frame frame => c.onFrame kind frame
  | .ping data =>
    match kind with
    | .ws => some (c.trySendOrEnd (.pong data))
    | .wt => none
  | .take =>
    match c.busy,c.inbox with
    | none,frame :: rest => some { c with inbox := rest, busy := some frame }
    | _,_ => none
  | .handle state => c.busy.map fun frame =>
    let (alive,response,_) := handleClientMessage calls deviceId capability state frame
    c.onHandled kind frame alive response
  | .flush batch => if c.sender then some (c.onFlush kind batch) else none
  | .write ok => if c.writer then c.onWrite kind ok else none
  | .hangUp => some { c with down := true }

def step (c : Connection) (e : Event σ) : Option Connection :=
  if c.down then none else run kind calls deviceId capability c e

end

def init : Connection := {}

/-- Every message for the peer was written to it or is queued, every frame has its one
    response or is still to be handled, and the input sender runs. -/
structure Faithful (c : Connection) : Prop where
  kept : c.produced = c.sent ++ c.outbox
  answered : c.received = c.produced.filterMap Message.answers ++ (c.busy.toList ++ c.inbox).filter asks
  named : ∀ frame bytes, .response frame bytes ∈ c.produced → fieldAt bytes 1 4 = fieldAt frame 1 4
  sender : c.sender = true
  writer : c.writer = true

/-- The connection has lost nothing, or is torn down. -/
def Lossless (c : Connection) : Prop := c.down = true ∨ Faithful c

section
variable {σ : Type} (kind : TransportKind) (calls : TransportCalls σ) (deviceId : DeviceId) (capability : Flag)

end

section
variable {σ : Type} {kind : TransportKind} {calls : TransportCalls σ} {deviceId : DeviceId} {capability : Flag}
  {c c' : Connection} {message : Message}

theorem named_status (respType : UInt8) (frame : Bytes) (status : UInt8) :
    fieldAt (makeStatusResp respType (UInt32.ofNat (fieldAt frame 1 4)) status) 1 4 = fieldAt frame 1 4 := by
  rw [makeStatusResp,fieldAt_reqId]
  exact UInt32.toNat_ofNat_of_lt' (fieldAt_lt frame 1 4)

theorem named_read (frame : Bytes) (status : UInt8) (data : Bytes) :
    fieldAt (makeFeatureReadResp (UInt32.ofNat (fieldAt frame 1 4)) status data) 1 4 = fieldAt frame 1 4 := by
  simp only [makeFeatureReadResp,List.append_assoc]
  rw [← List.append_assoc,fieldAt_reqId]
  exact UInt32.toNat_ofNat_of_lt' (fieldAt_lt frame 1 4)

theorem named_send (state : σ) (msgType : UInt8) (frame payload : Bytes) :
    fieldAt (handleSendReportMsg calls deviceId capability state msgType payload (UInt32.ofNat (fieldAt frame 1 4))).1
      1 4 = fieldAt frame 1 4 := by
  simp only [handleSendReportMsg]
  by_cases valid : (calls.manager state).valid capability = true
  · rw [if_pos valid]
    split
    · exact named_status _ _ _
    · exact named_status _ _ _
    · split <;> exact named_status _ _ _
  · rw [if_neg valid]
    exact named_status _ _ _

theorem named_receive (state : σ) (frame payload : Bytes) :
    fieldAt (handleReceiveFeatureReportMsg calls deviceId capability state payload
      (UInt32.ofNat (fieldAt frame 1 4))).1 1 4 = fieldAt frame 1 4 := by
  simp only [handleReceiveFeatureReportMsg]
  split_ifs
  · split
    · exact named_read _ _ _
    · exact named_read _ _ _
    · split <;> exact named_read _ _ _
  · exact named_read _ _ _

/-- A handler that is not refused emits one response, with the frame's identifier, if
    the frame asks for one. -/
theorem handled (calls : TransportCalls σ) (deviceId : DeviceId) (capability : Flag) (state : σ) (frame : Bytes) :
    let result := handleClientMessage calls deviceId capability state frame
    ((calls.manager state).valid capability = false ∧ result.1 = false ∧ result.2.1 = none) ∨
      (calls.manager state).valid capability = true ∧ result.1 = true ∧ ((asks frame = false ∧ result.2.1 = none) ∨
        asks frame = true ∧ ∃ bytes, result.2.1 = some bytes ∧ fieldAt bytes 1 4 = fieldAt frame 1 4) := by
  simp only [handleClientMessage]
  by_cases valid : (calls.manager state).valid capability = true
  · rw [if_pos valid]
    refine Or.inr ⟨valid,?_⟩
    cases frame with
    | nil => exact ⟨rfl,Or.inl ⟨rfl,rfl⟩⟩
    | cons msgType rest =>
      dsimp only
      by_cases short : (msgType :: rest).length < 5
      · rw [if_pos short]
        exact ⟨rfl,Or.inl ⟨decide_eq_false (Nat.not_le.mpr short),rfl⟩⟩
      · rw [if_neg short]
        have long : asks (msgType :: rest) = true := decide_eq_true (Nat.not_lt.mp short)
        split_ifs
        · exact ⟨rfl,Or.inr ⟨long,_,rfl,named_send state msgType _ _⟩⟩
        · exact ⟨rfl,Or.inr ⟨long,_,rfl,named_receive state _ _⟩⟩
        · exact ⟨rfl,Or.inr ⟨long,_,rfl,named_status _ _ _⟩⟩
  · rw [if_neg valid]
    exact Or.inl ⟨Bool.not_eq_true _ |>.mp valid,rfl,rfl⟩

/-! ### Lossless connections -/

theorem Faithful.init : Faithful init :=
  ⟨rfl,rfl,fun _ _ member => absurd member List.not_mem_nil,rfl,rfl⟩

/-- A message that finds room is kept. -/
theorem trySend_room (message : Message) (room : c.hasRoom = true) : c.trySend message =
    (true,{ c with produced := c.produced ++ [message], outbox := c.outbox ++ [message] }) := if_pos room

theorem Faithful.push (faithful : Faithful c) (message : Message) (plain : message.answers = none) :
    Faithful { c with produced := c.produced ++ [message], outbox := c.outbox ++ [message] } where
  kept := by show c.produced ++ [message] = c.sent ++ (c.outbox ++ [message]); rw [faithful.kept,List.append_assoc]
  answered := by
    show c.received = (c.produced ++ [message]).filterMap Message.answers ++ _
    rw [List.filterMap_append,List.filterMap_cons_none plain,List.filterMap_nil,List.append_nil]
    exact faithful.answered
  named frame bytes member := by
    rcases List.mem_append.mp member with before | new
    · exact faithful.named frame bytes before
    · cases List.mem_singleton.mp new; cases plain
  sender := faithful.sender
  writer := faithful.writer

/-- A frame that asks for a response is the last of those that have none. -/
theorem Faithful.receive (faithful : Faithful c) (frame : Bytes) (busy : Option Bytes) (inbox : List Bytes)
    (last : busy.toList ++ inbox = (c.busy.toList ++ c.inbox) ++ [frame]) :
    Faithful { c.receive frame with busy, inbox } := by
  have answered : (c.receive frame).received =
      (c.receive frame).produced.filterMap Message.answers ++ (busy.toList ++ inbox).filter asks := by
    rw [last,List.filter_append,← List.append_assoc,Connection.receive]
    cases long : asks frame with
    | true => simp [long,faithful.answered]
    | false => simp [long,faithful.answered]
  cases long : asks frame with
  | true =>
    have received : c.receive frame = { c with received := c.received ++ [frame] } := if_pos long
    rw [received] at answered ⊢
    exact ⟨faithful.kept,answered,faithful.named,faithful.sender,faithful.writer⟩
  | false =>
    have received : c.receive frame = c := if_neg (by rw [long]; simp)
    rw [received] at answered ⊢
    exact ⟨faithful.kept,answered,faithful.named,faithful.sender,faithful.writer⟩

/-- The frame of a handler that emits its response goes from the busy to the answered. -/
theorem Faithful.respond (faithful : Faithful c) {frame bytes : Bytes} (busy : c.busy = some frame)
    (long : asks frame = true) (named : fieldAt bytes 1 4 = fieldAt frame 1 4) :
    Faithful { c with
      busy := none
      produced := c.produced ++ [.response frame bytes]
      outbox := c.outbox ++ [.response frame bytes] } where
  kept := by
    show c.produced ++ [_] = c.sent ++ (c.outbox ++ [_])
    rw [faithful.kept,List.append_assoc]
  answered := by
    have before := faithful.answered
    simp only [busy,Option.toList_some,List.singleton_append,List.filter_cons,long,if_true] at before
    show c.received = (c.produced ++ [Message.response frame bytes]).filterMap Message.answers ++ c.inbox.filter asks
    rw [List.filterMap_append,before]
    simp [Message.answers]
  named frame' bytes' member := by
    rcases List.mem_append.mp member with before | new
    · exact faithful.named frame' bytes' before
    · cases List.mem_singleton.mp new; exact named
  sender := faithful.sender
  writer := faithful.writer

/-- Nothing but input batches, and none of them written. -/
def filled (batch : Bytes) (n : Nat) : Connection :=
  { outbox := List.replicate n (.batch batch), produced := List.replicate n (.batch batch) }

theorem filled_room {batch : Bytes} {n : Nat} : (filled batch n).hasRoom = decide (n < capacity) := by
  simp [Connection.hasRoom,filled]

theorem fill (batch : Bytes) {n : Nat} (fits : n ≤ capacity) :
    exec (step kind calls deviceId capability) init (List.replicate n (.flush batch)) = some (filled batch n) := by
  induction n with
  | zero => rfl
  | succ n ih =>
    have room : (filled batch n).hasRoom = true := filled_room.trans (decide_eq_true fits)
    have flushed : step kind calls deviceId capability (filled batch n) (.flush batch) =
        some (filled batch (n + 1)) := by
      show some ((filled batch n).onFlush kind batch) = _
      rw [filled.eq_1 batch (n + 1),List.replicate_succ']
      cases kind with
      | ws => rw [Connection.onFlush,Connection.trySendOrEnd,trySend_room _ room]; rfl
      | wt => rw [Connection.onFlush,trySend_room _ room]; rfl
    rw [List.replicate_succ',exec_append]
    exact ⟨_,ih (Nat.le_of_succ_le fits),exec_cons.mpr ⟨_,flushed,rfl⟩⟩

end

/-- A manager without devices, behind a valid transport. -/
def noDevices : TransportCalls Unit where
  manager _ := { valid := fun _ => true }
  enqueueTransportOutput _ _ _ _ _ := (.error "no device",())
  enqueueTransportFeatureWrite _ _ _ _ _ := (.error "no device",())
  enqueueTransportFeatureRead _ _ _ _ := (.error "no device",())

/-- A request to send an empty report, with identifier 1. -/
def sendRequest : Bytes := [1,1,0,0,0,0]

section
variable {c : Connection}

end

end FFWebHid.Connections
