import Mathlib.Data.List.Forall2
import FFWebHid.RequestFormats
import FFWebHid.Runs

/-!
One native-messaging connection from its first byte to its end. The client has
sent a sequence of frames and then anything that is no further frame. Requests
are read and answered one at a time; between two of them events and input
reports are put into the same output, and other clients change the state of the
daemon.
-/
namespace FFWebHid.Correlation
open FFWebHid.Types FFWebHid.LittleEndian FFWebHid.NativeMessages FFWebHid.RequestFormats
open FFWebHid.Registry FFWebHid.Runs

/-- The body of a frame that the ceiling admits. -/
abbrev Frame := { body : Bytes // body.length ≤ maxNmFrame }

/-- What a client sends: its frames and what follows them. -/
def clientStream (frames : List Frame) (tail : Bytes) : Bytes := stream 4 (frames.map (·.1)) ++ tail

/-- Bytes that do not begin with a whole frame: too few, or a length above the
    ceiling. -/
def Ends (tail : Bytes) : Prop :=
  ∀ len rest, readLe 4 tail = some (len,rest) → maxNmFrame < len ∨ rest.length < len

structure Connection (σ : Type) where
  input : Bytes
  state : σ
  sent : List NmMessage := []
  isOpen : Bool := true

inductive Action (σ : Type) where
  /-- The request loop reads the next frame and answers it. -/
  | request
  /-- An event of the broadcast channel is relayed. -/
  | relay (event : IpcResponse)
  /-- A reader puts input reports into the client's sink. -/
  | deliver (deviceId : DeviceId) (reports : List (UInt8 × Bytes))
  /-- Other clients have changed the daemon. -/
  | others (next : σ)

section Steps
variable {σ : Type} (lib : Decoders) (daemon : Daemon σ) (clientId : ClientId)

/-- One turn of the request loop: a malformed frame is answered with 400 and
    skipped, any other error ends the connection. -/
def handleNext (conn : Connection σ) : Connection σ :=
  match readNmRequest lib conn.input with
  | (.ok request,rest) =>
    let (response,next) := dispatch daemon clientId conn.state request
    { conn with input := rest, state := next, sent := conn.sent ++ [.control response] }
  | (.error (.malformed _),rest) => { conn with input := rest, sent := conn.sent ++ [.control (.err 400)] }
  | (.error _,rest) => { conn with input := rest, isOpen := false }

def relayClientEvent (conn : Connection σ) : IpcResponse → Connection σ
  | .deviceConnected device => { conn with sent := conn.sent ++ [.control (.eventConnect device)] }
  | .deviceDisconnected device =>
    { conn with state := daemon.forceClose conn.state device.deviceId,
                sent := conn.sent ++ [.control (.eventDisconnect device)] }
  | .inputReport _ _ _ => conn

def step (conn : Connection σ) (action : Action σ) : Option (Connection σ) :=
  if conn.isOpen then
    some <| match action with
      | .request => handleNext lib daemon clientId conn
      | .relay event => relayClientEvent daemon conn event
      | .deliver deviceId reports => { conn with sent := conn.sent ++ [packedInputReport deviceId reports] }
      | .others next => { conn with state := next }
  else none

end Steps

/-- A control message without an event type is a response. -/
def asResponse : NmMessage → Option NmResponse
  | .control r => if r.eventType.isNone then some r else none
  | .packedData _ => none

def Connection.responses {σ : Type} (conn : Connection σ) : List NmResponse := conn.sent.filterMap asResponse

/-- A response carries the identifier of a frame from which one can be read. -/
def Answers (lib : Decoders) (frame : Frame) (response : NmResponse) : Prop :=
  ∀ id, readableId lib frame.1 = some id → response.id = some id

/-- The responses so far answer the first frames, each in the sense of `R`; the
    rest is still to be read, from its own boundary, and nothing is left once the
    connection is closed. -/
def Progress {σ : Type} (R : Frame → NmResponse → Prop) (frames : List Frame) (tail : Bytes) (conn : Connection σ) :
    Prop :=
  ∃ answered waiting, frames = answered ++ waiting ∧ List.Forall₂ R answered conn.responses ∧
    (conn.isOpen = true → conn.input = clientStream waiting tail) ∧ (conn.isOpen = false → waiting = [])

section Answer
variable {σ : Type} (daemon : Daemon σ) (clientId : ClientId) (state : σ)

/-- A response that is neither named yet nor an event. -/
def Unnamed (response : NmResponse) : Prop := response.eventType = none ∧ response.id = none

theorem handleEnumerate_unnamed (filter : Option EnumerateFilter) :
    Unnamed (handleEnumerate daemon state filter).1 := by
  unfold handleEnumerate
  split <;> exact ⟨rfl,rfl⟩

theorem handleOpen_unnamed (deviceId : DeviceId) : Unnamed (handleOpen daemon clientId state deviceId).1 := by
  unfold handleOpen
  split <;> exact ⟨rfl,rfl⟩

theorem handleClose_unnamed (deviceId : DeviceId) (sessionToken : Option Token) :
    Unnamed (handleClose daemon clientId state deviceId sessionToken).1 := by
  unfold handleClose
  cases sessionToken with
  | none => exact ⟨rfl,rfl⟩
  | some token => simp only; split <;> exact ⟨rfl,rfl⟩

theorem handleSetDataPlane_unnamed (deviceId : DeviceId) (mode : String) (sessionToken : Option Token) :
    Unnamed (handleSetDataPlane daemon clientId state deviceId mode sessionToken).1 := by
  unfold handleSetDataPlane
  cases sessionToken with
  | none => exact ⟨rfl,rfl⟩
  | some token => simp only; split <;> exact ⟨rfl,rfl⟩

theorem reportPrecheck_unnamed {deviceId : DeviceId} {reportId : UInt8} {reportType : ReportType}
    {payloadLen : Option Nat} {response : NmResponse}
    (refused : reportPrecheck daemon clientId state deviceId reportId reportType payloadLen = .error response) :
    Unnamed response := by
  unfold reportPrecheck at refused
  split at refused <;> cases refused <;> exact ⟨rfl,rfl⟩

theorem handleReceiveFeatureReport_unnamed (deviceId : DeviceId) (reportId : UInt8) :
    Unnamed (handleReceiveFeatureReport daemon clientId state deviceId reportId).1 := by
  unfold handleReceiveFeatureReport
  split
  · case h_1 response refused => exact reportPrecheck_unnamed daemon clientId state refused
  · split <;> exact ⟨rfl,rfl⟩

theorem handleSendFeatureReport_unnamed (deviceId : DeviceId) (reportId : UInt8) (data : Bytes) :
    Unnamed (handleSendFeatureReport daemon clientId state deviceId reportId data).1 := by
  unfold handleSendFeatureReport
  split
  · case h_1 response refused => exact reportPrecheck_unnamed daemon clientId state refused
  · split <;> exact ⟨rfl,rfl⟩

/-- Only the handler of an output report names the request itself, from the packed
    bytes that it parses. -/
theorem handleSendReport_spec (id : Option UInt32) (packed : Bytes) :
    (handleSendReport daemon clientId state packed).1.eventType = none ∧
      (handleSendReport daemon clientId state packed).1.id.or id = answeredId (.sendReport id packed) := by
  unfold handleSendReport
  cases parsed : WireFormats.parsePackedSend packed with
  | error e => simp [answeredId,parsed,NmResponse.err]
  | ok request =>
    simp only [answeredId,parsed,Option.some_or,and_true]
    split
    · split <;> rfl
    · rfl
    · rfl

theorem handleRequest_spec (request : NmRequest) :
    (handleRequest daemon clientId state request).1.eventType = none ∧
      (handleRequest daemon clientId state request).1.id.or request.id = answeredId request := by
  have later : ∀ response : NmResponse, Unnamed response → response.eventType = none ∧
      response.id.or request.id = request.id := by
    rintro response ⟨quiet,unnamed⟩
    exact ⟨quiet,by rw [unnamed,Option.none_or]⟩
  cases request with
  | enumerate _ filter => exact later _ (handleEnumerate_unnamed daemon state filter)
  | openDevice _ deviceId => exact later _ (handleOpen_unnamed daemon clientId state deviceId)
  | close _ deviceId sessionToken => exact later _ (handleClose_unnamed daemon clientId state deviceId sessionToken)
  | sendReport id packed => exact handleSendReport_spec daemon clientId state id packed
  | receiveFeatureReport _ deviceId reportId =>
    exact later _ (handleReceiveFeatureReport_unnamed daemon clientId state deviceId reportId)
  | sendFeatureReport _ deviceId reportId data =>
    exact later _ (handleSendFeatureReport_unnamed daemon clientId state deviceId reportId data)
  | setDataPlane _ deviceId mode sessionToken =>
    exact later _ (handleSetDataPlane_unnamed daemon clientId state deviceId mode sessionToken)
  | handshake _ => exact ⟨rfl,rfl⟩

theorem dispatch_spec (request : NmRequest) :
    (dispatch daemon clientId state request).1.eventType = none ∧
      (dispatch daemon clientId state request).1.id = answeredId request := by
  obtain ⟨quiet,named⟩ := handleRequest_spec daemon clientId state request
  unfold dispatch
  simp only
  cases held : (handleRequest daemon clientId state request).1.id with
  | none => simpa [held,quiet] using named
  | some id => simpa [held,quiet] using named

end Answer

section Turn
variable {σ : Type} {lib : Decoders} {daemon : Daemon σ} {clientId : ClientId}

/-- A frame is decoded from its own bytes, and exactly these are consumed. -/
theorem readNmRequest_frame (frame : Frame) (waiting : List Frame) (tail : Bytes) :
    readNmRequest lib (clientStream (frame :: waiting) tail) =
      match decodeBody lib frame.1 with
      | .error e => (.error (.malformed e),clientStream waiting tail)
      | .ok request => (.ok request,clientStream waiting tail) := by
  have fits : frame.1.length < 256 ^ 4 := Nat.lt_of_le_of_lt frame.2 (by decide)
  have admitted : ¬ maxNmFrame < frame.1.length := Nat.not_lt.mpr frame.2
  unfold readNmRequest clientStream
  rw [List.map_cons,readLe_stream fits]
  cases decoded : decodeBody lib frame.1 <;> simp only [admitted,if_false,readExact_append,decoded]

variable (lib) in
/-- What is no further frame is an error that ends the connection. -/
theorem readNmRequest_ends {tail : Bytes} (ends : Ends tail) :
    (∃ declared rest, readNmRequest lib tail = (.error (.oversized declared),rest)) ∨
      ∃ rest, readNmRequest lib tail = (.error .io,rest) := by
  unfold readNmRequest
  cases read : readLe 4 tail with
  | none => exact .inr ⟨_,rfl⟩
  | some split =>
    obtain ⟨len,rest⟩ := split
    simp only
    by_cases large : maxNmFrame < len
    · rw [if_pos large]
      exact .inl ⟨len,rest,rfl⟩
    · rw [if_neg large]
      have short : rest.length < len := (ends len rest read).resolve_left large
      have missing : readExact len rest = none := by
        rw [readExact,if_neg (Nat.not_le.mpr short)]
      rw [missing]
      exact .inr ⟨_,rfl⟩

theorem responses_append {conn next : Connection σ} {message : NmMessage}
    (sent : next.sent = conn.sent ++ [message]) :
    next.responses = conn.responses ++ (asResponse message).toList := by
  unfold Connection.responses
  rw [sent,List.filterMap_append]
  cases kind : asResponse message <;> simp [kind]

theorem responses_event {conn next : Connection σ} {message : NmMessage}
    (sent : next.sent = conn.sent ++ [message]) (event : asResponse message = none) :
    next.responses = conn.responses := by
  rw [responses_append sent,event,Option.toList_none,List.append_nil]

variable (lib daemon clientId) in
/-- Where a frame is next, the turn answers it with its identifier and comes to the
    boundary behind it. -/
theorem handleNext_frame {conn : Connection σ} {frame : Frame} {waiting : List Frame} {tail : Bytes}
    (next : conn.input = clientStream (frame :: waiting) tail) :
    ∃ response : NmResponse, response.id = bodyId lib frame.1 ∧
      (handleNext lib daemon clientId conn).responses = conn.responses ++ [response] ∧
      (handleNext lib daemon clientId conn).input = clientStream waiting tail ∧
      (handleNext lib daemon clientId conn).isOpen = conn.isOpen := by
  unfold handleNext
  rw [next,readNmRequest_frame]
  unfold bodyId
  cases decodeBody lib frame.1 with
  | error e =>
    refine ⟨.err 400,rfl,?_,rfl,rfl⟩
    have added : asResponse (.control (.err 400)) = some (.err 400) := rfl
    rw [responses_append rfl,added]
    rfl
  | ok request =>
    obtain ⟨quiet,named⟩ := dispatch_spec daemon clientId conn.state request
    have shown : asResponse (.control (dispatch daemon clientId conn.state request).1) =
        some (dispatch daemon clientId conn.state request).1 := by simp [asResponse,quiet]
    refine ⟨_,named,?_,rfl,rfl⟩
    rw [responses_append rfl,shown]
    rfl

variable (lib daemon clientId) in
/-- What follows the frames ends the connection, and nothing is sent. -/
theorem handleNext_ends {conn : Connection σ} (ends : Ends conn.input) :
    (handleNext lib daemon clientId conn).isOpen = false ∧
      (handleNext lib daemon clientId conn).sent = conn.sent := by
  unfold handleNext
  rcases readNmRequest_ends lib ends with ⟨declared,rest,read⟩ | ⟨rest,read⟩
  · rw [read]
    exact ⟨rfl,rfl⟩
  · rw [read]
    exact ⟨rfl,rfl⟩

/-! ### Runs -/

/-- The response at a frame's place is named like the frame's body. -/
def Named (lib : Decoders) (frame : Frame) (response : NmResponse) : Prop := response.id = bodyId lib frame.1

/-- What adds no response and reads nothing keeps the progress. -/
theorem Progress.quiet {R : Frame → NmResponse → Prop} {frames : List Frame} {tail : Bytes}
    {conn next : Connection σ} (progress : Progress R frames tail conn) (responses : next.responses = conn.responses)
    (input : next.input = conn.input) (isOpen : next.isOpen = conn.isOpen) : Progress R frames tail next := by
  obtain ⟨answered,waiting,split,matched,reading,finished⟩ := progress
  exact ⟨answered,waiting,split,responses ▸ matched,fun opened => input.trans (reading (isOpen ▸ opened)),
    fun closed => finished (isOpen ▸ closed)⟩

theorem Progress.handleNext {frames : List Frame} {tail : Bytes} (ends : Ends tail) {conn : Connection σ}
    (isOpen : conn.isOpen = true) (progress : Progress (Named lib) frames tail conn) :
    Progress (Named lib) frames tail (handleNext lib daemon clientId conn) := by
  obtain ⟨answered,waiting,split,matched,reading,_⟩ := progress
  have next := reading isOpen
  cases waiting with
  | nil =>
    have last : conn.input = tail := next
    obtain ⟨closed,sent⟩ := handleNext_ends lib daemon clientId (last ▸ ends)
    refine ⟨answered,[],split,?_,fun opened => ?_,fun _ => rfl⟩
    · rw [Connection.responses,sent]
      exact matched
    · rw [closed] at opened
      cases opened
  | cons frame waiting =>
    obtain ⟨response,named,responses,input,kept⟩ :=
      handleNext_frame lib daemon clientId next
    refine ⟨answered ++ [frame],waiting,?_,?_,fun _ => input,fun closed => ?_⟩
    · rw [split,List.append_assoc,List.singleton_append]
    · rw [responses]
      exact List.rel_append matched (.cons named .nil)
    · rw [kept,isOpen] at closed
      cases closed

theorem Progress.step {frames : List Frame} {tail : Bytes} (ends : Ends tail) {conn next : Connection σ}
    {action : Action σ} (taken : step lib daemon clientId conn action = some next)
    (progress : Progress (Named lib) frames tail conn) : Progress (Named lib) frames tail next := by
  unfold Correlation.step at taken
  split_ifs at taken with isOpen
  cases taken
  cases action with
  | request => exact progress.handleNext ends isOpen
  | relay event =>
    cases event with
    | deviceConnected device => exact progress.quiet (responses_event rfl rfl) rfl rfl
    | deviceDisconnected device => exact progress.quiet (responses_event rfl rfl) rfl rfl
    | inputReport => exact progress
  | deliver deviceId reports => exact progress.quiet (responses_event rfl rfl) rfl rfl
  | others state => exact progress.quiet rfl rfl rfl

theorem step_request {conn : Connection σ} (isOpen : conn.isOpen = true) :
    step lib daemon clientId conn .request = some (handleNext lib daemon clientId conn) := by
  rw [step,if_pos isOpen]

end Turn

end FFWebHid.Correlation
