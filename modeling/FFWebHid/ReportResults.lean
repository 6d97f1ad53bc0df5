import FFWebHid.SendParity

/-!
How the outcome of a report request comes back to the page: over native messaging
through the background and the bridge, from a transport through the isolated
worker, and from a transport of the page itself. Each hop has its own shape for an
error. The promise of the page is settled at the end.
-/
namespace FFWebHid.ReportResults
open FFWebHid.Types FFWebHid.LittleEndian FFWebHid.WireFormats FFWebHid.TransportFrames
open FFWebHid.NativeMessages FFWebHid.Registry FFWebHid.SendParity

inductive PageOp where
  | sendReport
  | sendFeatureReport
  | receiveFeatureReport
  deriving DecidableEq

/-- What becomes of a request at the daemon. -/
inductive Outcome where
  | success (data : Bytes)
  | blocked
  | failure
  deriving DecidableEq

def nmResponse (op : PageOp) : Outcome → NmResponse
  | .success data => if op = .receiveFeatureReport then .okWithData data else .ok
  | .blocked => .err 403
  | .failure => .err 500

def statusOf : Outcome → UInt8
  | .success _ => 0
  | .blocked => 2
  | .failure => 1

def dataOf : Outcome → Bytes
  | .success data => data
  | _ => []

def transportResponse (op : PageOp) (reqId : UInt32) (outcome : Outcome) : Bytes :=
  match op with
  | .sendReport => makeStatusResp respSendReport reqId (statusOf outcome)
  | .sendFeatureReport => makeStatusResp respSendFeatureReport reqId (statusOf outcome)
  | .receiveFeatureReport => makeFeatureReadResp reqId (statusOf outcome) (dataOf outcome)

/-- The outcome of a request whose check and whose command at the worker are known. -/
def outcomeOf {A : Type} (bytes : A → Bytes) (verdict : Except SendReject Unit) (result : Except String A) : Outcome :=
  match verdict,result with
  | .error .blocked,_ => .blocked
  | .error .invalid,_ => .failure
  | .ok (),.ok a => .success (bytes a)
  | .ok (),.error _ => .failure

def SendKind.op : SendKind → PageOp
  | .output => .sendReport
  | .feature => .sendFeatureReport

section Daemon
variable {σ : Type}

/-- The command of a send at the worker, over native messaging. -/
def nmWrite (daemon : NativeMessages.Daemon σ) (clientId : ClientId) (state : σ) (send : Send) : Except String Unit × σ :=
  if send.reportType = .output
  then daemon.enqueueNmOutput state clientId send.deviceId send.reportId send.payload
  else daemon.enqueueNmFeatureWrite state clientId send.deviceId send.reportId send.payload

/-- The same over a transport. -/
def transportWrite (calls : TransportCalls σ) (capability : Flag) (state : σ) (send : Send) : Except String Unit × σ :=
  if send.reportType = .output
  then calls.enqueueTransportOutput state send.deviceId capability send.reportId send.payload
  else calls.enqueueTransportFeatureWrite state send.deviceId capability send.reportId send.payload

/-- A packed send is answered by its outcome, but for the identifier. -/
theorem nm_answers_send (daemon : NativeMessages.Daemon σ) (clientId : ClientId) (state : σ) {packed : Bytes}
    {request : NmRequest} {send : Send} {kind : SendKind} (decoded : requestOfPacked packed = .ok request)
    (asked : packedSend packed = some send) (type : send.reportType = kind.reportType) :
    { (handleRequest daemon clientId state request).1 with id := none } = nmResponse (SendKind.op kind)
      (outcomeOf (fun _ => []) (nmVerdict (daemon.manager state) clientId send) (nmWrite daemon clientId state send).1) := by
  have answer := congrArg Prod.fst (handleRequest_packed daemon clientId state decoded asked)
  simp only at answer
  rw [answer]
  have notRead : SendKind.op kind ≠ .receiveFeatureReport := by cases kind <;> decide
  unfold nmAnswer nmWrite
  rcases nmVerdict (daemon.manager state) clientId send with reason | _
  · cases reason <;> rfl
  · simp only
    rcases (if send.reportType = .output then daemon.enqueueNmOutput state clientId send.deviceId send.reportId send.payload
      else daemon.enqueueNmFeatureWrite state clientId send.deviceId send.reportId send.payload) with ⟨_ | _,next⟩
    · rfl
    · simp [nmResponse,outcomeOf,notRead]

/-- A read over native messaging is answered by its outcome. -/
theorem nm_answers_read (daemon : NativeMessages.Daemon σ) (clientId : ClientId) (state : σ) (deviceId : DeviceId)
    (reportId : UInt8) : (handleReceiveFeatureReport daemon clientId state deviceId reportId).1 =
      nmResponse .receiveFeatureReport (outcomeOf (fun data => data)
        ((daemon.manager state).nmReportSendAllowed clientId deviceId reportId .feature none)
        (daemon.enqueueNmFeatureRead state clientId deviceId reportId).1) := by
  unfold handleReceiveFeatureReport reportPrecheck
  rcases (daemon.manager state).nmReportSendAllowed clientId deviceId reportId .feature none with reason | _
  · cases reason <;> rfl
  · simp only
    rcases daemon.enqueueNmFeatureRead state clientId deviceId reportId with ⟨_ | data,next⟩ <;> rfl

/-- A framed send is answered by its outcome, as long as the transport is served. -/
theorem transport_answers_send (calls : TransportCalls σ) (capability : Flag) (state : σ) {deviceId : DeviceId}
    {frame : Bytes} {send : Send} {kind : SendKind} (valid : (calls.manager state).valid capability = true)
    (asked : framedSend deviceId frame = some send) (type : send.reportType = kind.reportType) :
    (handleClientMessage calls deviceId capability state frame).2.1 =
      some (transportResponse (SendKind.op kind) (UInt32.ofNat (fieldAt frame 1 4)) (outcomeOf (fun _ => [])
        (transportVerdict (calls.manager state) send) (transportWrite calls capability state send).1)) := by
  rw [handleClientMessage_framed calls capability state valid asked]
  have status : (transportStatus calls capability state send).1 = statusOf (outcomeOf (fun _ => [])
      (transportVerdict (calls.manager state) send) (transportWrite calls capability state send).1) := by
    unfold transportStatus transportWrite
    rcases transportVerdict (calls.manager state) send with reason | _
    · cases reason <;> rfl
    · simp only
      rcases (if send.reportType = .output
        then calls.enqueueTransportOutput state send.deviceId capability send.reportId send.payload
        else calls.enqueueTransportFeatureWrite state send.deviceId capability send.reportId send.payload)
        with ⟨_ | _,next⟩ <;> rfl
  simp only [status]
  unfold respOf
  rw [type]
  cases kind <;> rfl

/-- So is a read. -/
theorem transport_answers_read (calls : TransportCalls σ) (capability : Flag) (state : σ) (deviceId : DeviceId)
    (reqId : UInt32) (reportId : UInt8) (valid : (calls.manager state).valid capability = true) :
    (handleReceiveFeatureReportMsg calls deviceId capability state [reportId] reqId).1 =
      transportResponse .receiveFeatureReport reqId (outcomeOf (fun data => data)
        ((calls.manager state).reportSendAllowed deviceId reportId .feature none)
        (calls.enqueueTransportFeatureRead state deviceId capability reportId).1) := by
  unfold handleReceiveFeatureReportMsg precheckReport
  rw [if_pos valid]
  simp only
  rcases (calls.manager state).reportSendAllowed deviceId reportId .feature none with reason | _
  · cases reason <;> rfl
  · simp only
    rcases calls.enqueueTransportFeatureRead state deviceId capability reportId with ⟨_ | data,next⟩ <;> rfl

end Daemon

/-- Why an entry of a pending map is rejected: the mark `{blocked: true}`, or an
    error. -/
inductive Reason where
  | blocked
  | error (message : String)
  deriving DecidableEq

/-- `String(e.message || e)`. -/
def Reason.text : Reason → String
  | .blocked => "[object Object]"
  | .error message => if message = "" then "Error" else message

inductive Reply where
  | resolve (data : Option Bytes)
  | reject (reason : Reason)
  deriving DecidableEq

/-- `handleControlResponse` of `wire-format.js`: the pending entry that a response
    names, and how it is settled. -/
def handleControlResponse {E : Type} (batch : Bytes) (pending : Nat → Option E) : Option (E × Reply) :=
  if batch.length < 6 then none
  else
    let respType := batch.getD 0 0
    let status := batch.getD 5 0
    (pending (fieldAt batch 1 4)).map fun entry => (entry,
      if respType = respReceiveFeatureReport then
        if status = 2 then .reject .blocked
        else if status ≠ 0 then .reject (.error "feature read failed")
        else if batch.length < 8 then .reject (.error "short feature resp")
        else
          let len := fieldAt batch 6 2
          .resolve (some (if 0 < len ∧ 8 + len ≤ batch.length then (batch.drop 8).take len else List.replicate len 0))
      else if status = 0 then .resolve none
      else if status = 2 then .reject .blocked
      else .reject (.error s!"write failed status={status}"))

/-- A result on the data port; an absent field and one that is null are the same. -/
structure PortResult where
  type : String
  data : Option Bytes := none
  error : Option String := none
  deriving DecidableEq

/-- `http.isOk`. -/
def isOk (status : UInt16) : Bool := 200 ≤ status && status < 300

/-- `handleWorkerReportResponse` of the bridge: a response of the background without
    a status is none. -/
def handleWorkerReportResponse (op : PageOp) (response : Option NmResponse) : PortResult :=
  let status := match response with
    | some r => r.status
    | none => some 500
  let ok := status.any isOk
  match op with
  | .receiveFeatureReport =>
    if status = some 403 then { type := "featureResult", error := some "blocked" }
    else { type := "featureResult", data := if ok then response.bind (·.data) else none }
  | op =>
    let error := if status = some 403 then some "blocked" else if ok then none else some "send failed"
    { type := if op = .sendReport then "sendResult" else "featureResult", error }

/-- What `handleSend` and `handleReceiveFeature` of the worker reply with. -/
def workerReply (op : PageOp) (reply : Reply) : PortResult :=
  let type := if op = .sendReport then "sendResult" else "featureResult"
  match reply with
  | .resolve data => { type, data := if op = .receiveFeatureReport then data else none }
  | .reject reason => { type, error := some reason.text }

/-- How a promise of the page is settled: with `undefined` or the bytes of a view, or
    by an exception. -/
inductive Settlement where
  | resolved (value : Option Bytes)
  | rejected (name message : String)
  deriving DecidableEq

/-- `mapResolve` of the three methods: sends have no value, a read without data has
    an empty one. -/
def mapResolve (op : PageOp) (data : Option Bytes) : Option Bytes :=
  if op = .receiveFeatureReport then some (data.getD []) else none

/-- The entry of a pending map that `sendDeviceRequest` and `inPageRequest` make. -/
def settleEntry (op : PageOp) : Reply → Settlement
  | .resolve data => .resolved (mapResolve op data)
  | .reject .blocked => .rejected "NotAllowedError" "Report is blocked"
  | .reject (.error message) => .rejected "NetworkError" (Reason.error message).text

/-- `handleReportResult`: any error becomes an `Error` with that message. -/
def handleReportResult (op : PageOp) (result : PortResult) : Settlement :=
  match result.error with
  | some message =>
    if message ≠ "" then settleEntry op (.reject (.error message))
    else settleEntry op (.resolve (if result.type = "featureResult" then result.data else none))
  | none => settleEntry op (.resolve (if result.type = "featureResult" then result.data else none))

inductive Plane where
  | nativeMessaging
  | worker
  | inPage
  deriving DecidableEq

/-- The request alone in a map of pending requests. -/
def alone (reqId : UInt32) (op : PageOp) (id : Nat) : Option PageOp := if id = reqId.toNat then some op else none

/-- How the promise is settled when the answer to an outcome comes over a plane. -/
def settle (plane : Plane) (op : PageOp) (reqId : UInt32) (outcome : Outcome) : Option Settlement :=
  match plane with
  | .nativeMessaging => some (handleReportResult op (handleWorkerReportResponse op (some (nmResponse op outcome))))
  | .worker => (handleControlResponse (transportResponse op reqId outcome) (alone reqId op)).map
      fun (op,reply) => handleReportResult op (workerReply op reply)
  | .inPage => (handleControlResponse (transportResponse op reqId outcome) (alone reqId op)).map
      fun (op,reply) => settleEntry op reply

/-- What the page is to see: the data, or the exception of the outcome's kind. -/
def Meets (op : PageOp) (outcome : Outcome) (settlement : Settlement) : Prop :=
  match outcome with
  | .success data => settlement = .resolved (if op = .receiveFeatureReport then some data else none)
  | .blocked => ∃ message, settlement = .rejected "NotAllowedError" message
  | .failure => ∃ message, settlement = .rejected "NetworkError" message

/-- On every plane the promise is settled as the outcome says. -/
def SameResult (op : PageOp) (reqId : UInt32) (outcome : Outcome) : Prop :=
  ∀ plane, ∃ settlement, settle plane op reqId outcome = some settlement ∧ Meets op outcome settlement

/-- The outcomes that survive every hop: no blocked report, no failed read, and no
    read whose length does not fit the field of the response. -/
def Survives (op : PageOp) : Outcome → Prop
  | .success data => op = .receiveFeatureReport → data.length < 0x10000
  | .blocked => False
  | .failure => op ≠ .receiveFeatureReport

/-- What the daemon reads into the buffer of a device always fits the response. -/
theorem read_survives (info : DeviceInfo) {data : Bytes} (filled : data.length ≤ max (Threads.readBufSizeOf info) 64) :
    Survives .receiveFeatureReport (.success data) := by
  have bound : Threads.readBufSizeOf info ≤ 4096 := Nat.min_le_right _ _
  intro _
  omega

theorem length_makeStatusResp (respType : UInt8) (reqId : UInt32) (status : UInt8) :
    (makeStatusResp respType reqId status).length = 6 := by
  simp [makeStatusResp]

/-- The identifier of a request, behind the type byte of its response. -/
theorem fieldAt_reqId (respType : UInt8) (reqId : UInt32) (rest : Bytes) :
    fieldAt ([respType] ++ toLe 4 reqId.toNat ++ rest) 1 4 = reqId.toNat := by
  have field := fieldAt_append [respType] (toLe 4 reqId.toNat) rest
  rw [length_toLe,ofLe_toLe_of_lt reqId.toNat_lt,← List.append_assoc] at field
  exact field

theorem control_status {E : Type} {respType : UInt8} (notRead : respType ≠ respReceiveFeatureReport) (reqId : UInt32)
    (status : UInt8) (pending : Nat → Option E) :
    handleControlResponse (makeStatusResp respType reqId status) pending = (pending reqId.toNat).map fun entry =>
      (entry,if status = 0 then .resolve none else if status = 2 then .reject .blocked
        else .reject (.error s!"write failed status={status}")) := by
  have first : (makeStatusResp respType reqId status).getD 0 0 = respType := rfl
  have last : (makeStatusResp respType reqId status).getD 5 0 = status := rfl
  unfold handleControlResponse
  rw [length_makeStatusResp,first,last,makeStatusResp,fieldAt_reqId]
  simp only [notRead,if_false,Nat.lt_irrefl]

/-- A read whose data fit the length field of the response brings them back. -/
theorem control_read {E : Type} (reqId : UInt32) {data : Bytes} (short : data.length < 0x10000)
    (pending : Nat → Option E) :
    handleControlResponse (makeFeatureReadResp reqId 0 data) pending =
      (pending reqId.toNat).map fun entry => (entry,.resolve (some data)) := by
  have fits : ¬ data.length > 0xFFFF := by omega
  have whole : makeFeatureReadResp reqId 0 data =
      [respReceiveFeatureReport] ++ toLe 4 reqId.toNat ++ ([0] ++ toLe 2 data.length ++ data) := by
    simp [makeFeatureReadResp,fits]
  have length : (makeFeatureReadResp reqId 0 data).length = 8 + data.length := by
    rw [whole]
    simp
    omega
  have field : fieldAt (makeFeatureReadResp reqId 0 data) 6 2 = data.length := by
    have field := fieldAt_append ([respReceiveFeatureReport] ++ toLe 4 reqId.toNat ++ [0]) (toLe 2 data.length) data
    rw [length_toLe,ofLe_toLe_of_lt short] at field
    rw [whole]
    simpa using field
  have body : (makeFeatureReadResp reqId 0 data).drop 8 = data := by
    rw [whole]
    rfl
  have first : (makeFeatureReadResp reqId 0 data).getD 0 0 = respReceiveFeatureReport := rfl
  have status : (makeFeatureReadResp reqId 0 data).getD 5 0 = 0 := by
    rw [whole]
    rfl
  unfold handleControlResponse
  rw [length,first,status,field,body,whole,fieldAt_reqId]
  have header : ¬ 8 + data.length < 6 ∧ ¬ 8 + data.length < 8 := by omega
  simp only [header,if_false,if_true,Nat.le_refl,and_true,List.take_length]
  cases data with
  | nil => rfl
  | cons byte rest => simp

/-- A read that was refused or failed brings back only its status. -/
theorem control_unread {E : Type} (reqId : UInt32) {status : UInt8} (unread : status ≠ 0) (pending : Nat → Option E) :
    handleControlResponse (makeFeatureReadResp reqId status []) pending = (pending reqId.toNat).map fun entry =>
      (entry,if status = 2 then .reject .blocked else .reject (.error "feature read failed")) := by
  have whole : makeFeatureReadResp reqId status [] =
      [respReceiveFeatureReport] ++ toLe 4 reqId.toNat ++ ([status] ++ toLe 2 0) := by
    simp [makeFeatureReadResp]
  have length : (makeFeatureReadResp reqId status []).length = 8 := by
    rw [whole]
    simp
  have first : (makeFeatureReadResp reqId status []).getD 0 0 = respReceiveFeatureReport := rfl
  have sixth : (makeFeatureReadResp reqId status []).getD 5 0 = status := by
    rw [whole]
    rfl
  unfold handleControlResponse
  rw [length,first,sixth,whole,fieldAt_reqId]
  simp [unread]

/-- Data that are too long for the response become a failure. -/
theorem makeFeatureReadResp_long (reqId : UInt32) (status : UInt8) {data : Bytes} (long : 0x10000 ≤ data.length) :
    makeFeatureReadResp reqId status data = makeFeatureReadResp reqId 1 [] := by
  have tooLarge : data.length > 0xFFFF := by omega
  simp [makeFeatureReadResp,tooLarge]

/-! ### The results -/

/-- What the transport's response says to the entry of a request. -/
def replyTo (op : PageOp) (outcome : Outcome) : Reply :=
  match op,outcome with
  | .receiveFeatureReport,.success data =>
    if data.length < 0x10000 then .resolve (some data) else .reject (.error "feature read failed")
  | _,.success _ => .resolve none
  | _,.blocked => .reject .blocked
  | .receiveFeatureReport,.failure => .reject (.error "feature read failed")
  | _,.failure => .reject (.error s!"write failed status={(1 : UInt8)}")

theorem control_reply (op : PageOp) (reqId : UInt32) (outcome : Outcome) :
    handleControlResponse (transportResponse op reqId outcome) (alone reqId op) = some (op,replyTo op outcome) := by
  have found : alone reqId op reqId.toNat = some op := if_pos rfl
  cases op with
  | receiveFeatureReport =>
    unfold transportResponse
    cases outcome with
    | success data =>
      by_cases short : data.length < 0x10000
      · simp [statusOf,dataOf,control_read reqId short,found,replyTo,short]
      · have long : 0x10000 ≤ data.length := Nat.not_lt.mp short
        have failed : (1 : UInt8) ≠ 0 := by decide
        simp [statusOf,dataOf,makeFeatureReadResp_long reqId 0 long,control_unread reqId failed,found,replyTo,short]
    | blocked =>
      have refused : (2 : UInt8) ≠ 0 := by decide
      simp [statusOf,dataOf,control_unread reqId refused,found,replyTo]
    | failure =>
      have failed : (1 : UInt8) ≠ 0 := by decide
      simp [statusOf,dataOf,control_unread reqId failed,found,replyTo]
  | sendReport =>
    have notRead : respSendReport ≠ respReceiveFeatureReport := by decide
    unfold transportResponse
    rw [control_status notRead,found]
    cases outcome <;> rfl
  | sendFeatureReport =>
    have notRead : respSendFeatureReport ≠ respReceiveFeatureReport := by decide
    unfold transportResponse
    rw [control_status notRead,found]
    cases outcome <;> rfl

/-- Over native messaging a blocked report arrives as an error with that text. -/
theorem nm_blocked (op : PageOp) (reqId : UInt32) :
    settle .nativeMessaging op reqId .blocked = some (.rejected "NetworkError" "blocked") := by
  cases op <;> rfl

/-- There a failed read arrives as a read without data. -/
theorem nm_failed_read (reqId : UInt32) :
    settle .nativeMessaging .receiveFeatureReport reqId .failure = some (.resolved (some [])) := rfl

theorem nm_success (op : PageOp) (reqId : UInt32) (data : Bytes) :
    settle .nativeMessaging op reqId (.success data) =
      some (.resolved (if op = .receiveFeatureReport then some data else none)) := by
  cases op <;> rfl

theorem nm_failed_send {op : PageOp} (notRead : op ≠ .receiveFeatureReport) (reqId : UInt32) :
    settle .nativeMessaging op reqId .failure = some (.rejected "NetworkError" "send failed") := by
  cases op with
  | receiveFeatureReport => exact absurd rfl notRead
  | sendReport => rfl
  | sendFeatureReport => rfl

/-- A reply that is no mark of a blocked report comes through the worker unchanged. -/
theorem worker_transparent (op : PageOp) {reply : Reply} (unmarked : reply ≠ .reject .blocked) :
    handleReportResult op (workerReply op reply) = settleEntry op reply := by
  cases reply with
  | resolve data => cases op <;> rfl
  | reject reason =>
    cases reason with
    | blocked => exact absurd rfl unmarked
    | error message =>
      by_cases empty : message = ""
      · subst empty
        cases op <;> rfl
      · cases op <;> simp [handleReportResult,workerReply,settleEntry,Reason.text,empty]

theorem settleEntry_success (op : PageOp) {data : Bytes} (fits : op = .receiveFeatureReport → data.length < 0x10000) :
    settleEntry op (replyTo op (.success data)) = .resolved (if op = .receiveFeatureReport then some data else none) := by
  cases op with
  | receiveFeatureReport => simp [replyTo,fits rfl,settleEntry,mapResolve]
  | sendReport => rfl
  | sendFeatureReport => rfl

/-- The page sees the outcome of a request on every plane alike exactly when it is
    the success of a send, the failure of a send, or a read of fewer than 65536
    bytes. -/
theorem same_result_iff (op : PageOp) (reqId : UInt32) (outcome : Outcome) :
    SameResult op reqId outcome ↔ Survives op outcome := by
  constructor
  · intro same
    cases outcome with
    | success data =>
      rintro rfl
      obtain ⟨settlement,settled,meets⟩ := same .inPage
      by_contra long
      simp only [settle,control_reply,replyTo,if_neg long,Option.map_some,Option.some.injEq] at settled
      rw [← settled] at meets
      cases meets
    | blocked =>
      obtain ⟨settlement,settled,message,meets⟩ := same .nativeMessaging
      rw [nm_blocked,Option.some.injEq] at settled
      rw [← settled,Settlement.rejected.injEq] at meets
      exact absurd meets.1 (by decide)
    | failure =>
      rintro rfl
      obtain ⟨settlement,settled,message,meets⟩ := same .nativeMessaging
      rw [nm_failed_read,Option.some.injEq] at settled
      rw [← settled] at meets
      cases meets
  · intro survives plane
    have unmarked : replyTo op outcome ≠ .reject .blocked := by
      cases outcome with
      | success data =>
        unfold replyTo
        split
        · split <;> simp
        all_goals simp_all
      | blocked => exact absurd survives id
      | failure => cases op <;> simp [replyTo]
    have meets : Meets op outcome (settleEntry op (replyTo op outcome)) := by
      cases outcome with
      | success data => exact settleEntry_success op survives
      | blocked => exact absurd survives id
      | failure => cases op <;> exact ⟨_,rfl⟩
    cases plane with
    | nativeMessaging =>
      cases outcome with
      | success data => exact ⟨_,nm_success op reqId data,rfl⟩
      | blocked => exact absurd survives id
      | failure => exact ⟨_,nm_failed_send survives reqId,_,rfl⟩
    | worker =>
      refine ⟨_,?_,meets⟩
      simp only [settle,control_reply,Option.map_some,worker_transparent op unmarked]
    | inPage =>
      refine ⟨_,?_,meets⟩
      simp only [settle,control_reply,Option.map_some]

/-- A blocked output report: native messaging and the worker lose the mark. -/
theorem blocked_report_differs : ¬ SameResult .sendReport 1 .blocked ∧
    settle .worker .sendReport 1 .blocked = some (.rejected "NetworkError" "[object Object]") ∧
    settle .inPage .sendReport 1 .blocked = some (.rejected "NotAllowedError" "Report is blocked") := by
  refine ⟨?_,by decide,by decide⟩
  intro same
  obtain ⟨settlement,settled,message,meets⟩ := same .nativeMessaging
  rw [nm_blocked,Option.some.injEq] at settled
  rw [← settled,Settlement.rejected.injEq] at meets
  exact absurd meets.1 (by decide)

end FFWebHid.ReportResults
