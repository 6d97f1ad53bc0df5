import FFWebHid.WireFormats
import FFWebHid.Registry

/-!
Requests over the WebSocket and WebTransport planes: how the page's side builds
a frame, how the daemon takes it apart, checks it and answers. A call into the
device manager returns what it returns; the checks are the manager's own.
-/
namespace FFWebHid.TransportFrames
open FFWebHid.Types FFWebHid.LittleEndian FFWebHid.WireFormats FFWebHid.Registry

def msgSendReport : UInt8 := 0x01
def msgSendFeatureReport : UInt8 := 0x02
def msgReceiveFeatureReport : UInt8 := 0x03

def respSendReport : UInt8 := 0x81
def respSendFeatureReport : UInt8 := 0x82
def respReceiveFeatureReport : UInt8 := 0x83

/-- `buildSendFrame` of `wire-format.js`; a feature read has no payload. -/
def buildSendFrame (msgType : UInt8) (reqId reportId : Nat) (payload : Option Bytes) : Bytes :=
  [msgType] ++ toLe 4 reqId ++ [UInt8.ofNat reportId] ++ payload.getD []

def makeStatusResp (respType : UInt8) (reqId : UInt32) (status : UInt8) : Bytes :=
  [respType] ++ toLe 4 reqId.toNat ++ [status]

/-- `make_feature_read_resp`: data whose length does not fit the field is replaced
    by a failure. -/
def makeFeatureReadResp (reqId : UInt32) (status : UInt8) (data : Bytes) : Bytes :=
  let tooLarge : Bool := data.length > 0xFFFF
  [respReceiveFeatureReport] ++ toLe 4 reqId.toNat ++ [if tooLarge then 1 else status] ++
    toLe 2 (if tooLarge then 0 else data.length) ++ if tooLarge then [] else data

/-! ### Requests -/

/-- The response type and the report type of a send. -/
def sendKind (msgType : UInt8) : UInt8 × ReportType :=
  if msgType = msgSendReport then (respSendReport,.output) else (respSendFeatureReport,.feature)

inductive SendPrecheck where
  | proceed (reportId : UInt8)
  | blocked
  | rejected
  deriving DecidableEq

/-- `precheck_report`: the report identifier is the first byte. -/
def precheckReport (m : DeviceManager) (deviceId : DeviceId) (payload : Bytes) (reportType : ReportType)
    (payloadLen : Option Nat) : SendPrecheck :=
  match payload with
  | [] => .rejected
  | reportId :: _ =>
    match m.reportSendAllowed deviceId reportId reportType payloadLen with
    | .error .blocked => .blocked
    | .error .invalid => .rejected
    | .ok () => .proceed reportId

/-- What the handlers call, with the capability of the transport as an argument. -/
structure TransportCalls (σ : Type) where
  manager : σ → DeviceManager
  enqueueTransportOutput : σ → DeviceId → Flag → UInt8 → Bytes → Except String Unit × σ
  enqueueTransportFeatureWrite : σ → DeviceId → Flag → UInt8 → Bytes → Except String Unit × σ
  enqueueTransportFeatureRead : σ → DeviceId → Flag → UInt8 → Except String Bytes × σ

section Handlers
variable {σ : Type} (calls : TransportCalls σ) (deviceId : DeviceId) (capability : Flag) (state : σ)

/-- `handle_send_report_msg`, with the response it emits. -/
def handleSendReportMsg (msgType : UInt8) (payload : Bytes) (reqId : UInt32) : Bytes × σ :=
  let (respType,reportType) := sendKind msgType
  if (calls.manager state).valid capability then
    match precheckReport (calls.manager state) deviceId payload reportType (some (payload.length - 1)) with
    | .blocked => (makeStatusResp respType reqId 2,state)
    | .rejected => (makeStatusResp respType reqId 1,state)
    | .proceed reportId =>
      let (result,next) :=
        if msgType = msgSendReport then
          calls.enqueueTransportOutput state deviceId capability reportId (payload.drop 1)
        else calls.enqueueTransportFeatureWrite state deviceId capability reportId (payload.drop 1)
      match result with
      | .ok () => (makeStatusResp respType reqId 0,next)
      | .error _ => (makeStatusResp respType reqId 1,next)
  else (makeStatusResp respType reqId 1,state)

def handleReceiveFeatureReportMsg (payload : Bytes) (reqId : UInt32) : Bytes × σ :=
  if (calls.manager state).valid capability then
    match precheckReport (calls.manager state) deviceId payload .feature none with
    | .blocked => (makeFeatureReadResp reqId 2 [],state)
    | .rejected => (makeFeatureReadResp reqId 1 [],state)
    | .proceed reportId =>
      match calls.enqueueTransportFeatureRead state deviceId capability reportId with
      | (.ok data,next) => (makeFeatureReadResp reqId 0 data,next)
      | (.error _,next) => (makeFeatureReadResp reqId 1 [],next)
  else (makeFeatureReadResp reqId 1 [],state)

/-- `handle_client_message`: whether the connection goes on, what is emitted, and
    the state. -/
def handleClientMessage (frame : Bytes) : Bool × Option Bytes × σ :=
  if (calls.manager state).valid capability then
    match frame with
    | [] => (true,none,state)
    | msgType :: _ =>
      if frame.length < 5 then (true,none,state)
      else
        let reqId := UInt32.ofNat (fieldAt frame 1 4)
        if msgType = msgSendReport ∨ msgType = msgSendFeatureReport then
          let (response,next) := handleSendReportMsg calls deviceId capability state msgType (frame.drop 5) reqId
          (true,some response,next)
        else if msgType = msgReceiveFeatureReport then
          let (response,next) := handleReceiveFeatureReportMsg calls deviceId capability state (frame.drop 5) reqId
          (true,some response,next)
        else (true,some (makeStatusResp 0xFF reqId 1),state)
  else (false,none,state)

end Handlers
end FFWebHid.TransportFrames
