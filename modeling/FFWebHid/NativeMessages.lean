import Mathlib.Data.List.Infix
import FFWebHid.WireFormats
import FFWebHid.Registry

/-!
The native-messaging protocol of the daemon: how a request is read from the
byte stream of a client, and how it is answered. JSON and base64 are decoded by
other crates, which are parameters. The calls into the device manager run beside
those of other clients, so what a call returns is a parameter too; only the
check of a report, which is made at once, is the manager's own.
-/
namespace FFWebHid.NativeMessages
open FFWebHid.Types FFWebHid.LittleEndian FFWebHid.WireFormats FFWebHid.Registry

/-- `serde_json::Value`. The integers are those of 64 bits, without or with a sign. -/
inductive Value where
  | null
  | bool (b : Bool)
  | posInt (n : UInt64)
  | negInt (n : Int)
  | float (literal : String)
  | string (s : String)
  | array (items : List Value)
  | object (fields : List (String × Value))

def Value.get (v : Value) (key : String) : Option Value :=
  match v with
  | .object fields => fields.lookup key
  | _ => none

def Value.asU64 : Value → Option UInt64
  | .posInt n => some n
  | _ => none

def Value.asStr : Value → Option String
  | .string s => some s
  | _ => none

/-- `webhid::types::DeviceFilter`. -/
structure DeviceFilter where
  vendorId : Option UInt32 := none
  productId : Option UInt32 := none
  usagePage : Option UInt32 := none
  usage : Option UInt32 := none

structure EnumerateFilter where
  filters : List DeviceFilter := []
  exclusionFilters : List DeviceFilter := []

/-- The string under `d`, if any, and whether the message has an `a`. -/
structure PackedEnvelope where
  d : Option String
  a : Bool

/-- What is used of the crates `serde_json` and `base64`; an error is its text. -/
structure Decoders where
  envelope : Bytes → Except String PackedEnvelope
  json : Bytes → Except String Value
  filter : Value → Except String EnumerateFilter
  base64 : String → Except String Bytes

inductive NmRequest where
  | enumerate (id : Option UInt32) (filter : Option EnumerateFilter)
  | openDevice (id : Option UInt32) (deviceId : DeviceId)
  | close (id : Option UInt32) (deviceId : DeviceId) (sessionToken : Option Token)
  | sendReport (id : Option UInt32) (packed : Bytes)
  | receiveFeatureReport (id : Option UInt32) (deviceId : DeviceId) (reportId : UInt8)
  | sendFeatureReport (id : Option UInt32) (deviceId : DeviceId) (reportId : UInt8) (data : Bytes)
  | setDataPlane (id : Option UInt32) (deviceId : DeviceId) (mode : String) (sessionToken : Option Token)
  | handshake (id : Option UInt32)

def NmRequest.id : NmRequest → Option UInt32
  | .enumerate id _ => id
  | .openDevice id _ => id
  | .close id _ _ => id
  | .sendReport id _ => id
  | .receiveFeatureReport id _ _ => id
  | .sendFeatureReport id _ _ _ => id
  | .setDataPlane id _ _ _ => id
  | .handshake id => id

def actEnum : UInt8 := 1
def actOpen : UInt8 := 2
def actClose : UInt8 := 3
def actRecvFeature : UInt8 := 5
def actSetDataPlane : UInt8 := 7
def actHandshake : UInt8 := 8

/-- `{:#x}` of a byte. -/
def hex (byte : UInt8) : String := "0x" ++ String.ofList (Nat.toDigits 16 byte.toNat)

/-- What `try_read_packed` makes of the decoded bytes. The identifier of a packed
    output report stays in them. -/
def requestOfPacked : Bytes → Except String NmRequest
  | [] => .error "empty packed TLV"
  | msgType :: rest =>
    if msgType = pkgSendReport then .ok (.sendReport none (msgType :: rest))
    else if msgType = pkgSendFeatureReport then
      match parsePackedSend (msgType :: rest) with
      | .error e => .error e
      | .ok (reqId,deviceId,reportId,data) => .ok (.sendFeatureReport (some reqId) deviceId reportId data)
    else .error s!"unknown packed msgType: {hex msgType}"

/-- `try_read_packed`: nothing when the message is not packed. -/
def tryReadPacked (lib : Decoders) (buf : Bytes) : Except String (Option NmRequest) :=
  match lib.envelope buf with
  | .error _ => .ok none
  | .ok ⟨none,_⟩ => .ok none
  | .ok ⟨some _,true⟩ => .ok none
  | .ok ⟨some d,false⟩ =>
    match lib.base64 d with
    | .error e => .error s!"bad b64: {e}"
    | .ok packed => (requestOfPacked packed).map some

def getStr (v : Value) (key : String) : Except String String :=
  match (v.get key).bind Value.asStr with
  | none => .error s!"missing '{key}'"
  | some s => .ok s

/-- `get_u8` and `get_u32`, with the conversion `try_from` of the width. -/
def getNarrow {N : Type} (bound : Nat) (narrow : UInt64 → N) (v : Value) (key : String) : Except String N :=
  match (v.get key).bind Value.asU64 with
  | none => .error s!"missing '{key}'"
  | some n => if n.toNat < bound then .ok (narrow n) else .error s!"'{key}' value {n} out of range"

def getU8 : Value → String → Except String UInt8 := getNarrow 0x100 UInt64.toUInt8
def getU32 : Value → String → Except String UInt32 := getNarrow 0x100000000 UInt64.toUInt32

def jsonAction (v : Value) : Except String UInt8 :=
  match (v.get "a").bind Value.asU64 with
  | none => .error "missing 'a' (action)"
  | some action => if action.toNat < 0x100 then .ok action.toUInt8 else .error s!"action {action} out of range"

def jsonId (v : Value) : Except String (Option UInt32) :=
  match (v.get "n").bind Value.asU64 with
  | none => .ok none
  | some n => if n.toNat < 0x100000000 then .ok (some n.toUInt32) else .error s!"request id {n} out of range"

def jsonFilter (lib : Decoders) (v : Value) : Except String (Option EnumerateFilter) :=
  match v.get "f" with
  | none => .ok none
  | some value =>
    match lib.filter value with
    | .error e => .error s!"invalid enumerate filter: {e}"
    | .ok filter => .ok (some filter)

def sessionTokenField (v : Value) : Option Token := (v.get "T").bind Value.asStr

/-- What `read_json_request` builds once action, identifier and filter are read. -/
def requestOf (v : Value) (action : UInt8) (id : Option UInt32) (filter : Option EnumerateFilter) :
    Except String NmRequest := do
  if action = actEnum then return .enumerate id filter
  else if action = actOpen then return .openDevice id (← getU32 v "i")
  else if action = actClose then return .close id (← getU32 v "i") (sessionTokenField v)
  else if action = actRecvFeature then return .receiveFeatureReport id (← getU32 v "i") (← getU8 v "r")
  else if action = actSetDataPlane then
    return .setDataPlane id (← getU32 v "i") (← getStr v "m") (sessionTokenField v)
  else if action = actHandshake then return .handshake id
  else throw s!"unknown action: {action}"

/-- `read_json_request`. -/
def readJsonRequest (lib : Decoders) (v : Value) : Except String NmRequest := do
  let action ← jsonAction v
  let id ← jsonId v
  let filter ← jsonFilter lib v
  requestOf v action id filter

/-- How the body of a frame is decoded: as a packed message, else as JSON. -/
def decodeBody (lib : Decoders) (buf : Bytes) : Except String NmRequest :=
  match tryReadPacked lib buf with
  | .error e => .error e
  | .ok (some request) => .ok request
  | .ok none =>
    match lib.json buf with
    | .error e => .error s!"JSON decode: {e}"
    | .ok v => readJsonRequest lib v

/-- `protocol::MAX_NM_FRAME`. -/
def maxNmFrame : Nat := 1024 * 1024

inductive FrameReadError where
  | oversized (declared : Nat)
  | malformed (message : String)
  | io
  deriving DecidableEq

/-- `read_nm_request` and `read_nm_request_sync`, with what is left of the stream.
    The body of an oversized frame is not consumed; a stream that ends inside a
    frame leaves nothing to read. -/
def readNmRequest (lib : Decoders) (input : Bytes) : Except FrameReadError NmRequest × Bytes :=
  match readLe 4 input with
  | none => (.error .io,[])
  | some (len,rest) =>
    if maxNmFrame < len then (.error (.oversized len),rest)
    else
      match readExact len rest with
      | none => (.error .io,[])
      | some (buf,rest) =>
        match decodeBody lib buf with
        | .error e => (.error (.malformed e),rest)
        | .ok request => (.ok request,rest)

structure NmResponse where
  id : Option UInt32 := none
  status : Option UInt16 := none
  devices : Option (List DeviceInfo) := none
  data : Option Bytes := none
  sessionToken : Option Token := none
  wsPort : Option UInt16 := none
  wsNonce : Option String := none
  wtPort : Option UInt16 := none
  wtCertHash : Option String := none
  hidPermission : Option UInt8 := none
  eventType : Option UInt8 := none
  device : Option DeviceInfo := none
  deviceId : Option DeviceId := none

namespace NmResponse
def ok : NmResponse := { status := some 204 }
def okWithData (data : Bytes) : NmResponse := { status := some 200, data := some data }
def okWithDevices (devices : List DeviceInfo) : NmResponse := { status := some 200, devices := some devices }
def okOpened (deviceId : DeviceId) (sessionToken : Option Token) (wsPort : Option UInt16) : NmResponse :=
  { status := some 201, deviceId := some deviceId, sessionToken, wsPort }
def err (code : UInt16) : NmResponse := { status := some code }
def eventConnect (device : DeviceInfo) : NmResponse :=
  { eventType := some 2, device := some device, deviceId := some device.deviceId }
def eventDisconnect (device : DeviceInfo) : NmResponse :=
  { eventType := some 3, device := some device, deviceId := some device.deviceId }
end NmResponse

inductive NmMessage where
  | control (response : NmResponse)
  | packedData (buf : Bytes)

def pkgInputReport : UInt8 := 0x01

def packedInputReport (deviceId : DeviceId) (reports : List (UInt8 × Bytes)) : NmMessage :=
  .packedData ([pkgInputReport] ++ toLe 4 deviceId.toNat ++
    reports.flatMap fun (reportId,payload) => [reportId] ++ toLe 2 payload.length ++ payload)

/-! ### Answers -/

/-- What the handlers call. A call takes the state of the daemon to the state in
    which it returns; an error is its text. -/
structure Daemon (σ : Type) where
  manager : σ → DeviceManager
  enumerateFiltered : σ → Option EnumerateFilter → Except String (List DeviceInfo) × σ
  openDevice : σ → DeviceId → ClientId → Except String (DeviceId × Token) × σ
  close : σ → DeviceId → Token → ClientId → Except String Unit × σ
  setDataplaneMode : σ → DeviceId → Token → String → ClientId → Except String Unit × σ
  enqueueNmOutput : σ → ClientId → DeviceId → UInt8 → Bytes → Except String Unit × σ
  enqueueNmFeatureRead : σ → ClientId → DeviceId → UInt8 → Except String Bytes × σ
  enqueueNmFeatureWrite : σ → ClientId → DeviceId → UInt8 → Bytes → Except String Unit × σ
  forceClose : σ → DeviceId → σ
  ensureCurrent : σ → Option (UInt16 × String) × σ
  hidPermission : σ → UInt8
  wsNonce : String
  wsPort : UInt16

/-- `str::contains`. -/
def contains (message pattern : String) : Bool := decide (pattern.toList <:+: message.toList)

section Handlers
variable {σ : Type} (daemon : Daemon σ) (clientId : ClientId) (state : σ)

def handleEnumerate (filter : Option EnumerateFilter) : NmResponse × σ :=
  match daemon.enumerateFiltered state filter with
  | (.ok devices,next) => (.okWithDevices devices,next)
  | (.error _,next) => (.err 500,next)

def handleOpen (deviceId : DeviceId) : NmResponse × σ :=
  match daemon.openDevice state deviceId clientId with
  | (.ok (opened,token),next) =>
    ({ NmResponse.okOpened opened (some token) (some daemon.wsPort) with
        hidPermission := some (daemon.hidPermission next) },next)
  | (.error msg,next) =>
    let code := if contains msg "not found" || contains msg "No such" then 404 else 500
    ({ NmResponse.err code with hidPermission := some (daemon.hidPermission next) },next)

def handleClose (deviceId : DeviceId) (sessionToken : Option Token) : NmResponse × σ :=
  match sessionToken with
  | none => (.err 400,state)
  | some token =>
    match daemon.close state deviceId token clientId with
    | (.ok (),next) => (.ok,next)
    | (.error msg,next) =>
      (.err (if contains msg "owned by another" then 403 else if contains msg "not open" then 404 else 500),next)

/-- `handle_send_report`: bytes that do not parse are answered before their
    identifier is known. -/
def handleSendReport (packed : Bytes) : NmResponse × σ :=
  match parsePackedSend packed with
  | .error _ => (.err 422,state)
  | .ok (reqId,deviceId,reportId,data) =>
    let (resp,next) : NmResponse × σ :=
      match (daemon.manager state).nmReportSendAllowed clientId deviceId reportId .output (some data.length) with
      | .ok () =>
        match daemon.enqueueNmOutput state clientId deviceId reportId data with
        | (.ok (),next) => (.ok,next)
        | (.error _,next) => (.err 500,next)
      | .error .blocked => (.err 403,state)
      | .error .invalid => (.err 500,state)
    ({ resp with id := some reqId },next)

def reportPrecheck (deviceId : DeviceId) (reportId : UInt8) (reportType : ReportType) (payloadLen : Option Nat) :
    Except NmResponse Unit :=
  match (daemon.manager state).nmReportSendAllowed clientId deviceId reportId reportType payloadLen with
  | .ok () => .ok ()
  | .error .blocked => .error (.err 403)
  | .error .invalid => .error (.err 500)

def handleReceiveFeatureReport (deviceId : DeviceId) (reportId : UInt8) : NmResponse × σ :=
  match reportPrecheck daemon clientId state deviceId reportId .feature none with
  | .error resp => (resp,state)
  | .ok () =>
    match daemon.enqueueNmFeatureRead state clientId deviceId reportId with
    | (.ok data,next) => (.okWithData data,next)
    | (.error _,next) => (.err 500,next)

def handleSendFeatureReport (deviceId : DeviceId) (reportId : UInt8) (data : Bytes) : NmResponse × σ :=
  match reportPrecheck daemon clientId state deviceId reportId .feature (some data.length) with
  | .error resp => (resp,state)
  | .ok () =>
    match daemon.enqueueNmFeatureWrite state clientId deviceId reportId data with
    | (.ok (),next) => (.ok,next)
    | (.error _,next) => (.err 500,next)

def handleSetDataPlane (deviceId : DeviceId) (mode : String) (sessionToken : Option Token) : NmResponse × σ :=
  match sessionToken with
  | none => (.err 400,state)
  | some token =>
    match daemon.setDataplaneMode state deviceId token mode clientId with
    | (.ok (),next) => (.ok,next)
    | (.error msg,next) =>
      (.err (if contains msg "owned by another" then 403
        else if contains msg "invalid data plane mode" then 400 else 404),next)

def handleHandshake : NmResponse × σ :=
  let (current,next) := daemon.ensureCurrent state
  ({ status := some 200, wsPort := some daemon.wsPort, wsNonce := some daemon.wsNonce,
     wtPort := current.map (·.1), wtCertHash := current.map (·.2),
     hidPermission := some (daemon.hidPermission next) },next)

/-- The handler of a request, before `dispatch` adds the identifier. -/
def handleRequest : NmRequest → NmResponse × σ
  | .enumerate _ filter => handleEnumerate daemon state filter
  | .openDevice _ deviceId => handleOpen daemon clientId state deviceId
  | .close _ deviceId sessionToken => handleClose daemon clientId state deviceId sessionToken
  | .sendReport _ packed => handleSendReport daemon clientId state packed
  | .receiveFeatureReport _ deviceId reportId => handleReceiveFeatureReport daemon clientId state deviceId reportId
  | .sendFeatureReport _ deviceId reportId data =>
    handleSendFeatureReport daemon clientId state deviceId reportId data
  | .setDataPlane _ deviceId mode sessionToken =>
    handleSetDataPlane daemon clientId state deviceId mode sessionToken
  | .handshake _ => handleHandshake daemon state

def dispatch (request : NmRequest) : NmResponse × σ :=
  let (resp,next) := handleRequest daemon clientId state request
  (if resp.id.isNone then { resp with id := request.id } else resp,next)

end Handlers
end FFWebHid.NativeMessages
