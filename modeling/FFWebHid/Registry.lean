import Mathlib.Logic.Function.Basic
import Mathlib.Data.List.AList
import FFWebHid.Maps
import FFWebHid.Types
import FFWebHid.Descriptor
import FFWebHid.ReportBlocking

/-!
The registry of the daemon: sessions, published entries, transport capabilities
and native-messaging bindings, with the helpers that run while the lifecycle
mutex is held. Shared cells of the source are named by numbers: a validity flag
by a `Flag`, and everything that is created for one physical open (the queue of
its I/O worker, its epoch, its reader) by the generation of the reservation.
-/
namespace FFWebHid.Registry
open FFWebHid.Types FFWebHid.Maps FFWebHid.Descriptor FFWebHid.ReportBlocking

abbrev Token := String
abbrev ClientId := Nat
abbrev Flag := Nat
/-- The generation of the reservation under which a device was opened. -/
abbrev Lifetime := Nat
/-- The channel on which a client is sent input reports. -/
abbrev Sink := Nat

inductive Mode where
  | nm
  | ws
  | wt
  deriving DecidableEq, Repr

def Mode.ofString : String → Option Mode
  | "nm" => some .nm
  | "ws" => some .ws
  | "wt" => some .wt
  | _ => none

def Mode.isNonNm (mode : Mode) : Bool := mode != .nm

/-- One logical session. Its cancellation signal is named by the token. -/
structure Session where
  token : Token
  deviceId : DeviceId
  ownerClientId : ClientId
  mode : Mode
  wsAuthHash : String
  active : Bool
  wsGeneration : Nat
  wtGeneration : Nat
  deriving DecidableEq, Repr

/-- One open device. `ioTx` is the queue of its worker; the epoch of the worker
    and the stop flag of the reader are named by `lifetime`. -/
structure Entry where
  lifetime : Lifetime
  ioTx : Option Lifetime
  vendorId : UInt16
  productId : UInt16
  readBufSize : Nat
  blocking : DeviceReportBlocking

/-- What a client needs to send to and be sent from a device directly. -/
structure NmHotSession where
  ioTx : Lifetime
  epoch : Lifetime
  valid : Flag
  blocking : DeviceReportBlocking
  vendorId : UInt16
  productId : UInt16
  sink : Sink

/-- A first open in progress; its cells are named by the generation. -/
structure OpenReservation where
  generation : Nat
  deriving DecidableEq, Repr

/-- What a transport is handed when it connects. -/
structure TransportGrant where
  generation : Nat
  capability : Flag
  deriving DecidableEq, Repr

inductive SendReject where
  | blocked
  | invalid
  deriving DecidableEq, Repr

/-- Why an operation on a session is refused. -/
inductive SessionError where
  | invalidMode
  | noSession
  | closed
  | wrongDevice
  | wrongOwner
  deriving DecidableEq, Repr

structure DeviceManager where
  devices : HashMap DeviceId Entry := ∅
  sessions : HashMap Token Session := ∅
  wsAuthHashes : HashMap String Token := ∅
  transportValidity : HashMap Token Flag := ∅
  opening : HashMap DeviceId OpenReservation := ∅
  nmSinks : HashMap ClientId Sink := ∅
  nmHot : HashMap (ClientId × DeviceId) NmHotSession := ∅
  nonNmSessions : Nat := 0
  nextLifetimeGeneration : Nat := 0
  nextClientId : Nat := 0
  /-- The shared cells: validity flags, invalidation and wake-ups of
      reservations, and cancellation signals. -/
  valid : Flag → Bool := fun _ => false
  nextFlag : Flag := 0
  invalidated : Nat → Bool := fun _ => false
  notified : Nat → Nat := fun _ => 0
  cancelled : Token → Bool := fun _ => false

/-- The checks of a send against one blocking state: protection first, then
    report identifier and size. -/
def sendVerdict (b : DeviceReportBlocking) (vendorId productId : UInt16) (reportId : UInt8) (rt : ReportType)
    (payloadLen : Option Nat) : Except SendReject Unit :=
  if b.isReportProtected vendorId productId reportId rt then .error .blocked
  else if b.validateReportSend reportId rt payloadLen then .ok ()
  else .error .invalid

namespace DeviceManager

/-- `fetch_add` and `fetch_sub` on a counter of 64 bits. -/
def fetchAdd (counter n : Nat) : Nat := (counter + n) % 0x10000000000000000
def fetchSub (counter n : Nat) : Nat :=
  (counter + (0x10000000000000000 - n % 0x10000000000000000)) % 0x10000000000000000

def addNonNm (m : DeviceManager) (n : Nat) : DeviceManager :=
  { m with nonNmSessions := fetchAdd m.nonNmSessions n }

def subNonNm (m : DeviceManager) (n : Nat) : DeviceManager :=
  { m with nonNmSessions := fetchSub m.nonNmSessions n }

def updateNonNmCount (m : DeviceManager) (wasNonNm isNonNm : Bool) : DeviceManager :=
  match wasNonNm,isNonNm with
  | false,true => m.addNonNm 1
  | true,false => m.subNonNm 1
  | _,_ => m

def cancel (m : DeviceManager) (token : Token) : DeviceManager :=
  { m with cancelled := Function.update m.cancelled token true }

/-- A fresh flag, set. -/
def newFlag (m : DeviceManager) : DeviceManager :=
  { m with valid := Function.update m.valid m.nextFlag true, nextFlag := m.nextFlag + 1 }

/-- Clear the flags that a test selects. -/
def clearFlags (m : DeviceManager) (selected : Flag → Bool) : DeviceManager :=
  { m with valid := fun f => m.valid f && !selected f }

/-! ### Capabilities and bindings -/

/-- Remove the bindings that a test selects and clear their flags. -/
def dropHot (m : DeviceManager) (selected : ClientId × DeviceId → Bool) : DeviceManager :=
  { m.clearFlags fun f => m.nmHot.entries.any fun e => selected e.1 && e.2.valid == f with
    nmHot := retain m.nmHot fun key _ => !selected key }

/-- Remove the capabilities that a test selects and revoke them. -/
def dropTransports (m : DeviceManager) (selected : Token → Bool) : DeviceManager :=
  { m.clearFlags fun f => m.transportValidity.entries.any fun e => selected e.1 && e.2 == f with
    transportValidity := retain m.transportValidity fun token _ => !selected token }

def replaceTransportValidity (m : DeviceManager) (token : Token) : Flag × DeviceManager :=
  let revoked := m.dropTransports (· == token)
  (revoked.nextFlag,{ revoked.newFlag with
    transportValidity := revoked.transportValidity.insert token revoked.nextFlag })

def invalidateTransportValidity (m : DeviceManager) (token : Token) : DeviceManager :=
  m.dropTransports (· == token)

def transportCapabilityCurrent (m : DeviceManager) (token : Token) (capability : Flag) : Bool :=
  m.transportValidity.lookup token == some capability

def invalidateNmHotForDeviceLocked (m : DeviceManager) (deviceId : DeviceId) : DeviceManager :=
  m.dropHot fun key => key.2 == deviceId

/-- The client has an active session on the device that is in NM mode. -/
def hasNmSessionForClient (m : DeviceManager) (deviceId : DeviceId) (clientId : ClientId) : Bool :=
  (values m.sessions).any fun s =>
    s.deviceId == deviceId && s.ownerClientId == clientId && s.active && s.mode == .nm

/-- The binding that the present sessions, sinks and entries call for; the flag
    is the next fresh one. -/
def wantedHot (m : DeviceManager) (deviceId : DeviceId) (clientId : ClientId) : Option NmHotSession :=
  if m.hasNmSessionForClient deviceId clientId then
    (m.devices.lookup deviceId).bind fun entry => entry.ioTx.bind fun ioTx =>
      (m.nmSinks.lookup clientId).map fun sink =>
        { ioTx := ioTx, epoch := entry.lifetime, valid := m.nextFlag, blocking := entry.blocking
          vendorId := entry.vendorId, productId := entry.productId, sink := sink }
  else none

/-- Replace the binding of one client and device by the one called for. -/
def refreshNmHotLocked (m : DeviceManager) (deviceId : DeviceId) (clientId : ClientId) : DeviceManager :=
  let key := (clientId,deviceId)
  let removed := m.dropHot (· == key)
  match m.wantedHot deviceId clientId with
  | none => removed
  | some hot => { removed.newFlag with nmHot := removed.nmHot.insert key hot }

/-- Register a session if the device has an entry. -/
def registerSessionLocked (m : DeviceManager) (deviceId : DeviceId) (token : Token) (ownerClientId : ClientId)
    (wsAuthHash : String) : Option DeviceManager :=
  if deviceId ∈ m.devices then
    some { m with
      sessions := m.sessions.insert token
        { token := token, deviceId := deviceId, ownerClientId := ownerClientId, mode := .nm
          wsAuthHash := wsAuthHash, active := true, wsGeneration := 0, wtGeneration := 0 }
      wsAuthHashes := m.wsAuthHashes.insert wsAuthHash token }
  else none

/-- The tokens of all sessions on a device. -/
def tokensOn (m : DeviceManager) (deviceId : DeviceId) : List Token :=
  ((values m.sessions).filter (·.deviceId == deviceId)).map (·.token)

def nonNmOn (m : DeviceManager) (deviceId : DeviceId) : Nat :=
  ((values m.sessions).filter fun s => s.deviceId == deviceId && s.mode != .nm).length

/-- Remove every session on a device, with its hashes, capabilities and
    bindings, and the entry. -/
def detachDevice (m : DeviceManager) (deviceId : DeviceId) : DeviceManager :=
  let tokens := m.tokensOn deviceId
  let stripped := { m with
    sessions := eraseAll m.sessions tokens
    wsAuthHashes := retain m.wsAuthHashes fun _ token => !tokens.contains token }
  let unbound := (stripped.dropTransports tokens.contains).invalidateNmHotForDeviceLocked deviceId
  { unbound with devices := unbound.devices.erase deviceId }

/-- The check of a send over native messaging: by client and device, against the
    blocking state that the binding holds. -/
def nmReportSendAllowed (m : DeviceManager) (clientId : ClientId) (deviceId : DeviceId) (reportId : UInt8)
    (rt : ReportType) (payloadLen : Option Nat) : Except SendReject Unit :=
  match m.nmHot.lookup (clientId,deviceId) with
  | none => .error .invalid
  | some hot => sendVerdict hot.blocking hot.vendorId hot.productId reportId rt payloadLen

/-- The check of a send over a transport: by device, against the entry. -/
def reportSendAllowed (m : DeviceManager) (deviceId : DeviceId) (reportId : UInt8) (rt : ReportType)
    (payloadLen : Option Nat) : Except SendReject Unit :=
  match m.devices.lookup deviceId with
  | none => .error .invalid
  | some entry => sendVerdict entry.blocking entry.vendorId entry.productId reportId rt payloadLen

/-- `hid::MAX_READ_BUFFER`. -/
def maxReadBuffer : Nat := 4096

def readBufSize (m : DeviceManager) (deviceId : DeviceId) : Nat :=
  ((m.devices.lookup deviceId).map (·.readBufSize)).getD maxReadBuffer

def getDeviceByWsAuth (m : DeviceManager) (hash : String) : Option (DeviceId × Token) :=
  (m.wsAuthHashes.lookup hash).bind fun token => (m.sessions.lookup token).bind fun session =>
    if session.active then some (session.deviceId,session.token) else none

end DeviceManager
end FFWebHid.Registry
