import FFWebHid.Maps
import FFWebHid.Types
import FFWebHid.Registry

/-!
The critical sections of the lifecycle mutex, one definition each: what a section
returns to the thread that runs it, and the registry that it leaves.
-/
namespace FFWebHid.Lifecycle
open FFWebHid.Types FFWebHid.Maps FFWebHid.Registry

/-- The two kinds of transport; the source has one function for each. -/
inductive TransportKind where
  | ws
  | wt
  deriving DecidableEq, Repr

def TransportKind.mode : TransportKind → Mode
  | .ws => .ws
  | .wt => .wt

/-- The generation counter of a kind. -/
def TransportKind.generation : TransportKind → Session → Nat
  | .ws, s => s.wsGeneration
  | .wt, s => s.wtGeneration

/-- Count a connect of the kind and switch the session to it. -/
def TransportKind.connected : TransportKind → Session → Session
  | .ws, s => { s with wsGeneration := s.wsGeneration + 1, mode := .ws }
  | .wt, s => { s with wtGeneration := s.wtGeneration + 1, mode := .wt }

/-- One instruction of a teardown. The cells of an entry are named by lifetime. -/
inductive TeardownStep where
  | cancel (token : Token)
  | subNonNm (count : Nat)
  | setStop (lifetime : Lifetime)
  | bumpEpoch (lifetime : Lifetime)
  | releaseStart (lifetime : Lifetime)
  | requestShutdown (lifetime : Lifetime)
  | joinReader (lifetime : Lifetime)
  | joinWorker (lifetime : Lifetime)
  | emit (event : IpcResponse)

/-- `stop_entry`. -/
def stopEntry (e : Entry) : List TeardownStep :=
  [.setStop e.lifetime,.bumpEpoch e.lifetime,.releaseStart e.lifetime] ++
    (e.ioTx.map TeardownStep.requestShutdown).toList ++ [.joinReader e.lifetime,.joinWorker e.lifetime]

/-- `stop_entry_io_worker`: the reader does not join itself. -/
def stopEntryIoWorker (e : Entry) : List TeardownStep :=
  [.setStop e.lifetime,.bumpEpoch e.lifetime,.releaseStart e.lifetime] ++
    (e.ioTx.map TeardownStep.requestShutdown).toList ++ [.joinWorker e.lifetime]

/-- What the sections of an open hand back. -/
inductive OpenOutcome where
  | registered
  | waiting (generation seen : Nat)
  | reserved (generation : Nat)
  | failed
  | again
  | proceed
  | installed
  deriving DecidableEq, Repr

inductive CloseOutcome where
  | refused (error : SessionError)
  | unknown
  | closed (entry : Option Entry)

end FFWebHid.Lifecycle

namespace FFWebHid.Registry.DeviceManager
open FFWebHid.Types FFWebHid.Maps FFWebHid.Registry FFWebHid.Lifecycle

def newClientId (m : DeviceManager) : ClientId × DeviceManager :=
  (m.nextClientId + 1,{ m with nextClientId := m.nextClientId + 1 })

/-- The devices on which a client has an active session. -/
def devicesOfClient (m : DeviceManager) (clientId : ClientId) : List DeviceId :=
  (((values m.sessions).filter fun s => s.ownerClientId == clientId && s.active).map (·.deviceId)).dedup

def registerNmSink (m : DeviceManager) (clientId : ClientId) (sink : Sink) : DeviceManager :=
  let inserted := { m with nmSinks := m.nmSinks.insert clientId sink }
  (inserted.devicesOfClient clientId).foldl (fun m d => m.refreshNmHotLocked d clientId) inserted

def unregisterNmSink (m : DeviceManager) (clientId : ClientId) : DeviceManager :=
  { m with nmSinks := m.nmSinks.erase clientId }.dropHot fun key => key.1 == clientId

/-! ### Opening -/

/-- Register and refresh, as every path of an open does that succeeds. -/
def registerAndRefresh (m : DeviceManager) (deviceId : DeviceId) (token : Token) (clientId : ClientId)
    (hash : String) : Option DeviceManager :=
  (m.registerSessionLocked deviceId token clientId hash).map fun m => m.refreshNmHotLocked deviceId clientId

/-- The head of the loop of `open`: register, wait for a reservation, or take it. -/
def openEnter (m : DeviceManager) (deviceId : DeviceId) (token : Token) (clientId : ClientId) (hash : String) :
    OpenOutcome × DeviceManager :=
  match m.registerAndRefresh deviceId token clientId hash with
  | some registered => (.registered,registered)
  | none =>
    match m.opening.lookup deviceId with
    | some reservation => (.waiting reservation.generation (m.notified reservation.generation),m)
    | none =>
      let generation := m.nextLifetimeGeneration + 1
      (.reserved generation,{ m with
        nextLifetimeGeneration := generation
        opening := m.opening.insert deviceId ⟨generation⟩ })

/-- After a wait: register, give up when nobody is opening, or start over. -/
def openRecheck (m : DeviceManager) (deviceId : DeviceId) (token : Token) (clientId : ClientId) (hash : String) :
    OpenOutcome × DeviceManager :=
  match m.registerAndRefresh deviceId token clientId hash with
  | some registered => (.registered,registered)
  | none => if deviceId ∈ m.opening then (.again,m) else (.failed,m)

/-- The reservation is still the current one of the device and was not invalidated. -/
def reservationCurrent (m : DeviceManager) (deviceId : DeviceId) (generation : Nat) : Bool :=
  !m.invalidated generation && m.opening.lookup deviceId == some ⟨generation⟩

/-- After the physical open; `id` is the identifier that the opener reports. -/
def openCheck (m : DeviceManager) (deviceId id : DeviceId) (generation : Nat) (token : Token) (clientId : ClientId)
    (hash : String) : OpenOutcome × DeviceManager :=
  if m.reservationCurrent deviceId generation then
    match m.registerAndRefresh id token clientId hash with
    | some registered => (.registered,registered)
    | none => (.proceed,m)
  else (.failed,m)

/-- Publish the entry, unless the reservation is gone or another entry is there. -/
def openInstall (m : DeviceManager) (deviceId id : DeviceId) (generation : Nat) (entry : Entry) (token : Token)
    (clientId : ClientId) (hash : String) : OpenOutcome × DeviceManager :=
  if m.reservationCurrent deviceId generation then
    match m.registerAndRefresh id token clientId hash with
    | some registered => (.registered,registered)
    | none =>
      let published := { m with devices := m.devices.insert id entry }
      (.installed,(published.registerAndRefresh id token clientId hash).getD published)
  else (.failed,m)

/-- The opener gives its reservation back; true when waiters are to be woken. -/
def releaseReservation (m : DeviceManager) (deviceId : DeviceId) (generation : Nat) : Bool × DeviceManager :=
  if m.opening.lookup deviceId = some ⟨generation⟩ then (true,{ m with opening := m.opening.erase deviceId })
  else (false,m)

def notifyWaiters (m : DeviceManager) (generation : Nat) : DeviceManager :=
  { m with notified := Function.update m.notified generation (m.notified generation + 1) }

/-- Remove a session with its capability and its hash, and signal its end. -/
def endSession (m : DeviceManager) (token : Token) (session : Session) : DeviceManager :=
  let ended := (({ m with sessions := m.sessions.erase token }.invalidateTransportValidity token).cancel
    token).updateNonNmCount session.mode.isNonNm false
  { ended with wsAuthHashes := ended.wsAuthHashes.erase session.wsAuthHash }

def close (m : DeviceManager) (deviceId : DeviceId) (token : Token) (ownerClientId : ClientId) :
    CloseOutcome × DeviceManager :=
  match m.sessions.lookup token with
  | none => (.unknown,m)
  | some session =>
    if session.deviceId ≠ deviceId then (.refused .wrongDevice,m)
    else if session.ownerClientId ≠ ownerClientId then (.refused .wrongOwner,m)
    else if !session.active then (.unknown,m)
    else
      let ended := m.endSession token session
      let lastSession := !(values ended.sessions).any fun s => s.deviceId == deviceId && s.active
      if lastSession then
        let unbound := ended.invalidateNmHotForDeviceLocked deviceId
        (.closed (unbound.devices.lookup deviceId),{ unbound with devices := unbound.devices.erase deviceId })
      else (.closed none,ended.refreshNmHotLocked deviceId ownerClientId)

/-- The tokens that `close_all_for_client` collects before it closes them one by one. -/
def sessionsOfClient (m : DeviceManager) (clientId : ClientId) : List (DeviceId × Token) :=
  ((values m.sessions).filter fun s => s.ownerClientId == clientId && s.active).map fun s => (s.deviceId,s.token)

/-- Store a changed session under its token. -/
def putSession (m : DeviceManager) (token : Token) (session : Session) : DeviceManager :=
  { m with sessions := m.sessions.insert token session }

def setDataplaneMode (m : DeviceManager) (deviceId : DeviceId) (token : Token) (mode : Option Mode)
    (ownerClientId : ClientId) : Except SessionError DeviceManager :=
  match mode with
  | none => .error .invalidMode
  | some mode =>
    match m.sessions.lookup token with
    | none => .error .noSession
    | some session =>
      if !session.active then .error .closed
      else if session.deviceId ≠ deviceId then .error .wrongDevice
      else if session.ownerClientId ≠ ownerClientId then .error .wrongOwner
      else
        let switched := (m.putSession token { session with mode := mode }).invalidateTransportValidity token
        .ok ((switched.updateNonNmCount session.mode.isNonNm mode.isNonNm).refreshNmHotLocked deviceId
          session.ownerClientId)

/-- `ws_connect` and `wt_connect`. -/
def connect (m : DeviceManager) (kind : TransportKind) (deviceId : DeviceId) (token : Token) :
    Option (TransportGrant × DeviceManager) :=
  match m.sessions.lookup token with
  | none => none
  | some session =>
    if !session.active || session.deviceId != deviceId then none
    else
      let connected := kind.connected session
      let (capability,granted) := (m.putSession token connected).replaceTransportValidity token
      some (⟨kind.generation connected,capability⟩,
        (granted.updateNonNmCount session.mode.isNonNm true).refreshNmHotLocked deviceId session.ownerClientId)

/-- `ws_disconnect` and `wt_disconnect`: only the current connection of its kind
    switches the session back. -/
def disconnect (m : DeviceManager) (kind : TransportKind) (deviceId : DeviceId) (token : Token) (generation : Nat)
    (capability : Flag) : DeviceManager :=
  match m.sessions.lookup token with
  | none => m
  | some session =>
    if session.active && session.deviceId == deviceId then
      if kind.generation session == generation && session.mode == kind.mode &&
          m.transportCapabilityCurrent token capability then
        let switched := (m.putSession token { session with mode := .nm }).invalidateTransportValidity token
        (switched.updateNonNmCount session.mode.isNonNm false).refreshNmHotLocked deviceId session.ownerClientId
      else m
    else m

/-- Invalidate the reservation of an opener in progress and wake its waiters. -/
def tellOpener (m : DeviceManager) (deviceId : DeviceId) : DeviceManager :=
  match m.opening.lookup deviceId with
  | some reservation =>
    { m with invalidated := Function.update m.invalidated reservation.generation true }.notifyWaiters
      reservation.generation
  | none => m

/-- Tear a device down whatever sessions it has; an opener in progress is told. -/
def forceClose (m : DeviceManager) (deviceId : DeviceId) : (List Token × Nat × Option Entry) × DeviceManager :=
  let told := m.tellOpener deviceId
  ((told.tokensOn deviceId,told.nonNmOn deviceId,told.devices.lookup deviceId),told.detachDevice deviceId)

/-- What the reader of a lost device removes; it looks the device up by identifier. -/
def detachDeadReaderLifetime (m : DeviceManager) (deviceId : DeviceId) :
    Option ((Entry × List Token × Nat) × DeviceManager) :=
  (m.devices.lookup deviceId).map fun entry =>
    ((entry,m.tokensOn deviceId,m.nonNmOn deviceId),m.detachDevice deviceId)

end FFWebHid.Registry.DeviceManager
