import Mathlib.Data.Finset.Prod
import FFWebHid.Maps
import FFWebHid.Runs
import FFWebHid.StateOps
import FFWebHid.Background

/-!
The bridges in front of the background page. A page or worker posts an action of its
choice on the request port of its client; the bridge keeps a few actions to itself and
blocks a few, and forwards every other one with the origin, frame and client of the
port. A data port that the bridge has accepted carries reports for its device.

The messages that the bridges send are on their way until the background takes them,
in any order. What a page reads of the answers, and the data planes, are left out: the
plane's generation, which a data port also has to name, only keeps ports out.
-/
namespace FFWebHid.PageMessages
open FFWebHid.Maps FFWebHid.Runs FFWebHid.StateOps FFWebHid.Background

/-- The fields of a page's payload that a handler reads; the bridge sets the others. -/
structure Payload where
  deviceId : DeviceId := 0
  deviceIds : List DeviceId := []
  T : Token := ""
  sessionToken : Token := ""
  deriving DecidableEq, Repr

/-- A message on a request port whose action is a string. An array with a name in it is
    another message: the bridge's comparisons miss it and the look-up of a handler does
    not, so what is said of messages here is not said of those. -/
structure Post where
  action : String
  payload : Payload := {}
  deriving DecidableEq, Repr

/-- `PAGE_BLOCKED_ACTIONS`. -/
def pageBlockedActions : List String :=
  ["pairDevice","recordGrantGroup","getGrantGroups","getAllPairedDevices","revokeDevice","getDeviceCache",
    "getDeviceInfo","showPicker","pickerResult","setFrameDelegation"]

/-- `REQUEST_HANDLERS`: the actions that the bridge handles itself. -/
def requestHandlers : List String :=
  ["workerPort","workerClientDestroyed","dataPort","waitDataPlaneReady","getCspInfo","getPolicy","getSettings",
    "requestDevice"]

def effectiveAction (action : String) : String :=
  if action = "enumerate" then "enumeratePaired" else if action = "unpairDevice" then "revokeDevice" else action

/-- `HANDLERS` of the background. The handlers that are left out neither send a request
    about a session nor change a grant or the bookkeeping. -/
def handlers (b : Browser) (client : Client) (payload : Payload) (action : String) : Option Action :=
  match action with
  | "open" => some (.openRequest client payload.deviceId)
  | "close" => some (.closeRequest client payload.deviceId payload.T)
  | "frameDestroyed" => some (.frameDestroyed client.frame)
  | "revokeDevice" => some (.revokeRequest (b.origin client)
      (if payload.deviceIds.isEmpty then [payload.deviceId] else payload.deviceIds))
  | "cleanupSession" => some (.cleanupSession payload.deviceId payload.sessionToken)
  | "sendReport" => some (.report client .sendReport payload.deviceId)
  | "receiveFeatureReport" => some (.report client .receiveFeatureReport payload.deviceId)
  | "sendFeatureReport" => some (.report client .sendFeatureReport payload.deviceId)
  | "pairDevice" => some (.pair (b.origin client) payload.deviceId)
  | _ => none

/-- The report that `onDataPortMessage` makes of a message type. -/
def dataAction (type : String) : Option ReportOp :=
  match type with
  | "send" => some .sendReport
  | "sendFeature" => some .sendFeatureReport
  | "receiveFeature" => some .receiveFeatureReport
  | _ => none

/-- The background and the bridges. `allowedByOrigin` is what each bridge has loaded of
    the grants, `opening` the opens that wait for `isDeviceAllowed`, `dataPorts` the
    data ports that were accepted, and `sent` the messages to the background under way. -/
structure Addon where
  world : World := {}
  allowedByOrigin : Finset ((String × Origin) × DeviceId) := ∅
  opening : Finset (Client × DeviceId) := ∅
  dataPorts : Finset (Client × DeviceId) := ∅
  sent : List Action := []

namespace Addon
variable (b : Browser) (s : Addon)

def sendBackgroundRequest (a : Option Action) : Addon := { s with sent := s.sent ++ a.toList }

def isDeviceAllowed (client : Client) (d : DeviceId) : Bool :=
  ((client.frame.bridgeInstanceId,b.origin client),d) ∈ s.allowedByOrigin

/-- `handleGenericRequest` up to its first `await`. `reserved` is the token that the
    client's sessions have for the device. -/
def handleGenericRequest (client : Client) (reserved : Token) (message : Post) : Addon :=
  if pageBlockedActions.contains message.action then s
  else if message.action = "open" then { s with opening := insert (client,message.payload.deviceId) s.opening }
  else
    let payload := if message.action = "close" ∧ reserved ≠ "" then { message.payload with T := reserved }
      else message.payload
    s.sendBackgroundRequest (handlers b client payload (effectiveAction message.action))

def handleRequest (client : Client) (reserved : Token) (message : Post) : Addon :=
  if requestHandlers.contains message.action then s else s.handleGenericRequest b client reserved message

/-- `loadAllowedDeviceIds` of a bridge. -/
def loadAllowedDeviceIds (bridge : String) (origin : Origin) : Addon :=
  { s with
    allowedByOrigin := (s.allowedByOrigin.filter fun entry => entry.1 ≠ (bridge,origin)) ∪
      (s.world.allowed.filter fun grant => grant.1 = origin).image fun grant => ((bridge,origin),grant.2) }

end Addon

inductive Event where
  | post (client : Client) (reserved : Token) (message : Post)
  | openAllowed (client : Client) (deviceId : DeviceId)
  | dataPort (client : Client) (deviceId : DeviceId)
  | dataMessage (client : Client) (deviceId : DeviceId) (type : String)
  | loadAllowed (bridgeInstanceId : String) (origin : Origin)
  | deliver (i : Nat)
  | background (a : Action)
  deriving DecidableEq, Repr

/-- What happens without a page: opens and reports are always asked for by a client. -/
def unasked : Action → Bool
  | .openRequest _ _ => false
  | .report _ _ _ => false
  | _ => true

def step (b : Browser) (s : Addon) : Event → Option Addon
  | .post client reserved message => some (s.handleRequest b client reserved message)
  | .openAllowed client d =>
    if (client,d) ∈ s.opening then
      let s := { s with opening := s.opening.erase (client,d) }
      if s.isDeviceAllowed b client d then some (s.sendBackgroundRequest (some (.openRequest client d))) else some s
    else none
  | .dataPort client d =>
    if s.isDeviceAllowed b client d then some { s with dataPorts := insert (client,d) s.dataPorts } else some s
  | .dataMessage client d type =>
    if (client,d) ∈ s.dataPorts then
      some (s.sendBackgroundRequest ((dataAction type).map fun op => .report client op d))
    else none
  | .loadAllowed bridge origin => some (s.loadAllowedDeviceIds bridge origin)
  | .deliver i =>
    match s.sent[i]? with
    | none => none
    | some a => (Background.step b s.world a).map fun world => { s with world, sent := s.sent.eraseIdx i }
  | .background a =>
    if unasked a then (Background.step b s.world a).map fun world => { s with world } else none

def init : Addon := {}

section
variable {b : Browser} {s s' : Addon} {client : Client} {op : ReportOp} {d : DeviceId}

/-! ### What pages ask for -/

/-- The client posts the report, or sends it on a data port. -/
inductive Asks (client : Client) (op : ReportOp) (d : DeviceId) : Event → Prop
  | post (reserved : Token) (message : Post) (device : message.payload.deviceId = d) :
    Asks client op d (.post client reserved message)
  | dataPort (type : String) (asks : dataAction type = some op) : Asks client op d (.dataMessage client d type)

theorem mem_sendBackgroundRequest {a : Action} {request : Option Action} :
    a ∈ (s.sendBackgroundRequest request).sent ↔ a ∈ s.sent ∨ request = some a := by
  simp [Addon.sendBackgroundRequest]

/-- A message that a page's action puts on the way is one that the bridge forwards. -/
theorem mem_handleRequest {reserved : Token} {message : Post} {a : Action}
    (member : a ∈ (s.handleRequest b client reserved message).sent) : a ∈ s.sent ∨
      message.action ∉ pageBlockedActions ∧ ∃ token, handlers b client { message.payload with T := token }
        (effectiveAction message.action) = some a := by
  unfold Addon.handleRequest Addon.handleGenericRequest at member
  split_ifs at member with handled blocked opens reservedClose
  · exact Or.inl member
  · exact Or.inl member
  · exact Or.inl member
  all_goals
    rcases mem_sendBackgroundRequest.mp member with before | sent
    · exact Or.inl before
    · exact Or.inr ⟨fun listed => blocked (List.contains_iff_mem.mpr listed),_,sent⟩

theorem handlers_report {client' : Client} {payload : Payload} {action : String}
    (handled : handlers b client payload action = some (.report client' op d)) :
    client' = client ∧ payload.deviceId = d := by
  unfold handlers at handled
  split at handled <;> cases handled <;> exact ⟨rfl,rfl⟩

theorem handlers_pair {origin : Origin} {payload : Payload} {action : String}
    (handled : handlers b client payload action = some (.pair origin d)) : action = "pairDevice" := by
  unfold handlers at handled
  split at handled <;> cases handled
  rfl

/-- No message with a string for its action pairs a device. -/
theorem page_never_pairs {reserved : Token} {message : Post} {origin : Origin}
    (member : .pair origin d ∈ (s.handleRequest b client reserved message).sent) : .pair origin d ∈ s.sent := by
  refine (mem_handleRequest member).resolve_right fun ⟨forwarded,token,handled⟩ => ?_
  have pairs := handlers_pair handled
  unfold effectiveAction at pairs
  split_ifs at pairs
  · exact absurd pairs (by decide)
  · exact absurd pairs (by decide)
  · exact forwarded (by rw [pairs]; decide)

theorem step_asked {e : Event} (taken : step b s e = some s') (member : .report client op d ∈ s'.sent) :
    .report client op d ∈ s.sent ∨ Asks client op d e := by
  cases e with
  | post client' reserved message =>
    cases taken
    refine (mem_handleRequest member).imp_right fun ⟨_,token,handled⟩ => ?_
    obtain ⟨rfl,device⟩ := handlers_report handled
    exact .post reserved message device
  | openAllowed client' d' =>
    simp only [step] at taken
    split_ifs at taken <;> cases taken
    · exact Or.inl ((mem_sendBackgroundRequest.mp member).resolve_right (by simp))
    · exact Or.inl member
  | dataPort client' d' =>
    simp only [step] at taken
    split_ifs at taken <;> cases taken <;> exact Or.inl member
  | dataMessage client' d' type =>
    simp only [step] at taken
    split_ifs at taken
    cases taken
    refine (mem_sendBackgroundRequest.mp member).imp_right fun sent => ?_
    obtain ⟨op',asks,same⟩ := Option.map_eq_some_iff.mp sent
    cases same
    exact .dataPort type asks
  | loadAllowed bridge origin => cases taken; exact Or.inl member
  | deliver i =>
    simp only [step] at taken
    split at taken
    · cases taken
    · obtain ⟨world,_,rfl⟩ := Option.map_eq_some_iff.mp taken
      exact Or.inl (List.mem_of_mem_eraseIdx member)
  | background a =>
    simp only [step] at taken
    split_ifs at taken
    obtain ⟨world,_,rfl⟩ := Option.map_eq_some_iff.mp taken
    exact Or.inl member

/-- Every report on its way was asked for by the client that it names. -/
theorem report_asked {trace : List Event} (run : exec (step b) init trace = some s)
    (member : .report client op d ∈ s.sent) : ∃ e ∈ trace, Asks client op d e := by
  refine exec_history (I := fun trace s => .report client op d ∈ s.sent → ∃ e ∈ trace, Asks client op d e)
    (fun none => absurd none List.not_mem_nil) (fun before s e s' _ taken _ earlier member => ?_) run
    (allSteps_of_mem (P := fun _ _ _ => True) fun _ _ _ _ => trivial) member
  rcases step_asked taken member with already | asks
  · obtain ⟨e',among,asks⟩ := earlier already
    exact ⟨e',List.mem_append_left _ among,asks⟩
  · exact ⟨e,List.mem_append_right _ List.mem_cons_self,asks⟩

end

end FFWebHid.PageMessages
