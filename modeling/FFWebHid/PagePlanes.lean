import FFWebHid.Runs
import FFWebHid.PageDevices

/-!
The transports that the page has for one HIDDevice. A plane is a WebTransport that the
page opens itself, recorded under the device's id, or whatever is at the other end of the
data port, recorded in the device; reports of the native host come as events of the
bridge. The bridge starts and ends planes by messages that name a generation; here it may
send any. Another HIDDevice that was made for the same device shares the WebTransport and
may have the place in the registry; what it does to its own state is left out.
-/
namespace FFWebHid.PagePlanes
open FFWebHid.Runs FFWebHid.PageDevices

/-- An entry of `inPagePlanes`. -/
structure InPagePlane where
  wt : Nat
  generation : Nat
  deriving DecidableEq, Repr

/-- A WebTransport: the generation in its callbacks, whether a request can be written to
    it, and whether it has ended for good. -/
structure Wt where
  generation : Nat
  isOpen : Bool := false
  finished : Bool := false
  deriving DecidableEq, Repr

/-- A report request that waits for the answer of a WebTransport, which is a ghost. -/
structure InPageRequest where
  reqId : Nat
  wt : Nat
  deriving DecidableEq, Repr

/-- A call that waits for the answer to the request it sent. -/
inductive Call where
  | opening
  | waitingReady
  | givingUp
  | closing
  | forgetting
  | tearingDown
  deriving DecidableEq, Repr

/-- The HIDDevice, whether it was made and is the one in the registry, and the page's
    part of its planes. Two ghosts: the generation that the bridge has begun last, and
    whether the device has taken it from a message since. -/
structure World where
  device : Device := {}
  created : Bool := false
  registered : Bool := false
  inPagePlane : Option InPagePlane := none
  inPagePending : List InPageRequest := []
  wts : List Wt := []
  nextReqId : Nat := 0
  nextPort : Nat := 0
  calls : List Call := []
  bridgeGeneration : Nat := 0
  heeded : Bool := true
  deriving DecidableEq, Repr

namespace World
variable (w : World)

def rejectInPagePending : World := { w with inPagePending := [] }

/-- The connection ends for good. -/
def endWt (n : Nat) : World := { w with wts := w.wts.modify n fun wt => { wt with isOpen := false, finished := true } }

def setOpen (n : Nat) (isOpen : Bool) : World := { w with wts := w.wts.modify n fun wt => { wt with isOpen } }

/-- A message has named a generation, and the device follows it now or does not take it. -/
def named (generation : Nat) (taken : Bool) : World :=
  { w with heeded := if taken then generation == w.bridgeGeneration else w.heeded }

/-- The check of the callbacks: the entry has the generation of the WebTransport. -/
def isCurrent (wt : Wt) : Bool := w.inPagePlane.any fun plane => plane.generation == wt.generation

def handleDataPlaneConnect (generation : Nat) : World :=
  if w.registered && w.device.staleConnect generation then w
  else
    { w with
      device := if w.registered then w.device.connecting generation else w.device
      inPagePlane := some ⟨w.wts.length,generation⟩
      wts := w.wts ++ [⟨generation,false,false⟩] }

/-- A message without a generation ends any plane. -/
def handleDataPlaneDisconnect (generation : Option Nat) : World :=
  match w.inPagePlane with
  | none => w
  | some plane =>
    if generation.all (· == plane.generation) then
      { w.endWt plane.wt with inPagePlane := none }.rejectInPagePending
    else w

def onClosed (wt : Wt) (willReconnect : Bool) : World :=
  if w.isCurrent wt then
    if willReconnect then w.rejectInPagePending else { w.rejectInPagePending with inPagePlane := none }
  else w

def onAuthFailed (wt : Wt) : World :=
  if w.isCurrent wt then { w with inPagePlane := none }.rejectInPagePending else w

/-- The WebTransport that has not ended. -/
def live (n : Nat) : Option Wt := (w.wts[n]?).filter fun wt => !wt.finished

/-- The in-page plane that a request can be written to. -/
def openPlane : Option InPagePlane := w.inPagePlane.filter fun plane => (w.wts[plane.wt]?).any Wt.isOpen

/-- Where `sendDeviceRequest` sends a request. -/
inductive Transport where
  | inPage (plane : InPagePlane)
  | dataPort (port generation : Nat)
  deriving DecidableEq, Repr

def Transport.generation : Transport → Nat
  | .inPage plane => plane.generation
  | .dataPort _ generation => generation

/-- The choice of `sendDeviceRequest`; `none` when it throws. -/
def transport : Option Transport :=
  if w.device.planeUnavailable || !w.device.planeReady then none
  else
    match w.openPlane with
    | some plane => some (.inPage plane)
    | none =>
      match w.device.dataPort,w.device.dataPortGeneration with
      | some port,some generation =>
        if generation = w.device.planeGeneration then some (.dataPort port generation) else none
      | _,_ => none

def sendDeviceRequest : World :=
  let reqId := w.nextReqId + 1
  match w.transport with
  | none => w
  | some (.inPage plane) => { w with nextReqId := reqId, inPagePending := w.inPagePending ++ [⟨reqId,plane.wt⟩] }
  | some (.dataPort port _) =>
    { w with
      nextReqId := reqId
      device := { w.device with dataPending := w.device.dataPending ++ [⟨reqId,port⟩] } }

def withDevice (device : Device) : World := { w with device }

def begin (call : Call) : World := { w with calls := w.calls ++ [call] }

/-- The call goes on after its request was answered. -/
def resume (k : Nat) (call : Call) : Option World :=
  if w.calls[k]? = some call then some { w with calls := w.calls.eraseIdx k } else none

def openDevice : World :=
  if w.device.forgotten || w.device.opened || w.device.opening then w
  else (w.withDevice { w.device with opening := true }).begin .opening

/-- The open throws. -/
def openFails : World := w.withDevice { w.device with opening := false }

/-- After the answer to `open`. -/
def openAnswered (ok : Bool) (generation : Option Nat) : World :=
  if w.device.forgotten || !ok then w.openFails
  else
    match generation with
    | none => w.openFails
    | some generation =>
      { w with
        device := w.device.openAccepted w.nextPort generation
        nextPort := w.nextPort + 1 }.named generation true |>.begin .waitingReady

/-- After the answer to `waitDataPlaneReady`. -/
def readyAnswered (ok : Bool) : World :=
  if ok then w.withDevice w.device.openDone else (w.withDevice w.device.openGivesUp).begin .givingUp

def closeDevice : World := if !w.device.forgotten && w.device.opened then w.begin .closing else w

def closeAnswered (ok : Bool) : World := if ok then w.withDevice w.device.closeDone else w

def forget : World := if w.device.forgotten then w else w.begin .forgetting

/-- The end of `teardownForgottenDevice`. -/
def tornDown : World := { w with device := w.device.reconcileAuthoritativeLifetime true, registered := false }

def teardownForgottenDevice : World := if w.device.opened then w.begin .tearingDown else w.tornDown

/-- `forceForgetDevice`. -/
def forceForget : World := if w.registered && !w.device.forgotten then w.teardownForgottenDevice else w

/-- The `disconnect` event; the registry forgets the device if the page has used `navigator.hid`. -/
def disconnectEvent (hidInstance : Bool) : World :=
  if w.registered then
    { w with device := w.device.reconcileAuthoritativeLifetime false, registered := !hidInstance }
  else w

end World

inductive Action where
  | create
  | openCall
  | closeCall
  | forgetCall
  | request
  | openAnswer (k : Nat) (ok : Bool) (generation : Option Nat)
  | readyAnswer (k : Nat) (ok : Bool)
  | givenUp (k : Nat)
  | closeAnswer (k : Nat) (ok : Bool)
  | forgetAnswer (k : Nat) (ok : Bool)
  | tornDown (k : Nat)
  | disconnected (hidInstance : Bool)
  | revoked
  | dataPlaneConnect (generation : Nat)
  | dataPlaneDisconnect (generation : Option Nat)
  | dataPlaneReady (generation : Nat)
  | dataPlaneUnavailable (generation : Nat)
  | wireWorkerPort (generation : Nat)
  | planeBegun (generation : Nat)
  | bridgeReports
  | wtReady (n : Nat)
  | wtInterrupted (n : Nat)
  | wtClosed (n : Nat)
  | wtAuthFailed (n : Nat)
  | wtReports (n : Nat)
  | wtResult (n reqId : Nat)
  | portReports
  | portResult (reqId : Nat)
  | portDisconnected
  deriving DecidableEq, Repr

/-- `none` when the action cannot happen in the state. The bridge begins its planes with
    growing generations, at `planeBegun`, which the page hears of by later messages; it
    forwards reports for the plane that it has begun last. -/
def step (w : World) : Action → Option World
  | .create => if w.created then none else some { w with created := true, registered := true }
  | .openCall => if w.created then some w.openDevice else none
  | .closeCall => if w.created then some w.closeDevice else none
  | .forgetCall => if w.created then some w.forget else none
  | .request => if w.created && w.device.opened then some w.sendDeviceRequest else none
  | .openAnswer k ok generation => (w.resume k .opening).map fun w => w.openAnswered ok generation
  | .readyAnswer k ok => (w.resume k .waitingReady).map fun w => w.readyAnswered ok
  | .givenUp k => (w.resume k .givingUp).map World.openFails
  | .closeAnswer k ok => (w.resume k .closing).map fun w => w.closeAnswered ok
  | .forgetAnswer k ok => (w.resume k .forgetting).map fun w => if ok then w.teardownForgottenDevice else w
  | .tornDown k => (w.resume k .tearingDown).map World.tornDown
  | .disconnected hidInstance => some (w.disconnectEvent hidInstance)
  | .revoked => some w.forceForget
  | .dataPlaneConnect generation => 
    some ((w.handleDataPlaneConnect generation).named generation (w.registered && !w.device.staleConnect generation))
  | .dataPlaneDisconnect generation => some (w.handleDataPlaneDisconnect generation)
  | .dataPlaneReady generation =>
    some (if w.registered then w.withDevice (w.device.handleDataPlaneReady generation) else w)
  | .dataPlaneUnavailable generation =>
    some (if w.registered then
      (w.withDevice (w.device.handleDataPlaneUnavailable generation)).named generation (w.device.follows generation)
    else w)
  | .wireWorkerPort generation =>
    some (if w.registered then
      { w with
        device := w.device.handleWireWorkerPort w.nextPort generation
        nextPort := w.nextPort + 1 }.named generation (w.device.follows generation)
    else w)
  | .planeBegun generation =>
    if w.bridgeGeneration < generation then some { w with bridgeGeneration := generation, heeded := false } else none
  | .bridgeReports => some w
  | .wtReady n => (w.live n).map fun _ => w.setOpen n true
  | .wtInterrupted n => (w.live n).map fun wt => (w.setOpen n false).onClosed wt true
  | .wtClosed n => (w.live n).map fun wt => (w.endWt n).onClosed wt false
  | .wtAuthFailed n => (w.live n).map fun wt => (w.endWt n).onAuthFailed wt
  | .wtReports n => (w.live n).map fun _ => w
  | .wtResult n reqId => (w.live n).map fun wt =>
      if w.isCurrent wt then { w with inPagePending := w.inPagePending.filter fun r => r.reqId != reqId } else w
  | .portReports => if w.device.dataPort.isSome then some w else none
  | .portResult reqId =>
    if w.device.dataPort.isSome then
      some (w.withDevice { w.device with dataPending := w.device.dataPending.filter fun r => r.reqId != reqId })
    else none
  | .portDisconnected =>
    if w.device.dataPort.isSome then some (w.withDevice (w.device.reconcileAuthoritativeLifetime false)) else none

def init : World := {}

/-! ### One plane -/

/-- The generation of the transport that a report request goes to. -/
def sentOn (w : World) : Action → Option Nat
  | .request => w.transport.map World.Transport.generation
  | _ => none

/-- The generation of the transport whose input reports are dispatched at the device. -/
def dispatchedFrom (w : World) : Action → Option Nat
  | .wtReports n => if w.registered then ((w.live n).filter w.isCurrent).map Wt.generation else none
  | .portReports => w.device.dataPortGeneration
  | .bridgeReports => if w.registered then some w.bridgeGeneration else none
  | _ => none

/-- Reports go out and come in on the device's generation only. After the step, what is
    pending waits on a transport that is still in place, a WebTransport that has not
    ended is the one in the entry, and the transports of a device that is open, or that
    reports are dispatched at, have its generation. -/
structure OnePlane (w : World) (a : Action) (w' : World) : Prop where
  sends : ∀ g, sentOn w a = some g → g = w.device.planeGeneration
  dispatches : ∀ g, dispatchedFrom w a = some g → g = w.device.planeGeneration
  inPagePending : ∀ r ∈ w'.inPagePending, ∃ plane, w'.inPagePlane = some plane ∧ plane.wt = r.wt
  dataPending : ∀ r ∈ w'.device.dataPending, w'.device.dataPort = some r.port
  oneWt : ∀ n wt, w'.live n = some wt → ∃ plane, w'.inPagePlane = some plane ∧ plane.wt = n
  planeGeneration : (w'.device.opened || w'.registered) = true → ∀ plane, w'.inPagePlane = some plane →
    plane.generation = w'.device.planeGeneration
  portGeneration : w'.device.dataPort.isSome → w'.device.dataPortGeneration = some w'.device.planeGeneration

/-- An in-page plane would have the generation. -/
def fits (w : World) (generation : Nat) : Bool := w.inPagePlane.all fun plane => plane.generation == generation

/-- A new in-page plane finds no other, and no data port of another generation. The
    device moves to a generation, and opens, only without an in-page plane of another
    one. An open that gives up has nothing pending, and the bridge forwards reports only
    where the device has taken the generation that it has begun last. -/
def orderly (w : World) : Action → Bool
  | .create => fits w w.device.planeGeneration
  | .dataPlaneConnect generation =>
    (w.registered && w.device.staleConnect generation) || w.inPagePlane.isNone &&
      if w.registered then w.device.dataPort.isNone || w.device.dataPortGeneration == some generation
      else !w.device.opened || generation == w.device.planeGeneration
  | .openAnswer _ ok (some generation) =>
    w.device.forgotten || !ok || !(w.device.opened || w.registered) || fits w generation
  | .readyAnswer _ ok => if ok then fits w w.device.planeGeneration else w.device.dataPending.isEmpty
  | .wireWorkerPort generation | .dataPlaneUnavailable generation =>
    !(w.registered && w.device.follows generation) || fits w generation
  | .bridgeReports => !w.registered || w.heeded
  | _ => true

section
variable {w w' : World} {d : Device} {n generation : Nat} {wt : Wt} {call : Call}

/-- Requests wait on the WebTransport of the entry only, no other is live, and the entry
    names one with its generation. -/
private structure PlaneOk (w : World) : Prop where
  pending : ∀ r ∈ w.inPagePending, ∃ plane, w.inPagePlane = some plane ∧ plane.wt = r.wt
  only : ∀ n wt, w.live n = some wt → ∃ plane, w.inPagePlane = some plane ∧ plane.wt = n
  entry : ∀ plane, w.inPagePlane = some plane → ∃ wt, w.wts[plane.wt]? = some wt ∧ wt.generation = plane.generation

private theorem live_iff : w.live n = some wt ↔ w.wts[n]? = some wt ∧ wt.finished = false := by
  simp [World.live,Option.filter_eq_some_iff]

/-- The callbacks of a live WebTransport pass their check. -/
private theorem PlaneOk.current (ok : PlaneOk w) (live : w.live n = some wt) :
    ∃ plane, w.inPagePlane = some plane ∧ plane.wt = n ∧ wt.generation = plane.generation := by
  obtain ⟨plane,here,rfl⟩ := ok.only n wt live
  obtain ⟨wt',found,same⟩ := ok.entry plane here
  rw [(live_iff.mp live).1,Option.some.injEq] at found
  exact ⟨plane,here,rfl,found ▸ same⟩

private theorem PlaneOk.isCurrent (ok : PlaneOk w) (live : w.live n = some wt) : w.isCurrent wt = true := by
  obtain ⟨plane,here,_,same⟩ := ok.current live
  rw [World.isCurrent,here,same]
  exact beq_self_eq_true _

/-- The entry and its requests are gone, and with them the only live WebTransport. -/
private theorem PlaneOk.ended (ok : PlaneOk w) {plane : InPagePlane} (here : w.inPagePlane = some plane)
    (none : w'.inPagePlane = none) (idle : w'.inPagePending = []) (ended : w'.wts = (w.endWt plane.wt).wts) :
    PlaneOk w' := by
  refine ⟨fun r member => ?_,fun n wt live => ?_,fun plane' found => ?_⟩
  · rw [idle] at member; cases member
  · obtain ⟨found,lasting⟩ := live_iff.mp live
    rw [ended,World.endWt,List.getElem?_modify] at found
    by_cases same : plane.wt = n
    · simp only [same,if_true] at found
      obtain ⟨_,_,rfl⟩ := Option.map_eq_some_iff.mp found
      cases lasting
    · simp only [same,if_false] at found
      obtain ⟨other,here',there⟩ := ok.only n wt (live_iff.mpr ⟨by simpa using found,lasting⟩)
      cases here.symm.trans here'
      exact absurd there same
  · rw [none] at found; cases found

/-- The entry stays, with its WebTransport open or not. -/
private theorem PlaneOk.setOpen (ok : PlaneOk w) (isOpen : Bool) : PlaneOk (w.setOpen n isOpen) := by
  have at_index (m : Nat) : (w.setOpen n isOpen).wts[m]? =
      (w.wts[m]?).map fun wt => if n = m then { wt with isOpen } else wt := by
    rw [World.setOpen,List.getElem?_modify]
    by_cases same : n = m <;> simp [same]
  refine ⟨ok.pending,fun m wt live => ?_,fun plane here => ?_⟩
  · obtain ⟨found,lasting⟩ := live_iff.mp live
    rw [at_index] at found
    obtain ⟨before,earlier,rfl⟩ := Option.map_eq_some_iff.mp found
    refine ok.only m before (live_iff.mpr ⟨earlier,?_⟩)
    split_ifs at lasting <;> exact lasting
  · obtain ⟨wt,found,same⟩ := ok.entry plane here
    refine ⟨_,(at_index plane.wt).trans (congrArg _ found),?_⟩
    split_ifs <;> exact same

private theorem PlaneOk.started (ok : PlaneOk w) (none : w.inPagePlane = none)
    (entry : w'.inPagePlane = some ⟨w.wts.length,generation⟩) (pending : w'.inPagePending = w.inPagePending)
    (added : w'.wts = w.wts ++ [⟨generation,false,false⟩]) : PlaneOk w' := by
  refine ⟨fun r member => ?_,fun n wt live => ?_,fun plane found => ?_⟩
  · rw [pending] at member
    obtain ⟨plane,here,_⟩ := ok.pending r member
    rw [none] at here; cases here
  · obtain ⟨found,lasting⟩ := live_iff.mp live
    rw [added] at found
    by_cases new : n = w.wts.length
    · exact ⟨_,entry,new.symm⟩
    · have bound : n < w.wts.length := by
        have := (List.getElem?_eq_some_iff.mp found).1
        simp only [List.length_append,List.length_singleton] at this
        omega
      rw [List.getElem?_append_left bound] at found
      obtain ⟨plane,here,_⟩ := ok.only n wt (live_iff.mpr ⟨found,lasting⟩)
      rw [none] at here; cases here
  · cases entry.symm.trans found
    exact ⟨⟨generation,false,false⟩,by rw [added]; simp,rfl⟩

private structure Inv (w : World) : Prop where
  wired : w.device.Wired
  inPlace : (w.device.opened || w.registered) = true → fits w w.device.planeGeneration = true
  planes : PlaneOk w

private theorem Inv.init : Inv init := by
  refine ⟨.initial,fun _ => rfl,⟨nofun,fun n wt live => ?_,nofun⟩⟩
  cases (live_iff.mp live).1

/-- The device changes, and follows its old generation or one that fits. -/
private theorem Inv.withDevice (inv : Inv w) (wired : d.Wired)
    (moves : (d.opened || w.registered) = true → fits w d.planeGeneration = true) : Inv (w.withDevice d) :=
  ⟨wired,moves,⟨inv.planes.pending,inv.planes.only,inv.planes.entry⟩⟩

private theorem Inv.resume (inv : Inv w) {k : Nat} (resumed : w.resume k call = some w') : Inv w' := by
  rw [World.resume] at resumed
  split_ifs at resumed
  cases resumed
  exact ⟨inv.wired,inv.inPlace,⟨inv.planes.pending,inv.planes.only,inv.planes.entry⟩⟩

private theorem Inv.begin (inv : Inv w) (call : Call) : Inv (w.begin call) :=
  ⟨inv.wired,inv.inPlace,⟨inv.planes.pending,inv.planes.only,inv.planes.entry⟩⟩

private theorem Inv.named (inv : Inv w) (taken : Bool) : Inv (w.named generation taken) :=
  ⟨inv.wired,inv.inPlace,⟨inv.planes.pending,inv.planes.only,inv.planes.entry⟩⟩

private theorem Inv.openFails (inv : Inv w) : Inv w.openFails :=
  inv.withDevice ⟨inv.wired.generation,inv.wired.pending⟩ inv.inPlace

/-- The device is no longer open; it may have left the registry. -/
private theorem Inv.reconciled (inv : Inv w) (forgotten registered : Bool)
    (kept : registered = true → w.registered = true) :
    Inv { w with device := w.device.reconcileAuthoritativeLifetime forgotten, registered } := by
  refine ⟨?_,fun inUse => ?_,⟨inv.planes.pending,inv.planes.only,inv.planes.entry⟩⟩
  · exact Device.Wired.closed ⟨inv.wired.generation,nofun⟩ rfl
  · simp only [Device.reconcileAuthoritativeLifetime,Device.closeDataPort_opened,Device.closeDataPort_planeGeneration,
      Device.rejectPendingReports,Bool.false_or] at inUse ⊢
    exact inv.inPlace (by rw [kept inUse,Bool.or_true])

private theorem Inv.tornDown (inv : Inv w) : Inv w.tornDown := inv.reconciled true false nofun

private theorem Inv.teardownForgottenDevice (inv : Inv w) : Inv w.teardownForgottenDevice := by
  rw [World.teardownForgottenDevice]
  split_ifs
  · exact inv.begin _
  · exact inv.tornDown

private theorem openPlane_some {plane : InPagePlane} (found : w.openPlane = some plane) : w.inPagePlane = some plane :=
  (Option.filter_eq_some_iff.mp found).1

private theorem Inv.sendDeviceRequest (inv : Inv w) : Inv w.sendDeviceRequest := by
  unfold World.sendDeviceRequest
  split
  · exact inv
  · next plane chosen =>
    have here : w.inPagePlane = some plane := by
      unfold World.transport at chosen
      split_ifs at chosen
      split at chosen
      · next found => cases chosen; exact openPlane_some found
      · split at chosen
        · split_ifs at chosen
          cases chosen
        · cases chosen
    refine ⟨inv.wired,inv.inPlace,⟨fun r member => ?_,inv.planes.only,inv.planes.entry⟩⟩
    rcases List.mem_append.mp member with before | new
    · exact inv.planes.pending r before
    · rw [List.mem_singleton.mp new]
      exact ⟨plane,here,rfl⟩
  · next port generation chosen =>
    have here : w.device.dataPort = some port := by
      unfold World.transport at chosen
      split_ifs at chosen
      split at chosen
      · cases chosen
      · split at chosen
        · next attached _ =>
          split_ifs at chosen
          cases chosen
          exact attached
        · cases chosen
    refine ⟨⟨inv.wired.generation,fun r member => ?_⟩,inv.inPlace,
      ⟨inv.planes.pending,inv.planes.only,inv.planes.entry⟩⟩
    rcases List.mem_append.mp member with before | new
    · exact inv.wired.pending r before
    · rw [List.mem_singleton.mp new]
      exact here

/-- The device takes the generation of a message only where an in-page plane fits. -/
private theorem Inv.openAnswered (inv : Inv w) {ok : Bool} {answer : Option Nat}
    (fine : ∀ g, answer = some g → w.device.forgotten || !ok || !(w.device.opened || w.registered) || fits w g) :
    Inv (w.openAnswered ok answer) := by
  unfold World.openAnswered
  split_ifs with refused
  · exact inv.openFails
  · split
    · exact inv.openFails
    · next g =>
      have fitting := fine g rfl
      refine ⟨inv.wired.openAccepted,fun inUse => ?_,⟨inv.planes.pending,inv.planes.only,inv.planes.entry⟩⟩
      rw [World.begin,World.named] at inUse ⊢
      simp only [Device.openAccepted_opened,Device.openAccepted_planeGeneration] at inUse ⊢
      rw [Bool.eq_false_iff.mpr refused,inUse] at fitting
      exact fitting

private theorem Inv.readyAnswered (inv : Inv w) {ok : Bool}
    (fine : (if ok then fits w w.device.planeGeneration else w.device.dataPending.isEmpty) = true) :
    Inv (w.readyAnswered ok) := by
  cases ok with
  | true => exact inv.withDevice ⟨inv.wired.generation,inv.wired.pending⟩ fun _ => fine
  | false =>
    have idle : w.device.dataPending = [] := List.isEmpty_iff.mp fine
    refine (inv.withDevice (d := w.device.openGivesUp) ⟨nofun,fun r member => ?_⟩ inv.inPlace).begin _
    rw [show w.device.openGivesUp.dataPending = [] from idle] at member
    cases member

private theorem Inv.handleDataPlaneConnect (inv : Inv w)
    (fine : orderly w (.dataPlaneConnect generation) = true) : Inv (w.handleDataPlaneConnect generation) := by
  rw [World.handleDataPlaneConnect]
  split_ifs with stale known
  · exact inv
  · rw [orderly,Bool.eq_false_iff.mpr stale,Bool.false_or,if_pos known,Bool.and_eq_true,Bool.or_eq_true] at fine
    obtain ⟨none,port⟩ := fine
    refine ⟨⟨fun attached => ?_,inv.wired.pending⟩,fun _ => beq_self_eq_true generation,
      inv.planes.started (Option.isNone_iff_eq_none.mp none) rfl rfl rfl⟩
    rcases port with absent | same
    · have attached : w.device.dataPort.isSome = true := attached
      rw [Option.isNone_iff_eq_none.mp absent] at attached
      cases attached
    · exact beq_iff_eq.mp same
  · rw [orderly,Bool.eq_false_iff.mpr stale,Bool.false_or,if_neg known,Bool.and_eq_true,Bool.or_eq_true] at fine
    obtain ⟨none,follows⟩ := fine
    refine ⟨inv.wired,fun inUse => ?_,inv.planes.started (Option.isNone_iff_eq_none.mp none) rfl rfl rfl⟩
    rcases follows with closed | same
    · rw [Bool.not_eq_true'] at closed
      simp only [closed,Bool.eq_false_iff.mpr known,Bool.or_self,Bool.false_eq_true] at inUse
    · rw [beq_iff_eq.mp same]
      exact beq_self_eq_true _

private theorem Inv.handleDataPlaneDisconnect (inv : Inv w) (named : Option Nat) :
    Inv (w.handleDataPlaneDisconnect named) := by
  unfold World.handleDataPlaneDisconnect
  split
  · exact inv
  · next plane here =>
    split_ifs
    · exact ⟨inv.wired,fun _ => rfl,inv.planes.ended here rfl rfl rfl⟩
    · exact inv

/-- A WebTransport ends, and the entry with it. -/
private theorem Inv.finished (inv : Inv w) (live : w.live n = some wt) :
    Inv ((w.endWt n).onClosed wt false) ∧ Inv ((w.endWt n).onAuthFailed wt) := by
  obtain ⟨plane,here,rfl,_⟩ := inv.planes.current live
  have current : (w.endWt plane.wt).isCurrent wt = true := inv.planes.isCurrent live
  rw [World.onClosed,World.onAuthFailed,if_pos current,if_pos current]
  exact ⟨⟨inv.wired,fun _ => rfl,inv.planes.ended here rfl rfl rfl⟩,
    ⟨inv.wired,fun _ => rfl,inv.planes.ended here rfl rfl rfl⟩⟩

/-- A message moves a device to a generation. -/
private theorem moves_fit (fine : (!(w.registered && w.device.follows generation) || fits w generation) = true)
    (known : w.registered = true) (follows : w.device.follows generation = true) : fits w generation = true := by
  rw [known,follows] at fine
  exact fine

private theorem step_inv (inv : Inv w) {a : Action} (taken : step w a = some w') (fine : orderly w a = true) :
    Inv w' := by
  cases a with
  | create =>
    simp only [step] at taken
    split_ifs at taken
    cases taken
    exact ⟨inv.wired,fun _ => fine,⟨inv.planes.pending,inv.planes.only,inv.planes.entry⟩⟩
  | openCall =>
    simp only [step] at taken
    split_ifs at taken
    cases taken
    unfold World.openDevice
    split_ifs
    · exact inv
    · exact Inv.begin (inv.withDevice (d := { w.device with opening := true })
        ⟨inv.wired.generation,inv.wired.pending⟩ inv.inPlace) _
  | closeCall =>
    simp only [step] at taken
    split_ifs at taken
    cases taken
    unfold World.closeDevice
    split_ifs
    · exact inv.begin _
    · exact inv
  | forgetCall =>
    simp only [step] at taken
    split_ifs at taken
    cases taken
    unfold World.forget
    split_ifs
    · exact inv
    · exact inv.begin _
  | request =>
    simp only [step] at taken
    split_ifs at taken
    cases taken
    exact inv.sendDeviceRequest
  | openAnswer k ok answer =>
    obtain ⟨s,resumed,rfl⟩ := Option.map_eq_some_iff.mp taken
    have same : s.device = w.device ∧ s.registered = w.registered ∧ s.inPagePlane = w.inPagePlane := by
      rw [World.resume] at resumed
      split_ifs at resumed
      cases resumed
      exact ⟨rfl,rfl,rfl⟩
    refine (inv.resume resumed).openAnswered fun g named => ?_
    subst named
    rw [same.1,same.2.1,fits,same.2.2]
    exact fine
  | readyAnswer k ok =>
    obtain ⟨s,resumed,rfl⟩ := Option.map_eq_some_iff.mp taken
    have same : s.device = w.device ∧ s.inPagePlane = w.inPagePlane := by
      rw [World.resume] at resumed
      split_ifs at resumed
      cases resumed
      exact ⟨rfl,rfl⟩
    refine (inv.resume resumed).readyAnswered ?_
    rw [same.1,fits,same.2]
    exact fine
  | givenUp k =>
    obtain ⟨s,resumed,rfl⟩ := Option.map_eq_some_iff.mp taken
    exact (inv.resume resumed).openFails
  | closeAnswer k ok =>
    obtain ⟨s,resumed,rfl⟩ := Option.map_eq_some_iff.mp taken
    have held := inv.resume resumed
    unfold World.closeAnswered
    split_ifs
    · refine held.withDevice (Device.Wired.closed ⟨held.wired.generation,nofun⟩ rfl) fun inUse => ?_
      simp only [Device.closeDone,Device.rejectPendingReports,Device.closeDataPort_opened,
        Device.closeDataPort_planeGeneration,Bool.false_or] at inUse ⊢
      exact held.inPlace (by rw [inUse,Bool.or_true])
    · exact held
  | forgetAnswer k ok =>
    obtain ⟨s,resumed,rfl⟩ := Option.map_eq_some_iff.mp taken
    have held := inv.resume resumed
    cases ok with
    | true => exact held.teardownForgottenDevice
    | false => exact held
  | tornDown k =>
    obtain ⟨s,resumed,rfl⟩ := Option.map_eq_some_iff.mp taken
    exact (inv.resume resumed).tornDown
  | disconnected hidInstance =>
    cases taken
    unfold World.disconnectEvent
    split_ifs with known
    · exact inv.reconciled false _ fun _ => known
    · exact inv
  | revoked =>
    cases taken
    unfold World.forceForget
    split_ifs
    · exact inv.teardownForgottenDevice
    · exact inv
  | dataPlaneConnect generation => cases taken; exact (inv.handleDataPlaneConnect fine).named _
  | dataPlaneDisconnect named => cases taken; exact inv.handleDataPlaneDisconnect named
  | dataPlaneReady generation =>
    cases taken
    split_ifs
    · refine inv.withDevice inv.wired.handleDataPlaneReady ?_
      unfold Device.handleDataPlaneReady
      split_ifs <;> exact inv.inPlace
    · exact inv
  | dataPlaneUnavailable generation =>
    cases taken
    split_ifs with known
    · refine (inv.withDevice inv.wired.handleDataPlaneUnavailable ?_).named _
      unfold Device.handleDataPlaneUnavailable
      split_ifs with follows
      · exact fun _ => moves_fit fine known follows
      · exact inv.inPlace
    · exact inv
  | wireWorkerPort generation =>
    cases taken
    split_ifs with known
    · refine ⟨inv.wired.handleWireWorkerPort,?_,⟨inv.planes.pending,inv.planes.only,inv.planes.entry⟩⟩
      simp only [World.named,Device.handleWireWorkerPort]
      split_ifs with follows
      · intro _
        rw [inv.wired.wireDevicePort_planeGeneration]
        exact moves_fit (w := w) fine known follows
      · exact inv.inPlace
    · exact inv
  | planeBegun generation =>
    simp only [step] at taken
    split_ifs at taken
    cases taken
    exact ⟨inv.wired,inv.inPlace,⟨inv.planes.pending,inv.planes.only,inv.planes.entry⟩⟩
  | bridgeReports => cases taken; exact inv
  | wtReady n =>
    obtain ⟨_,_,rfl⟩ := Option.map_eq_some_iff.mp taken
    exact ⟨inv.wired,inv.inPlace,inv.planes.setOpen true⟩
  | wtInterrupted n =>
    obtain ⟨wt,_,rfl⟩ := Option.map_eq_some_iff.mp taken
    have closed := inv.planes.setOpen (n := n) false
    simp only [World.onClosed,if_true]
    split_ifs
    · exact ⟨inv.wired,inv.inPlace,nofun,closed.only,closed.entry⟩
    · exact ⟨inv.wired,inv.inPlace,closed⟩
  | wtClosed n =>
    obtain ⟨wt,live,rfl⟩ := Option.map_eq_some_iff.mp taken
    exact (inv.finished live).1
  | wtAuthFailed n =>
    obtain ⟨wt,live,rfl⟩ := Option.map_eq_some_iff.mp taken
    exact (inv.finished live).2
  | wtReports n =>
    obtain ⟨_,_,rfl⟩ := Option.map_eq_some_iff.mp taken
    exact inv
  | wtResult n reqId =>
    obtain ⟨wt,_,rfl⟩ := Option.map_eq_some_iff.mp taken
    split_ifs
    · refine ⟨inv.wired,inv.inPlace,⟨fun r member => ?_,inv.planes.only,inv.planes.entry⟩⟩
      exact inv.planes.pending r (List.mem_filter.mp member).1
    · exact inv
  | portReports =>
    simp only [step] at taken
    split_ifs at taken
    cases taken
    exact inv
  | portResult reqId =>
    simp only [step] at taken
    split_ifs at taken
    cases taken
    refine inv.withDevice ⟨inv.wired.generation,fun r member => ?_⟩ inv.inPlace
    exact inv.wired.pending r (List.mem_filter.mp member).1
  | portDisconnected =>
    simp only [step] at taken
    split_ifs at taken
    cases taken
    exact inv.reconciled false w.registered id

/-! ### The generations of the bridge -/

/-- Once the device has taken the generation that the bridge has begun last, it follows it. -/
private def Heeds (w : World) : Prop := w.heeded = true → w.device.planeGeneration = w.bridgeGeneration

private theorem Heeds.of_same (heeds : Heeds w) (device : w'.device.planeGeneration = w.device.planeGeneration)
    (bridge : w'.bridgeGeneration = w.bridgeGeneration) (heeded : w'.heeded = w.heeded) : Heeds w' := by
  rw [Heeds,device,bridge,heeded]
  exact heeds

/-- A message moves the device to the generation that it names, or does not move it. -/
private theorem Heeds.named (heeds : Heeds w) (generation : Nat) {taken : Bool}
    (bridge : w'.bridgeGeneration = w.bridgeGeneration) (heeded : w'.heeded = w.heeded)
    (moves : w'.device.planeGeneration = if taken then generation else w.device.planeGeneration) :
    Heeds (w'.named generation taken) := by
  intro same
  simp only [World.named,bridge,heeded,moves] at same ⊢
  cases taken with
  | true => exact beq_iff_eq.mp same
  | false => exact heeds same

private theorem Heeds.resume (heeds : Heeds w) {k : Nat} (resumed : w.resume k call = some w') : Heeds w' := by
  rw [World.resume] at resumed
  split_ifs at resumed
  cases resumed
  exact heeds

private theorem Heeds.reconciled (heeds : Heeds w) (forgotten registered : Bool) :
    Heeds { w with device := w.device.reconcileAuthoritativeLifetime forgotten, registered } := by
  refine heeds.of_same ?_ rfl rfl
  simp only [Device.reconcileAuthoritativeLifetime,Device.closeDataPort_planeGeneration,Device.rejectPendingReports]

private theorem Heeds.teardownForgottenDevice (heeds : Heeds w) : Heeds w.teardownForgottenDevice := by
  rw [World.teardownForgottenDevice]
  split_ifs
  · exact heeds
  · exact heeds.reconciled true false

private theorem Heeds.sendDeviceRequest (heeds : Heeds w) : Heeds w.sendDeviceRequest := by
  unfold World.sendDeviceRequest
  split <;> exact heeds

private theorem Heeds.openAnswered (heeds : Heeds w) (ok : Bool) (answer : Option Nat) :
    Heeds (w.openAnswered ok answer) := by
  unfold World.openAnswered
  split_ifs
  · exact heeds
  · cases answer with
    | none => exact heeds
    | some g =>
      have held : Heeds ({ w with
          device := w.device.openAccepted w.nextPort g
          nextPort := w.nextPort + 1 }.named g true) := heeds.named g rfl rfl Device.openAccepted_planeGeneration
      exact held

private theorem Heeds.handleDataPlaneConnect (heeds : Heeds w) (generation : Nat) :
    Heeds ((w.handleDataPlaneConnect generation).named generation (w.registered && !w.device.staleConnect generation)) := by
  rw [World.handleDataPlaneConnect]
  cases known : w.registered <;> cases stale : w.device.staleConnect generation <;>
    exact heeds.named generation rfl rfl rfl

private theorem step_heeds (inv : Inv w) (heeds : Heeds w) {a : Action} (taken : step w a = some w') : Heeds w' := by
  cases a with
  | create =>
    simp only [step] at taken
    split_ifs at taken
    cases taken
    exact heeds
  | openCall =>
    simp only [step] at taken
    split_ifs at taken
    cases taken
    unfold World.openDevice
    split_ifs <;> exact heeds
  | closeCall =>
    simp only [step] at taken
    split_ifs at taken
    cases taken
    unfold World.closeDevice
    split_ifs <;> exact heeds
  | forgetCall =>
    simp only [step] at taken
    split_ifs at taken
    cases taken
    unfold World.forget
    split_ifs <;> exact heeds
  | request =>
    simp only [step] at taken
    split_ifs at taken
    cases taken
    exact heeds.sendDeviceRequest
  | openAnswer k ok answer =>
    obtain ⟨s,resumed,rfl⟩ := Option.map_eq_some_iff.mp taken
    exact (heeds.resume resumed).openAnswered ok answer
  | readyAnswer k ok =>
    obtain ⟨s,resumed,rfl⟩ := Option.map_eq_some_iff.mp taken
    have held := heeds.resume resumed
    cases ok <;> exact held
  | givenUp k =>
    obtain ⟨s,resumed,rfl⟩ := Option.map_eq_some_iff.mp taken
    have held := heeds.resume resumed
    exact held
  | closeAnswer k ok =>
    obtain ⟨s,resumed,rfl⟩ := Option.map_eq_some_iff.mp taken
    have held := heeds.resume resumed
    cases ok with
    | true =>
      refine held.of_same ?_ rfl rfl
      simp only [World.closeAnswered,if_true,World.withDevice,Device.closeDone,Device.closeDataPort_planeGeneration,
        Device.rejectPendingReports]
    | false => exact held
  | forgetAnswer k ok =>
    obtain ⟨s,resumed,rfl⟩ := Option.map_eq_some_iff.mp taken
    have held := heeds.resume resumed
    cases ok with
    | true => exact held.teardownForgottenDevice
    | false => exact held
  | tornDown k =>
    obtain ⟨s,resumed,rfl⟩ := Option.map_eq_some_iff.mp taken
    exact (heeds.resume resumed).reconciled true false
  | disconnected hidInstance =>
    cases taken
    unfold World.disconnectEvent
    split_ifs
    · exact heeds.reconciled false _
    · exact heeds
  | revoked =>
    cases taken
    unfold World.forceForget
    split_ifs
    · exact heeds.teardownForgottenDevice
    · exact heeds
  | dataPlaneConnect generation => cases taken; exact heeds.handleDataPlaneConnect generation
  | dataPlaneDisconnect named =>
    cases taken
    unfold World.handleDataPlaneDisconnect
    split
    · exact heeds
    · split_ifs <;> exact heeds
  | dataPlaneReady generation =>
    cases taken
    unfold Device.handleDataPlaneReady
    split_ifs <;> exact heeds
  | dataPlaneUnavailable generation =>
    cases taken
    split_ifs
    · refine heeds.named generation rfl rfl ?_
      simp only [World.withDevice,Device.handleDataPlaneUnavailable]
      split_ifs <;> rfl
    · exact heeds
  | wireWorkerPort generation =>
    cases taken
    split_ifs
    · refine heeds.named generation rfl rfl ?_
      simp only [Device.handleWireWorkerPort]
      split_ifs
      · exact inv.wired.wireDevicePort_planeGeneration
      · rfl
    · exact heeds
  | planeBegun generation =>
    simp only [step] at taken
    split_ifs at taken
    cases taken
    exact nofun
  | bridgeReports => cases taken; exact heeds
  | wtReady n =>
    obtain ⟨_,_,rfl⟩ := Option.map_eq_some_iff.mp taken
    exact heeds
  | wtInterrupted n =>
    obtain ⟨wt,_,rfl⟩ := Option.map_eq_some_iff.mp taken
    unfold World.onClosed
    split_ifs <;> exact heeds
  | wtClosed n =>
    obtain ⟨wt,live,rfl⟩ := Option.map_eq_some_iff.mp taken
    unfold World.onClosed
    split_ifs <;> exact heeds
  | wtAuthFailed n =>
    obtain ⟨wt,live,rfl⟩ := Option.map_eq_some_iff.mp taken
    unfold World.onAuthFailed
    split_ifs <;> exact heeds
  | wtReports n =>
    obtain ⟨_,_,rfl⟩ := Option.map_eq_some_iff.mp taken
    exact heeds
  | wtResult n reqId =>
    obtain ⟨wt,_,rfl⟩ := Option.map_eq_some_iff.mp taken
    split_ifs <;> exact heeds
  | portReports | portResult reqId =>
    simp only [step] at taken
    split_ifs at taken
    cases taken
    exact heeds
  | portDisconnected =>
    simp only [step] at taken
    split_ifs at taken
    cases taken
    exact heeds.reconciled false w.registered

/-- What the invariants say of a step and of the state after it. -/
private theorem onePlane (inv : Inv w) (heeds : Heeds w) (after : Inv w') {a : Action} (taken : step w a = some w')
    (fine : orderly w a = true) : OnePlane w a w' := by
  have fitting {generation : Nat} {plane : InPagePlane} (fits : fits w generation = true)
      (here : w.inPagePlane = some plane) : plane.generation = generation := by
    rw [PagePlanes.fits,here] at fits
    exact beq_iff_eq.mp fits
  refine ⟨fun g sent => ?_,fun g dispatched => ?_,after.planes.pending,after.wired.pending,after.planes.only,
    fun inUse plane here => ?_,after.wired.generation⟩
  · unfold sentOn at sent
    split at sent
    · simp only [step] at taken
      split_ifs at taken with open'
      obtain ⟨t,chosen,rfl⟩ := Option.map_eq_some_iff.mp sent
      unfold World.transport at chosen
      split_ifs at chosen
      split at chosen
      · next plane found =>
        cases chosen
        refine fitting (inv.inPlace ?_) (openPlane_some found)
        rw [(Bool.and_eq_true_iff.mp open').2,Bool.true_or]
      · split at chosen
        · split_ifs at chosen with same
          cases chosen
          exact same
        · cases chosen
    · cases sent
  · unfold dispatchedFrom at dispatched
    split at dispatched
    · next n =>
      split_ifs at dispatched with known
      obtain ⟨wt,found,rfl⟩ := Option.map_eq_some_iff.mp dispatched
      obtain ⟨plane,here,_,same⟩ := inv.planes.current (Option.filter_eq_some_iff.mp found).1
      rw [same]
      exact fitting (inv.inPlace (by rw [known,Bool.or_true])) here
    · simp only [step] at taken
      split_ifs at taken with attached
      exact Option.some.inj (dispatched.symm.trans (inv.wired.generation attached))
    · split_ifs at dispatched with known
      cases dispatched
      rw [orderly,known] at fine
      exact (heeds fine).symm
    · cases dispatched
  · have fits := after.inPlace inUse
    rw [PagePlanes.fits,here] at fits
    exact beq_iff_eq.mp fits

end

/-- In every run whose steps are orderly, the device is served by one plane at a time. -/
theorem one_plane {trace : List Action} (keeps : AllSteps step (fun w a _ => orderly w a = true) init trace) :
    AllSteps step OnePlane init trace :=
  allSteps_under (I := fun w => Inv w ∧ Heeds w)
    (fun _ _ _ both taken fine => ⟨step_inv both.1 taken fine,step_heeds both.1 both.2 taken⟩)
    (fun _ _ _ both taken fine => onePlane both.1 both.2 (step_inv both.1 taken fine) taken fine)
    ⟨Inv.init,fun _ => rfl⟩ keeps

/-- A device is opened on a WebTransport and moved to another plane of the bridge. -/
def movedToPort : List Action :=
  [.create,.openCall,.planeBegun 1,.dataPlaneConnect 1,.wtReady 0,.openAnswer 0 true (some 1),.readyAnswer 0 true,
    .request,.wtReports 0,.planeBegun 3,.dataPlaneUnavailable 1,.dataPlaneDisconnect (some 1),.wireWorkerPort 3,
    .bridgeReports,.dataPlaneReady 3,.request]

theorem one_plane_moved : ∃ w, exec step init movedToPort = some w ∧ w.inPagePending = [] ∧
    w.device.dataPending = [⟨2,1⟩] ∧ AllSteps step OnePlane init movedToPort := by
  obtain ⟨w,run⟩ := Option.isSome_iff_exists.mp (by decide : (exec step init movedToPort).isSome = true)
  have facts : (exec step init movedToPort).map (fun w => (w.inPagePending,w.device.dataPending)) =
      some ([],[⟨2,1⟩]) := by decide
  rw [run] at facts
  simp only [Option.map_some,Option.some.injEq,Prod.mk.injEq] at facts
  exact ⟨w,run,facts.1,facts.2,one_plane (allSteps_of_checkAll (by decide))⟩

/-- The bridge has waited 10 s for the WebTransport and opened the device without it. -/
def lateTransport : List Action :=
  [.create,.openCall,.dataPlaneConnect 1,.openAnswer 0 true (some 1),.readyAnswer 0 true,.wtReady 0]

/-- The device is closed and opened on a data port. -/
def reopened : List Action :=
  lateTransport ++ [.closeCall,.closeAnswer 0 true,.openCall,.openAnswer 0 true (some 3),.readyAnswer 0 true]

/-- A request waits on the WebTransport when the bridge switches to another one. -/
def replaced : List Action := lateTransport ++ [.request,.dataPlaneUnavailable 1]

/-- The bridge does not end the WebTransport that it no longer waits for. After the
    device was opened again a request goes out on it, and when the bridge starts another
    one it stays connected with its request pending. -/
theorem late_transport_is_kept :
    ¬ AllSteps step OnePlane init (reopened ++ [.request]) ∧
    ¬ AllSteps step OnePlane init (replaced ++ [.dataPlaneConnect 3]) := by
  constructor
  · intro all
    obtain ⟨w,run⟩ := Option.isSome_iff_exists.mp (by decide : (exec step init reopened).isSome = true)
    have facts : (exec step init reopened).map (fun w =>
        (sentOn w .request,w.device.planeGeneration,(step w .request).isSome)) = some (some 1,3,true) := by decide
    rw [run] at facts
    simp only [Option.map_some,Option.some.injEq,Prod.mk.injEq] at facts
    obtain ⟨sent,generation,enabled⟩ := facts
    obtain ⟨w',taken⟩ := Option.isSome_iff_exists.mp enabled
    have same := (all.at run taken).sends 1 sent
    rw [generation] at same
    cases same
  · intro all
    obtain ⟨w,run⟩ := Option.isSome_iff_exists.mp (by decide : (exec step init replaced).isSome = true)
    have facts : (exec step init replaced).map (fun w =>
        ((w.handleDataPlaneConnect 3).inPagePending,(w.handleDataPlaneConnect 3).inPagePlane)) =
        some ([⟨1,0⟩],some ⟨1,3⟩) := by decide
    rw [run] at facts
    simp only [Option.map_some,Option.some.injEq,Prod.mk.injEq] at facts
    obtain ⟨pending,plane⟩ := facts
    obtain ⟨there,here,same⟩ := (all.at run (a := Action.dataPlaneConnect 3) rfl).inPagePending ⟨1,0⟩
      (by rw [World.named,pending]; exact List.mem_singleton_self _)
    rw [World.named,plane] at here
    cases here
    cases same

end FFWebHid.PagePlanes
