import Mathlib.Tactic.SplitIfs

/-!
The state that the page keeps for one HIDDevice, and what its functions do to it: the
data port that it is wired to, the plane generation that it follows, and the flags that
decide whether it is open and whether its plane can be used.
-/
namespace FFWebHid.PageDevices

/-- A report request that waits for its result on the data port. The port is a ghost. -/
structure PendingReport where
  reqId : Nat
  port : Nat
  deriving DecidableEq, Repr

/-- An entry of `devState`. -/
structure Device where
  opened : Bool := false
  opening : Bool := false
  forgotten : Bool := false
  planeGeneration : Nat := 0
  planeReady : Bool := false
  planeUnavailable : Bool := false
  planeUnavailableGeneration : Option Nat := none
  dataPort : Option Nat := none
  dataPortGeneration : Option Nat := none
  dataPending : List PendingReport := []
  deriving DecidableEq, Repr

namespace Device
variable (d : Device)

def rejectPendingReports : Device := { d with dataPending := [] }

def detachDataPort : Device := { d with dataPort := none, dataPortGeneration := none }

/-- The data port is closed where the code only looks for it when there is one. -/
def closeDataPort : Device := if d.dataPort.isSome then d.detachDataPort else d

/-- `wireDevicePort` with a new channel. -/
def wireDevicePort (port generation : Nat) : Device :=
  if d.dataPort.isSome && d.dataPortGeneration == some generation then d
  else
    let d := if d.dataPort.isSome then d.rejectPendingReports.detachDataPort else d
    { d with
      planeGeneration := generation
      planeReady := false
      planeUnavailableGeneration := if generation = d.planeGeneration then d.planeUnavailableGeneration else none
      planeUnavailable := d.opened || d.planeUnavailable
      dataPort := some port
      dataPortGeneration := some generation }

/-- An open or opening device takes the generation, unless it is older than its own. -/
def follows (generation : Nat) : Bool := (d.opened || d.opening) && d.planeGeneration ≤ generation

def handleWireWorkerPort (port generation : Nat) : Device :=
  if d.follows generation then d.wireDevicePort port generation else d

def handleDataPlaneReady (generation : Nat) : Device :=
  if generation = d.planeGeneration ∧ d.planeUnavailableGeneration ≠ some generation ∧ (d.opened || d.opening) then
    { d with planeReady := true, planeUnavailable := false, planeUnavailableGeneration := none }
  else d

def handleDataPlaneUnavailable (generation : Nat) : Device :=
  if d.follows generation then
    { d with
      planeGeneration := generation
      planeReady := false
      planeUnavailable := true
      planeUnavailableGeneration := some generation }.rejectPendingReports.detachDataPort
  else d

/-- The generation of a `dataPlaneConnect` is not taken. -/
def staleConnect (generation : Nat) : Bool :=
  generation < d.planeGeneration || (generation == d.planeGeneration && d.planeReady)

/-- What `handleDataPlaneConnect` does to the device when the generation is taken. -/
def connecting (generation : Nat) : Device :=
  { d with
    planeGeneration := generation
    planeReady := false
    planeUnavailable := true
    planeUnavailableGeneration := none }

/-- The bridge has opened the device on a plane generation. -/
def openAccepted (port generation : Nat) : Device :=
  { d with planeGeneration := generation }.wireDevicePort port generation

/-- `waitDataPlaneReady` has succeeded. -/
def openDone : Device := { d with planeReady := true, planeUnavailable := false, opened := true, opening := false }

/-- `waitDataPlaneReady` has failed: the port is closed, and its generation stays. -/
def openGivesUp : Device := { d with dataPort := none }

/-- A close has succeeded. -/
def closeDone : Device :=
  { d with
    opened := false
    planeReady := false
    planeUnavailable := false
    planeUnavailableGeneration := none }.rejectPendingReports.closeDataPort

def reconcileAuthoritativeLifetime (forgotten : Bool) : Device :=
  { d with
    opening := false
    forgotten := d.forgotten || forgotten
    opened := false
    planeReady := false
    planeUnavailable := false
    planeUnavailableGeneration := none }.rejectPendingReports.closeDataPort

/-! ### What they keep -/

/-- An attached port has the generation that the device follows, and what is pending
    waits on it. -/
structure Wired : Prop where
  generation : d.dataPort.isSome → d.dataPortGeneration = some d.planeGeneration
  pending : ∀ r ∈ d.dataPending, d.dataPort = some r.port

variable {d} {port generation : Nat}

theorem Wired.initial : Wired {} := ⟨nofun,nofun⟩

@[simp] theorem closeDataPort_opened : d.closeDataPort.opened = d.opened := by
  unfold closeDataPort
  split_ifs <;> rfl

@[simp] theorem closeDataPort_planeGeneration : d.closeDataPort.planeGeneration = d.planeGeneration := by
  unfold closeDataPort
  split_ifs <;> rfl

@[simp] theorem wireDevicePort_opened : (d.wireDevicePort port generation).opened = d.opened := by
  unfold Device.wireDevicePort
  split_ifs <;> rfl

theorem Wired.wireDevicePort_planeGeneration (wired : Wired d) :
    (d.wireDevicePort port generation).planeGeneration = generation := by
  unfold Device.wireDevicePort
  split_ifs with same attached
  · obtain ⟨some,same⟩ := Bool.and_eq_true_iff.mp same
    exact Option.some.inj ((wired.generation some).symm.trans (beq_iff_eq.mp same))
  · rfl
  · rfl

theorem Wired.wireDevicePort (wired : Wired d) : Wired (d.wireDevicePort port generation) := by
  unfold Device.wireDevicePort
  split_ifs with same attached
  · exact wired
  · exact ⟨fun _ => rfl,nofun⟩
  · refine ⟨fun _ => rfl,fun r member => ?_⟩
    rw [wired.pending r member] at attached
    exact absurd rfl attached

theorem Wired.handleWireWorkerPort (wired : Wired d) : Wired (d.handleWireWorkerPort port generation) := by
  unfold Device.handleWireWorkerPort
  split_ifs
  · exact wired.wireDevicePort
  · exact wired

theorem Wired.handleDataPlaneReady (wired : Wired d) : Wired (d.handleDataPlaneReady generation) := by
  unfold Device.handleDataPlaneReady
  split_ifs
  · exact ⟨wired.generation,wired.pending⟩
  · exact wired

theorem Wired.handleDataPlaneUnavailable (wired : Wired d) : Wired (d.handleDataPlaneUnavailable generation) := by
  unfold Device.handleDataPlaneUnavailable
  split_ifs
  · exact ⟨nofun,nofun⟩
  · exact wired

theorem Wired.closed (wired : Wired d) (idle : d.dataPending = []) : Wired d.closeDataPort := by
  unfold closeDataPort
  split_ifs
  · exact ⟨nofun,fun r member => by rw [show d.detachDataPort.dataPending = [] from idle] at member; cases member⟩
  · exact wired

theorem Wired.openAccepted (wired : Wired d) : Wired (d.openAccepted port generation) := by
  unfold Device.openAccepted Device.wireDevicePort
  split_ifs with same attached
  · refine ⟨fun _ => ?_,wired.pending⟩
    exact beq_iff_eq.mp (Bool.and_eq_true_iff.mp same).2
  · exact ⟨fun _ => rfl,nofun⟩
  · refine ⟨fun _ => rfl,fun r member => ?_⟩
    rw [wired.pending r member] at attached
    exact absurd rfl attached

@[simp] theorem openAccepted_planeGeneration : (d.openAccepted port generation).planeGeneration = generation := by
  unfold Device.openAccepted Device.wireDevicePort
  split_ifs <;> rfl

@[simp] theorem openAccepted_opened : (d.openAccepted port generation).opened = d.opened := by
  rw [Device.openAccepted,wireDevicePort_opened]

end Device
end FFWebHid.PageDevices
