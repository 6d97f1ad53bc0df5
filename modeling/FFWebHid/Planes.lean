import FFWebHid.Lifecycle

/-!
The maps that the bridge keeps for the data plane of one client and device. A plane has
generations, and a generation is ready once both of its prerequisites are met: the port of
the page is there, and the daemon serves the session the way that was chosen.
-/
namespace FFWebHid.Planes
open FFWebHid.Registry FFWebHid.Lifecycle

inductive Prerequisite where
  | localPort
  | authoritative
  deriving DecidableEq, Repr

/-- `planeReadiness`. -/
structure Readiness where
  generation : Nat
  localPort : Bool := false
  authoritative : Bool := false
  deriving DecidableEq, Repr

def Readiness.meet (r : Readiness) : Prerequisite → Readiness
  | .localPort => { r with localPort := true }
  | .authoritative => { r with authoritative := true }

/-- What the maps hold at one key. No generation is 0, which `spawnGen` has before the
    first. `workers` is the generation of the entry; `inPageDevices` has none. -/
structure Plane where
  spawnGen : Nat := 0
  planeReadiness : Option Readiness := none
  readyGenerations : Option Nat := none
  workers : Option Nat := none
  workerGenerations : Option Nat := none
  connectParams : Option TransportKind := none
  deviceTransports : Option TransportKind := none
  inPageDevices : Bool := false
  nmPlanes : Bool := false
  deriving DecidableEq, Repr

namespace Plane
variable (p : Plane)

def beginPlaneGeneration : Plane :=
  { p with
    spawnGen := p.spawnGen + 1
    readyGenerations := none
    planeReadiness := some { generation := p.spawnGen + 1 } }

/-- The readiness of a generation, or a new one where it is of another. -/
def readinessOf (generation : Nat) : Readiness :=
  match p.planeReadiness with
  | some state => if state.generation = generation then state else { generation := generation }
  | none => { generation := generation }

def markPlanePrerequisite (generation : Nat) (prerequisite : Prerequisite) : Plane :=
  if p.spawnGen ≠ generation then p
  else
    let state := (p.readinessOf generation).meet prerequisite
    { p with
      planeReadiness := some state
      readyGenerations := if state.localPort && state.authoritative then some generation else p.readyGenerations }

def markPlaneReady (generation : Nat) : Plane :=
  (p.markPlanePrerequisite generation .localPort).markPlanePrerequisite generation .authoritative

/-- The generation of the worker that a removal of the plane terminates. -/
def workerGeneration : Option Nat := p.workers.or p.workerGenerations

/-- `despawnDataPlane` up to where it waits for the page. -/
def despawnStart : Plane :=
  { p.beginPlaneGeneration with inPageDevices := false, workers := none, workerGenerations := none }

/-- `despawnDataPlane` after that. -/
def despawnEnd : Plane :=
  { p with
    connectParams := none
    deviceTransports := none
    nmPlanes := false
    planeReadiness := none
    readyGenerations := none }

/-- The head of `spawnWorker`: the worker of another generation goes. -/
def dropWorker : Plane :=
  if p.workers.isSome || p.workerGenerations.isSome then
    { p with workers := none, workerGenerations := none, connectParams := none }
  else p

/-- The end of `spawnWorker`. -/
def addWorker (generation : Nat) (kind : TransportKind) : Plane :=
  { p with
    workers := some generation
    deviceTransports := some kind
    connectParams := some kind
    workerGenerations := some generation }

/-- What `fallbackToNm` records when the daemon has accepted. -/
def addNm (generation : Nat) : Plane :=
  { p with nmPlanes := true, deviceTransports := none }.markPlanePrerequisite generation .authoritative

/-- The newest generation has been served by the daemon. -/
def Authoritative : Prop :=
  ∃ state, p.planeReadiness = some state ∧ state.generation = p.spawnGen ∧ state.authoritative = true

/-- The mode of the plane that the bridge holds ready. -/
def reported : Option Mode :=
  if p.readyGenerations = some p.spawnGen then
    if p.workers = some p.spawnGen then p.deviceTransports.map TransportKind.mode
    else if p.inPageDevices then some .wt
    else if p.nmPlanes then some .nm
    else none
  else none

/-! ### Prerequisites -/

/-- Two planes that differ at most in what has been met. -/
structure SameBut (p p' : Plane) : Prop where
  spawnGen : p'.spawnGen = p.spawnGen
  workers : p'.workers = p.workers
  workerGenerations : p'.workerGenerations = p.workerGenerations
  connectParams : p'.connectParams = p.connectParams
  deviceTransports : p'.deviceTransports = p.deviceTransports
  inPageDevices : p'.inPageDevices = p.inPageDevices
  nmPlanes : p'.nmPlanes = p.nmPlanes

variable {p}

theorem SameBut.refl (p : Plane) : SameBut p p := ⟨rfl,rfl,rfl,rfl,rfl,rfl,rfl⟩

theorem SameBut.trans {p₁ p₂ p₃ : Plane} (first : SameBut p₁ p₂) (second : SameBut p₂ p₃) : SameBut p₁ p₃ where
  spawnGen := second.spawnGen.trans first.spawnGen
  workers := second.workers.trans first.workers
  workerGenerations := second.workerGenerations.trans first.workerGenerations
  connectParams := second.connectParams.trans first.connectParams
  deviceTransports := second.deviceTransports.trans first.deviceTransports
  inPageDevices := second.inPageDevices.trans first.inPageDevices
  nmPlanes := second.nmPlanes.trans first.nmPlanes

theorem mark_same (generation : Nat) (prerequisite : Prerequisite) :
    SameBut p (p.markPlanePrerequisite generation prerequisite) := by
  unfold markPlanePrerequisite
  split
  · exact .refl p
  · exact ⟨rfl,rfl,rfl,rfl,rfl,rfl,rfl⟩

theorem ready_same (generation : Nat) : SameBut p (p.markPlaneReady generation) :=
  (mark_same generation .localPort).trans (mark_same generation .authoritative)

/-- A step of another generation marks nothing. -/
theorem mark_stale {generation : Nat} (stale : p.spawnGen ≠ generation) (prerequisite : Prerequisite) :
    p.markPlanePrerequisite generation prerequisite = p := if_pos stale

theorem readinessOf_generation (generation : Nat) : (p.readinessOf generation).generation = generation := by
  unfold readinessOf
  split
  · split
    next same => exact same
    · rfl
  · rfl

/-- The port alone does not make the daemon serve the generation. -/
theorem authoritative_localPort {generation : Nat}
    (served : (p.markPlanePrerequisite generation .localPort).Authoritative) : p.Authoritative := by
  by_cases stale : p.spawnGen = generation
  · subst stale
    unfold markPlanePrerequisite at served
    rw [if_neg (not_not_intro rfl)] at served
    obtain ⟨state,met,_,authoritative⟩ := served
    cases met
    have before : (p.readinessOf p.spawnGen).authoritative = true := authoritative
    unfold readinessOf at before
    split at before
    next state found =>
      split at before
      next same => exact ⟨state,found,same,before⟩
      · cases before
    · cases before
  · rw [mark_stale stale] at served
    exact served

/-- A generation that is ready has been served. -/
def ReadyServed (p : Plane) : Prop := p.readyGenerations = some p.spawnGen → p.Authoritative

theorem ReadyServed.mark (served : p.ReadyServed) (generation : Nat) (prerequisite : Prerequisite) :
    (p.markPlanePrerequisite generation prerequisite).ReadyServed := by
  by_cases stale : p.spawnGen = generation
  · subst stale
    unfold markPlanePrerequisite
    rw [if_neg (not_not_intro rfl)]
    intro ready
    have generation := readinessOf_generation (p := p) p.spawnGen
    dsimp only at ready
    split at ready
    next both =>
      obtain ⟨_,authoritative⟩ := (Bool.and_eq_true _ _).mp both
      cases prerequisite <;> exact ⟨_,rfl,generation,authoritative⟩
    · obtain ⟨state,found,same,authoritative⟩ := served ready
      have kept : p.readinessOf p.spawnGen = state := by
        unfold readinessOf
        rw [found]
        exact if_pos same
      cases prerequisite with
      | localPort => exact ⟨_,rfl,generation,by rw [kept]; exact authoritative⟩
      | authoritative => exact ⟨_,rfl,generation,rfl⟩
  · rw [mark_stale stale]
    exact served

theorem ReadyServed.ready (served : p.ReadyServed) (generation : Nat) : (p.markPlaneReady generation).ReadyServed :=
  (served.mark generation .localPort).mark generation .authoritative

/-- Nothing has been met in a new generation. -/
theorem begin_unserved : ¬ p.beginPlaneGeneration.Authoritative := by
  rintro ⟨state,found,_,authoritative⟩
  cases found
  cases authoritative

theorem begin_readyServed : p.beginPlaneGeneration.ReadyServed := nofun

end Plane

end FFWebHid.Planes
