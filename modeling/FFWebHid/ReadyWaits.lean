import Mathlib.Data.List.Perm.Basic
import Mathlib.Data.List.Range
import FFWebHid.Planes
import FFWebHid.Runs

/-!
Who waits in the bridge for the data plane of a key to become ready. A waiter is
settled by the readiness of its generation, by the next generation, or, when its
timer expires, after a fall-back to native messaging, for whose generation it then
waits. All of it goes through one slot for each key.
-/
namespace FFWebHid.ReadyWaits
open FFWebHid.Runs FFWebHid.Planes

inductive Result where
  | ok
  | stale
  | destroyed
  | unavailable
  deriving DecidableEq

/-- An entry of `pendingPlaneReady`, with the waiter whose promise `resolve` settles. -/
structure Slot where
  generation : Nat
  waiter : Nat
  timer : Nat
  deriving DecidableEq

/-- A timer that runs, with what its callback holds. -/
structure Timer where
  id : Nat
  generation : Nat
  waiter : Nat
  deriving DecidableEq

/-- Where the `fallbackToNm` of an expired timer is: while the plane is removed and when
    it was, while the daemon is asked for a generation, while the plane is removed after
    a refusal, and at its end, with what it returns. -/
inductive Stage where
  | despawning
  | retired
  | requesting (generation : Nat)
  | cleaning
  | returned (generation : Option Nat)
  deriving DecidableEq

structure Fallback where
  waiter : Nat
  stage : Stage
  deriving DecidableEq

/-- A promise that was settled in the wait for a generation. -/
structure Settlement where
  waiter : Nat
  generation : Nat
  result : Result
  deriving DecidableEq

/-- What the maps hold at a key, what is under way for it, and a record: the waiters
    by number, the generations that each has waited for, the prerequisites that were met
    and the promises that were settled. `destroyed` is that of the frame. -/
structure State where
  spawnGen : Option Nat := none
  readyGenerations : Option Nat := none
  planeReadiness : Option Readiness := none
  pendingPlaneReady : Option Slot := none
  destroyed : Bool := false
  timers : List Timer := []
  fallbacks : List Fallback := []
  nextTimer : Nat := 0
  waiters : Nat := 0
  waited : List (Nat × Nat) := []
  met : List (Nat × Prerequisite) := []
  settled : List Settlement := []
  deriving DecidableEq

namespace State
variable (s : State)

def settle (waiter generation : Nat) (result : Result) : State :=
  { s with settled := s.settled ++ [⟨waiter,generation,result⟩] }

/-- `clearTimeout(pending.timer)`, the removal of the entry, and `pending.resolve`. -/
def release (slot : Slot) (result : Result) : State :=
  { s with
    timers := s.timers.filter (·.id ≠ slot.timer)
    pendingPlaneReady := none }.settle slot.waiter slot.generation result

def beginPlaneGeneration : State :=
  let generation := s.spawnGen.getD 0 + 1
  let begun := { s with
    spawnGen := some generation
    readyGenerations := none
    planeReadiness := some { generation } }
  match s.pendingPlaneReady with
  | none => begun
  | some slot => if slot.generation ≠ generation then begun.release slot .stale else begun

/-- The readiness of a generation, or a new one where it is of another. -/
def readinessOf (generation : Nat) : Readiness :=
  match s.planeReadiness with
  | some state => if state.generation = generation then state else { generation }
  | none => { generation }

def markPlanePrerequisite (generation : Nat) (prerequisite : Prerequisite) : State :=
  if s.spawnGen ≠ some generation then s
  else
    let state := (s.readinessOf generation).meet prerequisite
    let marked := { s with planeReadiness := some state, met := s.met ++ [(generation,prerequisite)] }
    if !state.localPort || !state.authoritative then marked
    else
      let ready := { marked with readyGenerations := some generation }
      match s.pendingPlaneReady with
      | none => ready
      | some slot => if slot.generation ≠ generation then ready else ready.release slot .ok

/-- Whether a wait for a generation is put into the slot. -/
def registers (generation : Nat) : Bool :=
  !s.destroyed && s.spawnGen = some generation && s.readyGenerations ≠ some generation

/-- `waitForPlaneReady`, whose promise is that of the waiter or settles it. -/
def waitForPlaneReady (waiter generation : Nat) : State :=
  let s := { s with waited := s.waited ++ [(waiter,generation)] }
  if s.destroyed then s.settle waiter generation .destroyed
  else if s.spawnGen ≠ some generation then s.settle waiter generation .stale
  else if s.readyGenerations = some generation then s.settle waiter generation .ok
  else
    { s with
      timers := s.timers ++ [⟨s.nextTimer,generation,waiter⟩]
      nextTimer := s.nextTimer + 1
      pendingPlaneReady := some ⟨generation,waiter,s.nextTimer⟩ }

/-- The fall-back of a waiter reaches a stage. -/
def enter (waiter : Nat) (stage : Stage) : State := { s with fallbacks := s.fallbacks ++ [⟨waiter,stage⟩] }

/-- The callback of the timer, up to where `fallbackToNm` awaits the removal of the
    plane, which begins a generation. -/
def timeout (timer : Timer) : State :=
  match s.pendingPlaneReady with
  | none => s
  | some slot =>
    if slot.generation ≠ timer.generation then s
    else
      let s := { s with pendingPlaneReady := none }
      if s.spawnGen ≠ some timer.generation then s.settle timer.waiter timer.generation .stale
      else s.beginPlaneGeneration.enter timer.waiter .despawning

/-- The end of `despawnDataPlane`, as far as it touches these maps. -/
def despawnEnd : State := { s with planeReadiness := none, readyGenerations := none }

/-- `fallbackToNm` goes on after the plane was removed, with the newest generation. -/
def despawned (waiter : Nat) : State :=
  s.enter waiter (if s.destroyed then .returned none else match s.spawnGen with
    | none => .returned none
    | some generation => .requesting generation)

/-- `fallbackToNm` fails, and removes the plane where it still is of its generation. -/
def fail (waiter generation : Nat) : State :=
  if s.spawnGen = some generation then s.beginPlaneGeneration.enter waiter .cleaning
  else s.enter waiter (.returned none)

/-- The daemon has answered; `wired` says whether there is a port of the page to wire. -/
def answered (waiter generation : Nat) (ok wired : Bool) : State :=
  if !ok then s.fail waiter generation
  else if s.destroyed ∨ s.spawnGen ≠ some generation then s.fail waiter generation
  else
    let s := s.markPlanePrerequisite generation .authoritative
    if !wired then s.fail waiter generation else s.enter waiter (.returned (some generation))

/-- The callback of the timer goes on after `fallbackToNm`. -/
def resumed (waiter : Nat) : Option Nat → State
  | none => s.settle waiter (s.spawnGen.getD 0) .unavailable
  | some generation => s.waitForPlaneReady waiter generation

end State

/-- What happens at a key. Generations are begun and planes removed by others, too. -/
inductive Event where
  | wait (generation : Nat)
  | mark (generation : Nat) (prerequisite : Prerequisite)
  | generationBegun
  | planeRemoved
  | frameDestroyed
  | timeout (k : Nat)
  | removed (k : Nat)
  | despawned (k : Nat)
  | answered (k : Nat) (ok wired : Bool)
  | resumed (k : Nat)
  deriving DecidableEq

/-- A fall-back goes on, if it is where the event finds it. -/
def proceed (s : State) (k : Nat) (next : State → Fallback → Option State) : Option State :=
  (s.fallbacks[k]?).bind fun fallback => next { s with fallbacks := s.fallbacks.eraseIdx k } fallback

def stepAt (s : State) : Event → Option State
  | .wait generation => some ({ s with waiters := s.waiters + 1 }.waitForPlaneReady s.waiters generation)
  | .mark generation prerequisite => some (s.markPlanePrerequisite generation prerequisite)
  | .generationBegun => some s.beginPlaneGeneration
  | .planeRemoved => some s.despawnEnd
  | .frameDestroyed => some { s with destroyed := true }
  | .timeout k => (s.timers[k]?).map fun timer => { s with timers := s.timers.eraseIdx k }.timeout timer
  | .removed k => proceed s k fun s fallback =>
    match fallback.stage with
    | .despawning => some (s.despawnEnd.enter fallback.waiter .retired)
    | .cleaning => some (s.despawnEnd.enter fallback.waiter (.returned none))
    | _ => none
  | .despawned k => proceed s k fun s fallback =>
    if fallback.stage = .retired then some (s.despawned fallback.waiter) else none
  | .answered k ok wired => proceed s k fun s fallback =>
    match fallback.stage with
    | .requesting generation => some (s.answered fallback.waiter generation ok wired)
    | _ => none
  | .resumed k => proceed s k fun s fallback =>
    match fallback.stage with
    | .returned generation => some (s.resumed fallback.waiter generation)
    | _ => none

section Keys
variable {Key : Type} [DecidableEq Key]

/-- The keys have their entries side by side. -/
def step (w : Key → State) (event : Key × Event) : Option (Key → State) :=
  (stepAt (w event.1) event.2).map fun next => Function.update w event.1 next

end Keys

/-- The results that a waiter's promise was settled with. -/
def results (s : State) (waiter : Nat) : List Settlement := s.settled.filter (·.waiter = waiter)

/-- No promise is settled twice, it is settled as ready only for a generation that its
    waiter waited for and that both prerequisites were met for, and whoever is not
    settled has the entry of the key with a timer that runs, or a fall-back under way. -/
structure Sound (s : State) : Prop where
  atMostOnce : ∀ waiter, (results s waiter).length ≤ 1
  ready : ∀ settlement ∈ s.settled, settlement.result = .ok →
    (settlement.waiter,settlement.generation) ∈ s.waited ∧
      (settlement.generation,.localPort) ∈ s.met ∧ (settlement.generation,.authoritative) ∈ s.met
  attended : ∀ waiter < s.waiters, (results s waiter).length = 1 ∨
    (∃ slot, s.pendingPlaneReady = some slot ∧ slot.waiter = waiter ∧
      ⟨slot.timer,slot.generation,waiter⟩ ∈ s.timers) ∨
    ∃ fallback ∈ s.fallbacks, fallback.waiter = waiter

/-- The condition on a step: a wait that is put into the slot finds it empty. -/
def Vacant (s : State) : Event → Prop
  | .wait generation => s.registers generation = true → s.pendingPlaneReady = none
  | .resumed k => ∀ waiter generation, s.fallbacks[k]? = some ⟨waiter,.returned (some generation)⟩ →
    s.registers generation = true → s.pendingPlaneReady = none
  | _ => True

/-! ### Where the waiters are -/

/-- The waiters that are settled, have the slot, or have a fall-back. -/
def places (s : State) : List Nat :=
  s.settled.map (·.waiter) ++ (s.pendingPlaneReady.toList.map (·.waiter) ++ s.fallbacks.map (·.waiter))

/-- The timer of an entry. -/
def Slot.running (slot : Slot) : Timer := ⟨slot.timer,slot.generation,slot.waiter⟩

/-- Both prerequisites of a generation were met. -/
def Met (s : State) (generation : Nat) : Prop :=
  (generation,.localPort) ∈ s.met ∧ (generation,.authoritative) ∈ s.met

/-- Every waiter is in one place, or in hand, the only timer is that of the slot, and
    nothing is taken for ready that is not. -/
structure Inv (s : State) (hand : List Nat) : Prop where
  placed : (places s ++ hand).Perm (List.range s.waiters)
  timers : s.timers = s.pendingPlaneReady.toList.map Slot.running
  current : ∀ slot, s.pendingPlaneReady = some slot → s.spawnGen = some slot.generation
  slot_waited : ∀ slot, s.pendingPlaneReady = some slot → (slot.waiter,slot.generation) ∈ s.waited
  readiness : ∀ r, s.planeReadiness = some r → (r.localPort = true → (r.generation,.localPort) ∈ s.met) ∧
    (r.authoritative = true → (r.generation,.authoritative) ∈ s.met)
  ready : ∀ generation, s.readyGenerations = some generation → Met s generation
  settled_ok : ∀ settlement ∈ s.settled, settlement.result = .ok →
    (settlement.waiter,settlement.generation) ∈ s.waited ∧ Met s settlement.generation

theorem start_inv : Inv {} [] := by
  constructor <;> simp [places]

section Moves
variable {s : State} {hand : List Nat} {waiter : Nat}

/-- A waiter in hand is settled. -/
theorem Inv.settle (inv : Inv s (waiter :: hand)) {generation : Nat} {result : Result}
    (ok : result = .ok → (waiter,generation) ∈ s.waited ∧ Met s generation) :
    Inv (s.settle waiter generation result) hand where
  placed := by
    refine List.Perm.trans ?_ inv.placed
    rw [List.perm_iff_count]
    intro other
    simp [places,State.settle,List.count_cons]
    omega
  timers := inv.timers
  current := inv.current
  slot_waited := inv.slot_waited
  readiness := inv.readiness
  ready := inv.ready
  settled_ok := by
    intro settlement among success
    rcases List.mem_append.mp among with old | new
    · exact inv.settled_ok settlement old success
    · cases List.mem_singleton.mp new
      exact ok success

/-- A waiter in hand gets a fall-back. -/
theorem Inv.enter (inv : Inv s (waiter :: hand)) (stage : Stage) : Inv (s.enter waiter stage) hand := by
  refine { inv with placed := ?_ }
  refine List.Perm.trans ?_ inv.placed
  rw [List.perm_iff_count]
  intro other
  simp [places,State.enter,List.count_cons]

/-- The entry of the slot is taken into hand, and its timer is gone. -/
theorem Inv.vacate (inv : Inv s hand) {slot : Slot} (held : s.pendingPlaneReady = some slot) :
    Inv { s with timers := [], pendingPlaneReady := none } (slot.waiter :: hand) where
  placed := by
    refine List.Perm.trans ?_ inv.placed
    rw [List.perm_iff_count]
    intro other
    simp [places,held,List.count_cons]
    omega
  timers := rfl
  current := fun slot none_ => by cases none_
  slot_waited := fun slot none_ => by cases none_
  readiness := inv.readiness
  ready := inv.ready
  settled_ok := inv.settled_ok

/-- A fall-back is taken into hand. -/
theorem Inv.take (inv : Inv s hand) {k : Nat} {fallback : Fallback} (found : s.fallbacks[k]? = some fallback) :
    Inv { s with fallbacks := s.fallbacks.eraseIdx k } (fallback.waiter :: hand) := by
  refine { inv with placed := ?_ }
  refine List.Perm.trans ?_ inv.placed
  obtain ⟨inside,same⟩ := List.getElem?_eq_some_iff.mp found
  have split := (List.getElem_cons_eraseIdx_perm inside).map (·.waiter)
  rw [same] at split
  rw [List.perm_iff_count] at split ⊢
  intro other
  have here := split other
  simp only [List.map_cons,List.count_cons] at here
  simp only [places,List.count_append,List.count_cons]
  omega

/-- The entry of the slot is released. -/
theorem Inv.release (inv : Inv s hand) {slot : Slot} (held : s.pendingPlaneReady = some slot) {result : Result}
    (ok : result = .ok → Met s slot.generation) : Inv (s.release slot result) hand := by
  have cleared : s.timers.filter (·.id ≠ slot.timer) = [] := by
    rw [inv.timers,held]
    simp [Slot.running]
  have vacant := inv.vacate held
  unfold State.release
  rw [cleared]
  exact vacant.settle fun success => ⟨inv.slot_waited slot held,ok success⟩

/-- Nothing has been met of a generation that begins. -/
theorem Inv.begun (inv : Inv s hand) (vacant : s.pendingPlaneReady = none) (generation : Nat) :
    Inv { s with spawnGen := some generation, readyGenerations := none, planeReadiness := some { generation } } hand where
  placed := inv.placed
  timers := inv.timers
  current := fun slot held => by cases vacant.symm.trans held
  slot_waited := inv.slot_waited
  readiness := by
    intro r same
    cases same
    simp
  ready := fun generation none_ => by cases none_
  settled_ok := inv.settled_ok

/-- A generation that begins finds or leaves no entry. -/
theorem Inv.begin (inv : Inv s hand) :
    Inv s.beginPlaneGeneration hand ∧ s.beginPlaneGeneration.pendingPlaneReady = none := by
  cases held : s.pendingPlaneReady with
  | none =>
    simp only [State.beginPlaneGeneration,held]
    have begun := inv.begun held (s.spawnGen.getD 0 + 1)
    rw [held] at begun
    exact ⟨begun,trivial⟩
  | some slot =>
    have older : slot.generation ≠ s.spawnGen.getD 0 + 1 := by
      rw [inv.current slot held]
      simp
    have stale : Result.stale = .ok → Met s slot.generation := by simp
    have released := (inv.release held stale).begun rfl (s.spawnGen.getD 0 + 1)
    simp only [State.beginPlaneGeneration,held,ne_eq,older,not_false_eq_true,if_true]
    exact ⟨released,rfl⟩

theorem Inv.despawnEnd (inv : Inv s hand) : Inv s.despawnEnd hand :=
  { inv with
    readiness := fun r none_ => by cases none_
    ready := fun generation none_ => by cases none_ }

/-- The readiness of a generation claims nothing of it that was not met. -/
theorem Inv.readinessOf (inv : Inv s hand) (generation : Nat) :
    (s.readinessOf generation).generation = generation ∧
      ((s.readinessOf generation).localPort = true → (generation,.localPort) ∈ s.met) ∧
      ((s.readinessOf generation).authoritative = true → (generation,.authoritative) ∈ s.met) := by
  unfold State.readinessOf
  split
  · rename_i state found
    split_ifs with same
    · obtain ⟨localPort,authoritative⟩ := inv.readiness state found
      rw [same] at localPort authoritative
      exact ⟨same,localPort,authoritative⟩
    · simp
  · simp

/-- A prerequisite is met, and what was met stays met. -/
theorem Inv.meet (inv : Inv s hand) (generation : Nat) (prerequisite : Prerequisite) :
    Inv { s with
      planeReadiness := some ((s.readinessOf generation).meet prerequisite)
      met := s.met ++ [(generation,prerequisite)] } hand := by
  have still {g : Nat} (met : Met s g) : Met { s with
      planeReadiness := some ((s.readinessOf generation).meet prerequisite)
      met := s.met ++ [(generation,prerequisite)] } g := ⟨List.mem_append_left _ met.1,List.mem_append_left _ met.2⟩
  refine { inv with readiness := ?_, ready := ?_, settled_ok := ?_ }
  · intro r same
    cases same
    obtain ⟨name,localPort,authoritative⟩ := inv.readinessOf generation
    cases prerequisite with
    | localPort =>
      simp only [Readiness.meet,name]
      exact ⟨fun _ => List.mem_append_right _ List.mem_cons_self,fun met => List.mem_append_left _ (authoritative met)⟩
    | authoritative =>
      simp only [Readiness.meet,name]
      exact ⟨fun met => List.mem_append_left _ (localPort met),fun _ => List.mem_append_right _ List.mem_cons_self⟩
  · exact fun g same => still (inv.ready g same)
  · exact fun settlement among success => (inv.settled_ok settlement among success).imp_right still

theorem Inv.mark (inv : Inv s hand) (generation : Nat) (prerequisite : Prerequisite) :
    Inv (s.markPlanePrerequisite generation prerequisite) hand := by
  have marked := inv.meet generation prerequisite
  by_cases other : s.spawnGen = some generation
  swap
  · simpa only [State.markPlanePrerequisite,ne_eq,other,not_false_eq_true,if_true] using inv
  by_cases unmet : (!((s.readinessOf generation).meet prerequisite).localPort ||
      !((s.readinessOf generation).meet prerequisite).authoritative) = true
  · simpa only [State.markPlanePrerequisite,ne_eq,other,not_true_eq_false,if_false,unmet,if_true] using marked
  have name : ((s.readinessOf generation).meet prerequisite).generation = generation := by
    cases prerequisite <;> exact (inv.readinessOf generation).1
  have both : Met { s with
      planeReadiness := some ((s.readinessOf generation).meet prerequisite)
      met := s.met ++ [(generation,prerequisite)] } generation := by
    obtain ⟨localPort,authoritative⟩ := marked.readiness _ rfl
    rw [name] at localPort authoritative
    simp only [Bool.or_eq_true,Bool.not_eq_true',not_or,Bool.not_eq_false] at unmet
    exact ⟨localPort unmet.1,authoritative unmet.2⟩
  have ready : Inv { s with
      planeReadiness := some ((s.readinessOf generation).meet prerequisite)
      met := s.met ++ [(generation,prerequisite)]
      readyGenerations := some generation } hand := by
    refine { marked with ready := ?_ }
    rintro g ⟨⟩
    exact both
  unfold State.markPlanePrerequisite
  rw [if_neg (not_not.mpr other),if_neg unmet]
  split
  · exact ready
  · rename_i slot held
    split_ifs with differs
    · exact ready
    · have same : slot.generation = generation := not_not.mp differs
      exact ready.release held fun _ => same ▸ both

/-- A waiter in hand waits for a generation, if the slot is empty where it needs it. -/
theorem Inv.wait (inv : Inv s (waiter :: hand)) {generation : Nat}
    (vacant : s.registers generation = true → s.pendingPlaneReady = none) :
    Inv (s.waitForPlaneReady waiter generation) hand := by
  have told : Inv { s with waited := s.waited ++ [(waiter,generation)] } (waiter :: hand) := by
    refine { inv with slot_waited := ?_, settled_ok := ?_ }
    · exact fun slot held => List.mem_append_left _ (inv.slot_waited slot held)
    · exact fun settlement among success => (inv.settled_ok settlement among success).imp_left (List.mem_append_left _)
  unfold State.waitForPlaneReady
  dsimp only
  split_ifs with gone other ready
  · exact told.settle fun same => by cases same
  · exact told.settle fun same => by cases same
  · exact told.settle fun _ => ⟨List.mem_append_right _ List.mem_cons_self,told.ready generation ready⟩
  · have current : s.spawnGen = some generation := not_not.mp other
    have free : ¬ s.destroyed = true ∧ ¬ s.readyGenerations = some generation := ⟨gone,ready⟩
    have empty : s.pendingPlaneReady = none := by
      apply vacant
      simp [State.registers,free,current]
    have idle : s.timers = [] := by
      rw [inv.timers,empty]
      rfl
    constructor
    case placed =>
      refine List.Perm.trans ?_ told.placed
      rw [List.perm_iff_count]
      intro other
      simp [places,empty,List.count_cons]
      omega
    case timers => simp [idle,Slot.running]
    case current =>
      rintro slot ⟨⟩
      exact current
    case slot_waited =>
      rintro slot ⟨⟩
      exact List.mem_append_right _ List.mem_cons_self
    case readiness => exact told.readiness
    case ready => exact told.ready
    case settled_ok => exact told.settled_ok

/-- The timer that fires is the one of the entry. -/
theorem Inv.timeout (inv : Inv s hand) {k : Nat} {timer : Timer} (found : s.timers[k]? = some timer) :
    Inv ({ s with timers := s.timers.eraseIdx k }.timeout timer) hand := by
  cases held : s.pendingPlaneReady with
  | none =>
    rw [inv.timers,held] at found
    cases found
  | some slot =>
    have only : s.timers = [slot.running] := by
      rw [inv.timers,held]
      rfl
    have first : k = 0 ∧ slot.running = timer := by
      rw [only] at found
      cases k with
      | zero => exact ⟨rfl,Option.some.inj found⟩
      | succ _ => cases found
    obtain ⟨rfl,rfl⟩ := first
    have vacant := inv.vacate held
    simp only [State.timeout,only,Slot.running,List.eraseIdx_cons_zero,ne_eq,not_true_eq_false,if_false]
    split_ifs with current
    · exact vacant.begin.1.enter .despawning
    · exact vacant.settle fun same => by cases same

theorem Inv.fail (inv : Inv s (waiter :: hand)) (generation : Nat) : Inv (s.fail waiter generation) hand := by
  unfold State.fail
  split_ifs
  · exact inv.begin.1.enter .cleaning
  · exact inv.enter (.returned none)

theorem Inv.answered (inv : Inv s (waiter :: hand)) (generation : Nat) (ok wired : Bool) :
    Inv (s.answered waiter generation ok wired) hand := by
  have marked := inv.mark generation .authoritative
  unfold State.answered
  dsimp only
  split_ifs
  · exact inv.fail generation
  · exact inv.fail generation
  · exact marked.fail generation
  · exact marked.enter (.returned (some generation))

theorem Inv.resumed (inv : Inv s (waiter :: hand)) {generation : Option Nat}
    (vacant : ∀ g, generation = some g → s.registers g = true → s.pendingPlaneReady = none) :
    Inv (s.resumed waiter generation) hand := by
  cases generation with
  | none => exact inv.settle fun same => by cases same
  | some g => exact inv.wait (vacant g rfl)

/-- A waiter arrives. -/
theorem Inv.arrive (inv : Inv s []) : Inv { s with waiters := s.waiters + 1 } [s.waiters] := by
  refine { inv with placed := ?_ }
  have placed := inv.placed
  rw [List.append_nil] at placed
  rw [List.range_succ]
  exact placed.append_right [s.waiters]

end Moves

theorem proceed_found {s next : State} {k : Nat} {go : State → Fallback → Option State}
    (taken : proceed s k go = some next) : ∃ fallback, s.fallbacks[k]? = some fallback ∧
      go { s with fallbacks := s.fallbacks.eraseIdx k } fallback = some next :=
  Option.bind_eq_some_iff.mp taken

/-- A step keeps the places where its wait finds the slot empty. -/
theorem Inv.step {s next : State} (inv : Inv s []) {event : Event} (taken : stepAt s event = some next)
    (vacant : Vacant s event) : Inv next [] := by
  cases event with
  | wait generation =>
    cases taken
    exact inv.arrive.wait vacant
  | mark generation prerequisite =>
    cases taken
    exact inv.mark generation prerequisite
  | generationBegun =>
    cases taken
    exact inv.begin.1
  | planeRemoved =>
    cases taken
    exact inv.despawnEnd
  | frameDestroyed =>
    cases taken
    exact { inv with }
  | timeout k =>
    obtain ⟨timer,found,rfl⟩ := Option.map_eq_some_iff.mp taken
    exact inv.timeout found
  | removed k =>
    rw [stepAt] at taken
    obtain ⟨fallback,found,went⟩ := proceed_found taken
    have removed := (inv.take found).despawnEnd
    split at went
    · cases went
      exact removed.enter .retired
    · cases went
      exact removed.enter (.returned none)
    · cases went
  | despawned k =>
    rw [stepAt] at taken
    obtain ⟨fallback,found,went⟩ := proceed_found taken
    split_ifs at went
    cases went
    exact (inv.take found).enter _
  | answered k ok wired =>
    rw [stepAt] at taken
    obtain ⟨fallback,found,went⟩ := proceed_found taken
    split at went
    · cases went
      exact (inv.take found).answered _ ok wired
    · cases went
  | resumed k =>
    rw [stepAt] at taken
    obtain ⟨⟨waiter,stage⟩,found,went⟩ := proceed_found taken
    split at went
    · rename_i generation returned
      cases went
      refine (inv.take found).resumed fun g same registers => vacant waiter g ?_ registers
      rw [found,← same]
      exact congrArg _ (congrArg _ returned)
    · cases went

section States
variable {s : State} {hand : List Nat} {waiter : Nat}

theorem results_length (s : State) (waiter : Nat) :
    (results s waiter).length = (s.settled.map (·.waiter)).count waiter := by
  rw [List.count_eq_length_filter,List.filter_map,List.length_map]
  simp [results,Function.comp_def,beq_eq_decide]

/-- Each waiter that has come is in exactly one place. -/
theorem Inv.once (inv : Inv s hand) (known : waiter < s.waiters) :
    (s.settled.map (·.waiter)).count waiter + (s.pendingPlaneReady.toList.map (·.waiter)).count waiter +
      (s.fallbacks.map (·.waiter)).count waiter + hand.count waiter = 1 := by
  have counts := inv.placed.count_eq waiter
  rw [List.count_eq_one_of_mem List.nodup_range (List.mem_range.mpr known)] at counts
  simp only [places,List.count_append] at counts
  omega

theorem Inv.stranger (inv : Inv s hand) (unknown : s.waiters ≤ waiter) :
    (s.settled.map (·.waiter)).count waiter = 0 := by
  have counts := inv.placed.count_eq waiter
  rw [List.count_eq_zero_of_not_mem (fun known => absurd (List.mem_range.mp known) (Nat.not_lt.mpr unknown))] at counts
  simp only [places,List.count_append] at counts
  omega

/-- When nothing is under way any more, everyone is settled exactly once. -/
theorem Sound.once (sound : Sound s) (timers : s.timers = []) (fallbacks : s.fallbacks = [])
    (known : waiter < s.waiters) : (results s waiter).length = 1 := by
  rcases sound.attended waiter known with settled | ⟨slot,_,_,running⟩ | ⟨fallback,among,_⟩
  · exact settled
  · rw [timers] at running
    cases running
  · rw [fallbacks] at among
    cases among

theorem Inv.sound (inv : Inv s []) : Sound s where
  atMostOnce := by
    intro waiter
    rw [results_length]
    rcases Nat.lt_or_ge waiter s.waiters with known | unknown
    · have once := inv.once known
      omega
    · rw [inv.stranger unknown]
      exact Nat.zero_le 1
  ready := inv.settled_ok
  attended := by
    intro waiter known
    have once := inv.once known
    rw [results_length]
    by_cases settled : (s.settled.map (·.waiter)).count waiter = 1
    · exact .inl settled
    right
    by_cases falls : waiter ∈ s.fallbacks.map (·.waiter)
    · exact .inr (List.mem_map.mp falls)
    left
    rw [List.count_eq_zero_of_not_mem falls,List.count_nil] at once
    have held : waiter ∈ s.pendingPlaneReady.toList.map (·.waiter) := by
      apply List.count_pos_iff.mp
      omega
    obtain ⟨slot,among,same⟩ := List.mem_map.mp held
    have found := Option.mem_toList.mp among
    refine ⟨slot,found,same,?_⟩
    rw [inv.timers,← same]
    exact List.mem_map.mpr ⟨slot,among,rfl⟩

/-- The waiter whose entry is replaced is in no place. -/
theorem Inv.replaced (inv : Inv s (waiter :: hand)) {generation : Nat} (registers : s.registers generation = true)
    (sound : Sound (s.waitForPlaneReady waiter generation)) : s.pendingPlaneReady = none := by
  cases held : s.pendingPlaneReady with
  | none => rfl
  | some slot =>
    have entered : s.waitForPlaneReady waiter generation = { s with
        waited := s.waited ++ [(waiter,generation)]
        timers := s.timers ++ [⟨s.nextTimer,generation,waiter⟩]
        nextTimer := s.nextTimer + 1
        pendingPlaneReady := some ⟨generation,waiter,s.nextTimer⟩ } := by
      simp only [State.registers,Bool.and_eq_true,Bool.not_eq_true',decide_eq_true_eq] at registers
      simp [State.waitForPlaneReady,registers]
    rw [entered] at sound
    have known : slot.waiter < s.waiters := by
      apply List.mem_range.mp
      apply inv.placed.subset
      simp [places,held]
    have once := inv.once known
    rw [held,List.count_cons] at once
    simp only [Option.toList_some,List.map_cons,List.map_nil,List.count_singleton_self] at once
    rcases sound.attended slot.waiter known with settled | ⟨entry,found,same,_⟩ | ⟨fallback,among,same⟩
    · rw [results_length] at settled
      have earlier : (s.settled.map (·.waiter)).count slot.waiter = 1 := settled
      omega
    · cases found
      have twice : (waiter == slot.waiter) = true := beq_iff_eq.mpr same
      rw [if_pos twice] at once
      omega
    · have falls : 0 < (s.fallbacks.map (·.waiter)).count slot.waiter :=
        List.count_pos_iff.mpr (List.mem_map.mpr ⟨fallback,among,same⟩)
      omega

/-- A state that a step leaves sound was one where its wait found the slot empty. -/
theorem Inv.vacant {next : State} (inv : Inv s []) {event : Event} (taken : stepAt s event = some next)
    (sound : Sound next) : Vacant s event := by
  cases event with
  | wait generation =>
    cases taken
    intro registers
    exact inv.arrive.replaced registers sound
  | resumed k =>
    intro waiter generation found registers
    rw [stepAt] at taken
    obtain ⟨fallback,same,went⟩ := proceed_found taken
    cases found.symm.trans same
    cases went
    exact (inv.take found).replaced registers sound
  | _ => trivial

end States

section Runs
variable {Key : Type} [DecidableEq Key] {w w' : Key → State}

theorem step_at {event : Key × Event} (taken : step w event = some w') :
    stepAt (w event.1) event.2 = some (w' event.1) ∧ ∀ key, key ≠ event.1 → w' key = w key := by
  obtain ⟨next,went,rfl⟩ := Option.map_eq_some_iff.mp taken
  rw [Function.update_self]
  exact ⟨went,fun key other => Function.update_of_ne other next w⟩

theorem step_inv {event : Key × Event} (inv : ∀ key, Inv (w key) []) (taken : step w event = some w')
    (vacant : Vacant (w event.1) event.2) (key : Key) : Inv (w' key) [] := by
  obtain ⟨went,others⟩ := step_at taken
  by_cases here : key = event.1
  · rw [here]
    exact (inv event.1).step went vacant
  · rw [others key here]
    exact inv key

/-- In every state that a run reaches all waits are settled as asked, or attended,
    exactly if no wait is put into a slot that is taken. -/
theorem waits_settled_iff (trace : List (Key × Event)) :
    AllSteps step (fun _ _ w' => ∀ key, Sound (w' key)) (fun _ => {}) trace ↔
      AllSteps step (fun w event _ => Vacant (w event.1) event.2) (fun _ => {}) trace := by
  let Held (w : Key → State) : Prop := ∀ key, Inv (w key) []
  have start : Held fun _ => {} := fun _ => start_inv
  have found (w : Key → State) (event : Key × Event) (w' : Key → State) (inv : Held w)
      (taken : step w event = some w') (sound : ∀ key, Sound (w' key)) : Vacant (w event.1) event.2 :=
    (inv event.1).vacant (step_at taken).1 (sound event.1)
  constructor
  · refine allSteps_under ?_ found start
    exact fun w event w' inv taken sound => step_inv inv taken (found w event w' inv taken sound)
  · refine allSteps_under ?_ ?_ start
    · exact fun w event w' inv taken vacant => step_inv inv taken vacant
    · exact fun w event w' inv taken vacant key => (step_inv inv taken vacant key).sound

end Runs

/-- Two waits for one generation: the plane gets ready, the timers have fired, and the
    first waiter has no result and nothing that could give it one. -/
theorem first_waiter_forgotten : ∃ w : Unit → State,
    exec step (fun _ => {}) ([.generationBegun,.wait 1,.wait 1,.mark 1 .localPort,.mark 1 .authoritative,.timeout 0].map
      (Prod.mk ())) = some w ∧ (w ()).waiters = 2 ∧ results (w ()) 0 = [] ∧ results (w ()) 1 = [⟨1,1,.ok⟩] ∧
      (w ()).pendingPlaneReady = none ∧ (w ()).timers = [] ∧ (w ()).fallbacks = [] ∧ ¬ Sound (w ()) := by
  refine ⟨_,rfl,by decide,by decide,by decide,by decide,by decide,by decide,?_⟩
  intro sound
  rcases sound.attended 0 (by decide) with settled | ⟨slot,held,_⟩ | ⟨fallback,among,_⟩
  · exact absurd settled (by decide)
  · cases held
  · cases among

end FFWebHid.ReadyWaits
