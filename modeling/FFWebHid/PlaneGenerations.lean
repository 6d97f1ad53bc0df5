import FFWebHid.Runs
import FFWebHid.Lifecycle
import FFWebHid.Planes
import Mathlib.Tactic.SplitIfs

/-!
Everything that runs in the bridge for the data plane of one client and device. A plane is
set up, retired and recovered by functions that wait for the page, the daemon or a timer,
and share maps that hold one entry whatever its generation. A function is followed from one
`await` to the next; what it waits for may come at any time, in any order.

The frame stays, and what the settings say is the choice of whoever starts a plane. Other
planes are seen only in that a request for them may take any time.
-/
namespace FFWebHid.PlaneGenerations
open FFWebHid.Runs FFWebHid.Lifecycle FFWebHid.Planes

/-- What the bridge tells the page about a generation. -/
inductive Post where
  | dataPlaneReady (generation : Nat)
  | dataPlaneUnavailable (generation : Nat)
  | dataPlaneConnect (generation : Nat)
  | dataPlaneDisconnect (generation : Nat)
  | wireWorkerPort (generation : Nat)
  | terminate (generation : Nat)
  deriving DecidableEq, Repr

def Post.generation : Post → Nat
  | .dataPlaneReady g => g
  | .dataPlaneUnavailable g => g
  | .dataPlaneConnect g => g
  | .dataPlaneDisconnect g => g
  | .wireWorkerPort g => g
  | .terminate g => g

/-- The plane that the settings ask for. -/
inductive Start where
  | nm
  | worker (kind : TransportKind)
  | inPage
  deriving DecidableEq, Repr

/-- Who goes on when a plane was set up: an open, a `waitForPlaneReady`, or nobody. -/
inductive Caller where
  | opening
  | waiting
  | live
  deriving DecidableEq, Repr

/-- What follows a `despawnDataPlane`. -/
inductive Next where
  | done
  | fallback (rewire : Bool) (caller : Caller)
  | recover (start : Start)
  | rejected (caller : Caller)
  | switch
  | switchRejected
  deriving DecidableEq, Repr

/-- A function at an `await`. `own`, a ghost except where the code has it, is the
    generation that it was started for, or that it has begun itself. -/
inductive Task where
  | despawning (own : Nat) (keepPort : Bool) (next : Next)
  | spawningWorker (own : Nat) (kind : TransportKind) (rewire : Bool) (caller : Caller)
  | hashing (own : Nat) (rewire : Bool) (caller : Caller)
  | inPage (own : Nat) (rewire : Bool) (caller : Caller)
  | fallback (own generation : Nat) (rewire : Bool) (caller : Caller)
  | switching (own : Nat)
  deriving DecidableEq, Repr

def Task.own : Task → Nat
  | .despawning own _ _ => own
  | .spawningWorker own _ _ _ => own
  | .hashing own _ _ => own
  | .inPage own _ _ => own
  | .fallback own _ _ _ => own
  | .switching own => own

/-- The maps of the plane, with the ports that the page has sent by generation, the
    generation that a `waitForPlaneReady` waits for, and what is under way. -/
structure World where
  plane : Plane := {}
  dataPorts : List Nat := []
  pendingPlaneReady : Option Nat := none
  tasks : List Task := []
  posts : List Post := []
  deriving DecidableEq, Repr

namespace World
variable (w : World)

def post (p : Post) : World := { w with posts := w.posts ++ [p] }

def start (t : Task) : World := { w with tasks := w.tasks ++ [t] }

def record (plane : Plane) : World := { w with plane := plane }

/-- The page is given the port of the generation where its port is to be wired again. -/
def wire (rewire : Bool) (generation : Nat) : World :=
  if rewire then w.post (.wireWorkerPort generation) else w

/-- A waiting `waitForPlaneReady` is told that its generation is stale. -/
def beginPlaneGeneration : World := { w with plane := w.plane.beginPlaneGeneration, pendingPlaneReady := none }

def markPlanePrerequisite (generation : Nat) (prerequisite : Prerequisite) : World :=
  let marked := { w with plane := w.plane.markPlanePrerequisite generation prerequisite }
  let state := (w.plane.readinessOf generation).meet prerequisite
  if w.plane.spawnGen = generation ∧ state.localPort ∧ state.authoritative then
    { marked with
      posts := if w.plane.readyGenerations = some generation then w.posts else w.posts ++ [.dataPlaneReady generation]
      pendingPlaneReady := w.pendingPlaneReady.filter (· != generation) }
  else marked

def markPlaneReady (generation : Nat) : World :=
  (w.markPlanePrerequisite generation .localPort).markPlanePrerequisite generation .authoritative

def waitForPlaneReady (generation : Nat) : World :=
  if w.plane.spawnGen = generation ∧ w.plane.readyGenerations ≠ some generation then
    { w with pendingPlaneReady := some generation }
  else w

/-- `despawnDataPlane` up to where it waits for the page to end a worker. -/
def despawnHead (notifyUnavailable : Bool) : World :=
  let current := w.plane.spawnGen
  { w with
    plane := w.plane.despawnStart
    pendingPlaneReady := none
    posts := w.posts ++
      (if notifyUnavailable && current != 0 then [.dataPlaneUnavailable current] else []) ++
      (if w.plane.inPageDevices then [.dataPlaneDisconnect current] else []) ++
      w.plane.workerGeneration.toList.map Post.terminate }

/-- A `spawnInPageDataPlane` of the plane is told that it has failed: its
    `spawnDataPlane` falls back to NM if its generation is still the newest. -/
def failInPage : Task → Option Task
  | .inPage own rewire caller => if w.plane.spawnGen = own then some (.fallback own own rewire caller) else none
  | t => some t

/-- The rest of `despawnDataPlane`. -/
def despawnTail (keepPort : Bool) : World :=
  { w with
    plane := w.plane.despawnEnd
    dataPorts := if keepPort then w.dataPorts else []
    tasks := w.tasks.filterMap w.failInPage }

/-- A `despawnDataPlane` that nothing follows. -/
def despawnDone (notifyUnavailable : Bool) : World :=
  let head := w.despawnHead notifyUnavailable
  if w.plane.workerGeneration.isSome then head.start (.despawning head.plane.spawnGen false .done)
  else head.despawnTail false

/-- The caller is told that there is no plane. An open then removes what there is. -/
def returnNull : Caller → World
  | .opening => w.despawnDone false
  | .waiting => w
  | .live => w

/-- `fallbackToNm` from where the generation is read up to the daemon's answer. -/
def requestFallback (own : Nat) (rewire : Bool) (caller : Caller) : World :=
  w.start (.fallback own w.plane.spawnGen rewire caller)

/-- `spawnDataPlane` up to where it waits. -/
def spawnDataPlane (s : Start) (rewire : Bool) (caller : Caller) : World :=
  let begun := w.beginPlaneGeneration
  let own := begun.plane.spawnGen
  match s with
  | .inPage => begun.start (.hashing own rewire caller)
  | .worker kind =>
    { begun with
      plane := begun.plane.dropWorker
      posts := w.posts ++ begun.plane.workerGeneration.toList.map Post.terminate }.start
      (.spawningWorker own kind rewire caller)
  | .nm => begun

/-- A `spawnDataPlane` whose transport was not started. -/
def spawnFailed (own : Nat) (rewire : Bool) (caller : Caller) : World :=
  if w.plane.spawnGen = own then w.requestFallback own rewire caller else w

/-- What follows a `despawnDataPlane` that has begun the generation `own`. -/
def follow (own : Nat) : Next → World
  | .done => w
  | .fallback rewire caller => w.requestFallback own rewire caller
  | .recover .nm => w.requestFallback own true .live
  | .recover s => w.spawnDataPlane s true .live
  | .rejected caller => (w.post (.dataPlaneUnavailable w.plane.spawnGen)).returnNull caller
  | .switch => w.start (.switching own)
  | .switchRejected => w.post (.dataPlaneUnavailable w.plane.spawnGen)

/-- `despawnDataPlane` and what follows it. -/
def despawnDataPlane (notifyUnavailable keepPort : Bool) (next : Next) : World :=
  let head := w.despawnHead notifyUnavailable
  let own := head.plane.spawnGen
  if w.plane.workerGeneration.isSome then head.start (.despawning own keepPort next)
  else (head.despawnTail keepPort).follow own next

/-- The end of `spawnWorker` and of the `spawnDataPlane` that called it. -/
def workerSpawned (own : Nat) (kind : TransportKind) (rewire : Bool) (caller : Caller) (ok : Bool) : World :=
  if !ok then w.spawnFailed own rewire caller
  else if w.plane.spawnGen ≠ own then w.post (.terminate own)
  else (w.record (w.plane.addWorker own kind)).wire rewire own

/-- `spawnInPageDataPlane` after the hash was computed. -/
def hashed (own : Nat) (rewire : Bool) (caller : Caller) (ok : Bool) : World :=
  if ok then
    ((w.record { w.plane with inPageDevices := true }).post (.dataPlaneConnect own)).start (.inPage own rewire caller)
  else w.spawnFailed own rewire caller

/-- `handlePlaneResponse`. -/
def inPageAnswered (own : Nat) (rewire : Bool) (caller : Caller) (ok : Bool) : World :=
  if ok then w.markPlaneReady own else w.spawnFailed own rewire caller

/-- The timer of `spawnInPageDataPlane`. -/
def inPageTimeout (own : Nat) (rewire : Bool) (caller : Caller) : World :=
  (w.record { w.plane with inPageDevices := false }).spawnFailed own rewire caller

/-- The daemon has answered `fallbackToNm`. -/
def fallbackAnswered (generation : Nat) (rewire : Bool) (caller : Caller) (ok : Bool) : World :=
  if w.plane.spawnGen ≠ generation then w.returnNull caller
  else if !ok then w.despawnDataPlane false false (.rejected caller)
  else
    let added := w.record { w.plane with nmPlanes := true, deviceTransports := none }
    let wired := (added.markPlanePrerequisite generation .authoritative).wire rewire generation
    match caller with
    | .waiting => wired.waitForPlaneReady generation
    | _ => wired

/-- The daemon has answered `applyDataPlane`. -/
def switchAnswered (ok : Bool) : World :=
  if ok then
    let added := w.record { w.plane with nmPlanes := true }
    (added.markPlanePrerequisite w.plane.spawnGen .authoritative).wire true w.plane.spawnGen
  else w.despawnDataPlane false false .switchRejected

/-- The timer of `waitForPlaneReady`. -/
def readyTimeout (generation : Nat) : World :=
  let w := { w with pendingPlaneReady := none }
  if w.plane.spawnGen = generation then w.despawnDataPlane true false (.fallback true .waiting) else w

/-- `handleDataPortRequest` once the client and its grant were looked up. -/
def handleDataPortRequest (generation : Nat) : World :=
  if w.plane.spawnGen ≠ generation then w
  else if w.plane.workers = some generation then w.record { w.plane with connectParams := none }
  else { w with dataPorts := w.dataPorts ++ [generation] }.markPlanePrerequisite generation .localPort

/-- `handleWorkerErrorEvent` and `recoverDataPlane`, for a client with a session or without. -/
def handleWorkerErrorEvent (generation : Nat) (session : Bool) (s : Start) : World :=
  if w.plane.spawnGen ≠ generation then w
  else if session then w.despawnDataPlane true false (.recover s)
  else w.despawnDone false

/-- `handleDataPlaneEvent`. -/
def handleDataPlaneEvent (generation : Nat) (session : Bool) (s : Start) : World :=
  if w.plane.spawnGen ≠ generation then w
  else (w.record { w.plane with inPageDevices := false }).handleWorkerErrorEvent generation session s

/-- The part of `handleOpenSuccess` that sets up the plane. -/
def openPlane (s : Start) : World :=
  if s = .nm ∨ w.plane.nmPlanes then
    let begun := w.beginPlaneGeneration
    (begun.record { begun.plane with nmPlanes := true }).markPlanePrerequisite begun.plane.spawnGen .authoritative
  else w.spawnDataPlane s false .opening

end World

inductive Action where
  | opened (s : Start)
  | despawn
  | switch (nm : Bool)
  | respawn (s : Start)
  | awaitReady (generation : Nat)
  | despawned (k : Nat)
  | workerSpawned (k : Nat) (ok : Bool)
  | hashed (k : Nat) (ok : Bool)
  | inPageAnswered (k : Nat) (ok : Bool)
  | inPageTimeout (k : Nat)
  | fallbackAnswered (k : Nat) (ok : Bool)
  | switchAnswered (k : Nat) (ok : Bool)
  | readyTimeout
  | dataPort (generation : Nat)
  | workerReady (generation : Nat)
  | workerError (generation : Nat) (session : Bool) (s : Start)
  | planeEvent (generation : Nat) (session : Bool) (s : Start)
  deriving DecidableEq, Repr

/-- What a task does when what it waits for comes. -/
def resume (w : World) : Task → Action → Option World
  | .despawning own keepPort next,.despawned _ => some ((w.despawnTail keepPort).follow own next)
  | .spawningWorker own kind rewire caller,.workerSpawned _ ok => some (w.workerSpawned own kind rewire caller ok)
  | .hashing own rewire caller,.hashed _ ok => some (w.hashed own rewire caller ok)
  | .inPage own rewire caller,.inPageAnswered _ ok => some (w.inPageAnswered own rewire caller ok)
  | .inPage own rewire caller,.inPageTimeout _ => some (w.inPageTimeout own rewire caller)
  | .fallback _ generation rewire caller,.fallbackAnswered _ ok =>
    some (w.fallbackAnswered generation rewire caller ok)
  | .switching _,.switchAnswered _ ok => some (w.switchAnswered ok)
  | _,_ => none

/-- The task that the action lets go on. -/
def resumed (w : World) : Action → Option (Nat × Task)
  | .despawned k | .workerSpawned k _ | .hashed k _ | .inPageAnswered k _ | .inPageTimeout k | .fallbackAnswered k _
  | .switchAnswered k _ => (w.tasks[k]?).map fun t => (k,t)
  | _ => none

/-- `none` when the action cannot happen in the state. A `despawn` is that of a close, a
    reset or a lost device, which end whatever plane there is, and a `respawn` starts a
    plane for the session that there is. -/
def step (w : World) (a : Action) : Option World :=
  match a with
  | .opened s => some (w.openPlane s)
  | .despawn => some (w.despawnDone false)
  | .switch nm => some (w.despawnDataPlane true true (if nm then .switch else .done))
  | .respawn s => if s = .nm then none else some (w.spawnDataPlane s true .live)
  | .awaitReady generation => some (w.waitForPlaneReady generation)
  | .readyTimeout => w.pendingPlaneReady.map w.readyTimeout
  | .dataPort generation => some (w.handleDataPortRequest generation)
  | .workerReady generation => some (w.markPlaneReady generation)
  | .workerError generation session s => some (w.handleWorkerErrorEvent generation session s)
  | .planeEvent generation session s => some (w.handleDataPlaneEvent generation session s)
  | a => (resumed w a).bind fun (k,t) => resume { w with tasks := w.tasks.eraseIdx k } t a

def init : World := {}

/-! ### Own generations -/

/-- The generation that the step was started for. -/
def actor (w : World) : Action → Option Nat
  | .readyTimeout => w.pendingPlaneReady
  | .dataPort generation => some generation
  | .workerReady generation => some generation
  | .workerError generation _ _ => some generation
  | .planeEvent generation _ _ => some generation
  | a => (resumed w a).map fun entry => entry.2.own

/-- The page was told nothing but what satisfies `P`. -/
def Told (P : Post → Prop) (w w' : World) : Prop := ∃ posted, w'.posts = w.posts ++ posted ∧ ∀ p ∈ posted, P p

/-- What a step for the generation `own` may do. It makes no other generation ready, adds
    the plane to the NM planes only while its own is the newest, and posts worker ports of
    its own only. When a newer generation has begun, everything recorded stays as it is,
    the tasks of the newer one and who waits for it go on, and nothing is posted about it. -/
structure Keeps (own : Nat) (w w' : World) : Prop where
  ready : ∀ g, w'.plane.readyGenerations = some g → g = own ∨ w.plane.readyGenerations = some g
  nm : w'.plane.nmPlanes = true → w.plane.nmPlanes = true ∨ w.plane.spawnGen = own
  ports : Told (fun p => ∀ g, p = .wireWorkerPort g → g = own) w w'
  stale : w.plane.spawnGen ≠ own → w'.plane = w.plane ∧ w'.dataPorts = w.dataPorts ∧
    (w.pendingPlaneReady = some w.plane.spawnGen → w'.pendingPlaneReady = w.pendingPlaneReady) ∧
    (∀ t ∈ w.tasks, t.own = w.plane.spawnGen → t ∈ w'.tasks) ∧ Told (fun p => p.generation ≠ w.plane.spawnGen) w w'

def OwnGeneration (w : World) (a : Action) (w' : World) : Prop := ∀ own, actor w a = some own → Keeps own w w'

/-- Nothing is recorded that the end of a `despawnDataPlane` would remove. -/
def cleared (w : World) (keepPort : Bool) : Bool :=
  w.plane.connectParams.isNone && w.plane.deviceTransports.isNone && !w.plane.nmPlanes &&
    w.plane.planeReadiness.isNone && w.plane.readyGenerations.isNone && (keepPort || w.dataPorts.isEmpty) &&
    w.tasks.all fun t =>
      match t with
      | .inPage own _ _ => own != w.plane.spawnGen
      | _ => true

/-- What follows a `despawnDataPlane` only asks the daemon. -/
def Next.asks : Next → Bool
  | .done => true
  | .fallback _ _ => true
  | .recover s => s == .nm
  | .rejected _ => false
  | .switch => true
  | .switchRejected => false

/-- The continuations that have no check of their generation find it the newest, or have
    nothing to change: the end of `despawnDataPlane` and what follows, both ends of
    `spawnInPageDataPlane`, and the answers to `fallbackToNm` and `applyDataPlane`. -/
def onTime (w : World) : Task → Action → Bool
  | .despawning own keepPort next,.despawned _ => w.plane.spawnGen == own || cleared w keepPort && next.asks
  | .hashing own _ _,.hashed _ ok => !ok || w.plane.spawnGen == own || w.plane.inPageDevices
  | .inPage own _ _,.inPageTimeout _ => w.plane.spawnGen == own || !w.plane.inPageDevices
  | .fallback own generation _ caller,.fallbackAnswered _ _ =>
    if w.plane.spawnGen = generation then own == generation else caller != .opening
  | .switching own,.switchAnswered _ _ => w.plane.spawnGen == own
  | _,_ => true

/-- No continuation without a check is late. -/
def punctual (w : World) (a : Action) : Bool := (resumed w a).all fun entry => onTime w entry.2 a

section
variable {P : Post → Prop} {w w₁ w₂ : World}

theorem Told.refl (P : Post → Prop) (w : World) : Told P w w := ⟨[],by simp⟩

theorem Told.trans (first : Told P w w₁) (second : Told P w₁ w₂) : Told P w w₂ := by
  obtain ⟨before,posts,fits⟩ := first
  obtain ⟨after,posts₂,fits₂⟩ := second
  refine ⟨before ++ after,by rw [posts₂,posts,List.append_assoc],fun p told => ?_⟩
  rcases List.mem_append.mp told with told | told
  · exact fits p told
  · exact fits₂ p told

theorem Told.mono {Q : Post → Prop} (told : Told P w w₁) (implies : ∀ p, P p → Q p) : Told Q w w₁ := by
  obtain ⟨posted,posts,fits⟩ := told
  exact ⟨posted,posts,fun p member => implies p (fits p member)⟩

theorem Told.same (posts : w₁.posts = w.posts) : Told P w w₁ := ⟨[],by simp [posts]⟩

theorem Told.post (p : Post) (fits : P p) : Told P w (w.post p) :=
  ⟨[p],rfl,fun _ member => List.mem_singleton.mp member ▸ fits⟩

end

/-- Nothing of another generation than `own` was made ready, and no port of another posted. -/
structure Fresh (own : Nat) (w w' : World) : Prop where
  ready : ∀ g, w'.plane.readyGenerations = some g → g = own ∨ w.plane.readyGenerations = some g
  ports : Told (fun p => ∀ g, p = .wireWorkerPort g → g = own) w w'

section
variable {own : Nat} {w w₁ w₂ : World}

theorem Fresh.trans (first : Fresh own w w₁) (second : Fresh own w₁ w₂) : Fresh own w w₂ := by
  refine ⟨fun g ready => ?_,first.ports.trans second.ports⟩
  rcases second.ready g ready with same | ready
  · exact .inl same
  · exact first.ready g ready

theorem Fresh.same (ready : w₁.plane.readyGenerations = w.plane.readyGenerations) (posts : w₁.posts = w.posts) :
    Fresh own w w₁ := ⟨fun _ is => .inr (ready ▸ is),.same posts⟩

/-- Nothing is ready any more. -/
theorem Fresh.unready (ready : w₁.plane.readyGenerations = none)
    (ports : Told (fun p => ∀ g, p = .wireWorkerPort g → g = own) w w₁) : Fresh own w w₁ :=
  ⟨fun _ is => (nomatch ready ▸ is),ports⟩

theorem Fresh.post (p : Post) (fits : ∀ g, p = .wireWorkerPort g → g = own) : Fresh own w (w.post p) :=
  ⟨fun _ is => .inr is,.post p fits⟩

theorem Fresh.start (t : Task) : Fresh own w (w.start t) := .same rfl rfl

theorem Fresh.mark (prerequisite : Prerequisite) : Fresh own w (w.markPlanePrerequisite own prerequisite) := by
  have ready : ∀ g, (w.plane.markPlanePrerequisite own prerequisite).readyGenerations = some g →
      g = own ∨ w.plane.readyGenerations = some g := by
    intro g is
    unfold Plane.markPlanePrerequisite at is
    split_ifs at is with newest
    · exact .inr is
    · dsimp only at is
      split_ifs at is with met
      · exact .inl (Option.some.inj is).symm
      · exact .inr is
  unfold World.markPlanePrerequisite
  by_cases met : w.plane.spawnGen = own ∧ ((w.plane.readinessOf own).meet prerequisite).localPort ∧
      ((w.plane.readinessOf own).meet prerequisite).authoritative
  · rw [if_pos met]
    refine ⟨ready,?_⟩
    by_cases already : w.plane.readyGenerations = some own
    · exact .same (if_pos already)
    · exact ⟨[.dataPlaneReady own],if_neg already,by simp⟩
  · rw [if_neg met]
    exact ⟨ready,.same rfl⟩

theorem Fresh.marked : Fresh own w (w.markPlaneReady own) := .trans (.mark .localPort) (.mark .authoritative)

theorem Fresh.head (notifyUnavailable : Bool) : Fresh own w (w.despawnHead notifyUnavailable) := by
  refine .unready rfl ⟨_,(List.append_assoc ..).trans (List.append_assoc ..),?_⟩
  intro p told g is
  subst is
  simp only [List.mem_append,List.mem_map] at told
  rcases told with told | told | ⟨_,_,is⟩
  · split at told <;> simp at told
  · split at told <;> simp at told
  · cases is

theorem Fresh.tail (keepPort : Bool) : Fresh own w (w.despawnTail keepPort) := .unready rfl (.same rfl)

theorem Fresh.despawnDone (notifyUnavailable : Bool) : Fresh own w (w.despawnDone notifyUnavailable) := by
  unfold World.despawnDone
  split_ifs
  · exact (Fresh.head notifyUnavailable).trans (.start _)
  · exact (Fresh.head notifyUnavailable).trans (.tail false)

theorem Fresh.returnNull (caller : Caller) : Fresh own w (w.returnNull caller) := by
  cases caller with
  | opening => exact .despawnDone false
  | waiting => exact .same rfl rfl
  | live => exact .same rfl rfl

theorem Fresh.spawn (s : Start) (rewire : Bool) (caller : Caller) : Fresh own w (w.spawnDataPlane s rewire caller) := by
  cases s with
  | inPage => exact .unready rfl (.same rfl)
  | nm => exact .unready rfl (.same rfl)
  | worker kind =>
    refine .unready ?_ ⟨_,rfl,?_⟩
    · unfold World.spawnDataPlane Plane.dropWorker
      dsimp only [World.start]
      split_ifs <;> rfl
    · intro p told g is
      subst is
      obtain ⟨_,_,is⟩ := List.mem_map.mp told
      cases is

theorem Fresh.failed (rewire : Bool) (caller : Caller) (g : Nat) : Fresh own w (w.spawnFailed g rewire caller) := by
  unfold World.spawnFailed
  split_ifs
  · exact .start _
  · exact .same rfl rfl

theorem Fresh.follow (begun : Nat) (next : Next) : Fresh own w (w.follow begun next) := by
  cases next with
  | done => exact .same rfl rfl
  | fallback rewire caller => exact .start _
  | recover s =>
    cases s with
    | nm => exact .start _
    | worker kind => exact .spawn (.worker kind) true .live
    | inPage => exact .spawn .inPage true .live
  | rejected caller => exact (Fresh.post _ (by simp)).trans (.returnNull caller)
  | switch => exact .start _
  | switchRejected => exact .post _ (by simp)

theorem Fresh.despawn (notifyUnavailable keepPort : Bool) (next : Next) :
    Fresh own w (w.despawnDataPlane notifyUnavailable keepPort next) := by
  unfold World.despawnDataPlane
  split_ifs
  · exact (Fresh.head notifyUnavailable).trans (.start _)
  · exact ((Fresh.head notifyUnavailable).trans (.tail keepPort)).trans (.follow _ next)

theorem Fresh.wire (rewire : Bool) : Fresh own w (w.wire rewire own) := by
  unfold World.wire
  split_ifs
  · exact .post _ fun _ is => (Post.wireWorkerPort.inj is).symm
  · exact .same rfl rfl

theorem Fresh.record {plane : Plane} (ready : plane.readyGenerations = w.plane.readyGenerations) :
    Fresh own w (w.record plane) := .same ready rfl

theorem Fresh.workerSpawned (kind : TransportKind) (rewire : Bool) (caller : Caller) (ok : Bool) :
    Fresh own w (w.workerSpawned own kind rewire caller ok) := by
  unfold World.workerSpawned
  split_ifs
  · exact .failed rewire caller own
  · exact .post _ fun _ is => nomatch is
  · refine .trans (.record ?_) (.wire rewire)
    rfl

theorem Fresh.hashed (rewire : Bool) (caller : Caller) (ok : Bool) : Fresh own w (w.hashed own rewire caller ok) := by
  unfold World.hashed
  split_ifs
  · refine .trans (.trans (.record ?_) (.post _ ?_)) (.start _)
    · rfl
    · exact fun _ is => nomatch is
  · exact .failed rewire caller own

theorem Fresh.inPageAnswered (rewire : Bool) (caller : Caller) (ok : Bool) :
    Fresh own w (w.inPageAnswered own rewire caller ok) := by
  unfold World.inPageAnswered
  split_ifs
  · exact .marked
  · exact .failed rewire caller own

theorem Fresh.inPageTimeout (rewire : Bool) (caller : Caller) : Fresh own w (w.inPageTimeout own rewire caller) := by
  refine .trans (.record ?_) (.failed rewire caller own)
  rfl

theorem Fresh.wait (generation : Nat) : Fresh own w (w.waitForPlaneReady generation) := by
  unfold World.waitForPlaneReady
  split_ifs <;> exact .same rfl rfl

theorem Fresh.fallbackAnswered (rewire : Bool) (caller : Caller) (ok : Bool) :
    Fresh own w (w.fallbackAnswered own rewire caller ok) := by
  unfold World.fallbackAnswered
  split_ifs with stale refused
  · exact .returnNull caller
  · exact .despawn _ _ _
  · have wired : Fresh own w (((w.record { w.plane with nmPlanes := true, deviceTransports := none
        }).markPlanePrerequisite own .authoritative).wire rewire own) := by
      refine .trans (.trans (.record ?_) (.mark .authoritative)) (.wire rewire)
      rfl
    cases caller with
    | waiting => exact wired.trans (.wait own)
    | opening => exact wired
    | live => exact wired

theorem Fresh.switchAnswered (ok : Bool) (newest : w.plane.spawnGen = own) : Fresh own w (w.switchAnswered ok) := by
  unfold World.switchAnswered
  split_ifs
  · rw [newest]
    refine .trans (.trans (.record ?_) (.mark .authoritative)) (.wire true)
    rfl
  · exact .despawn _ _ _

theorem Fresh.workerError (generation : Nat) (session : Bool) (s : Start) :
    Fresh own w (w.handleWorkerErrorEvent generation session s) := by
  unfold World.handleWorkerErrorEvent
  split_ifs
  · exact .same rfl rfl
  · exact .despawn _ _ _
  · exact .despawnDone false

end

section
variable {own : Nat} {w w' : World}

theorem Keeps.newest (current : w.plane.spawnGen = own) (fresh : Fresh own w w') : Keeps own w w' :=
  ⟨fresh.ready,fun _ => .inr current,fresh.ports,fun stale => absurd current stale⟩

/-- A step that has come too late and only tells the page of its own generation. -/
structure Late (own : Nat) (w w' : World) : Prop where
  plane : w'.plane = w.plane
  dataPorts : w'.dataPorts = w.dataPorts
  pending : w.pendingPlaneReady = some w.plane.spawnGen → w'.pendingPlaneReady = w.pendingPlaneReady
  tasks : ∀ t ∈ w.tasks, t.own = w.plane.spawnGen → t ∈ w'.tasks
  told : Told (·.generation = own) w w'

theorem Late.refl (own : Nat) (w : World) : Late own w w := ⟨rfl,rfl,fun _ => rfl,fun _ member _ => member,.refl _ w⟩

theorem Late.trans {w₁ : World} (first : Late own w w₁) (second : Late own w₁ w') : Late own w w' where
  plane := second.plane.trans first.plane
  dataPorts := second.dataPorts.trans first.dataPorts
  pending := fun newer =>
    (second.pending ((first.pending newer).trans (first.plane ▸ newer))).trans (first.pending newer)
  tasks := fun t member newer => second.tasks t (first.tasks t member newer) (first.plane ▸ newer)
  told := first.told.trans second.told

theorem Late.start (t : Task) : Late own w (w.start t) :=
  ⟨rfl,rfl,fun _ => rfl,fun _ member _ => List.mem_append_left _ member,.same rfl⟩

theorem Late.post {p : Post} (about : p.generation = own) : Late own w (w.post p) :=
  ⟨rfl,rfl,fun _ => rfl,fun _ member _ => member,.post p about⟩

theorem Late.keeps (late : Late own w w') : Keeps own w w' where
  ready := fun g is => .inr (late.plane ▸ is)
  nm := fun is => .inl (late.plane ▸ is)
  ports := late.told.mono fun p is g same => by subst same; exact is
  stale := fun stale =>
    ⟨late.plane,late.dataPorts,late.pending,late.tasks,late.told.mono fun p is same => stale (same.symm.trans is)⟩

/-- The task that goes on was not one of the newer generation. -/
theorem Keeps.erased {k : Nat} {t : Task} (found : w.tasks[k]? = some t)
    (keeps : Keeps t.own { w with tasks := w.tasks.eraseIdx k } w') : Keeps t.own w w' where
  ready := keeps.ready
  nm := keeps.nm
  ports := keeps.ports
  stale := by
    intro stale
    obtain ⟨plane,dataPorts,pending,tasks,told⟩ := keeps.stale stale
    refine ⟨plane,dataPorts,pending,fun t' member newer => tasks t' ?_ newer,told⟩
    obtain ⟨i,there⟩ := List.mem_iff_getElem?.mp member
    refine List.mem_eraseIdx_iff_getElem?.mpr ⟨i,fun same => ?_,there⟩
    rw [same,found] at there
    exact stale (newer.symm.trans (congrArg Task.own (Option.some.inj there).symm))

theorem failed_late (rewire : Bool) (caller : Caller) (stale : w.plane.spawnGen ≠ own) :
    w.spawnFailed own rewire caller = w := if_neg stale

theorem mark_late (stale : w.plane.spawnGen ≠ own) (prerequisite : Prerequisite) :
    w.markPlanePrerequisite own prerequisite = w := by
  have same : w.plane.markPlanePrerequisite own prerequisite = w.plane := if_pos stale
  unfold World.markPlanePrerequisite
  rw [if_neg fun newest => stale newest.1,same]

/-- The end of a `despawnDataPlane` where everything was removed before. -/
theorem tail_cleared {keepPort : Bool} (none : cleared w keepPort = true) :
    (w.despawnTail keepPort).plane = w.plane ∧ (w.despawnTail keepPort).dataPorts = w.dataPorts ∧
      ∀ t ∈ w.tasks, t.own = w.plane.spawnGen → t ∈ (w.despawnTail keepPort).tasks := by
  obtain ⟨⟨spawnGen,planeReadiness,readyGenerations,workers,workerGenerations,connectParams,deviceTransports,
    inPageDevices,nmPlanes⟩,dataPorts,pending,tasks,posts⟩ := w
  simp only [cleared,Bool.and_eq_true,Option.isNone_iff_eq_none,Bool.not_eq_true',Bool.or_eq_true,List.isEmpty_iff,
    List.all_eq_true] at none
  obtain ⟨⟨⟨⟨⟨⟨rfl,rfl⟩,rfl⟩,rfl⟩,rfl⟩,ports⟩,others⟩ := none
  refine ⟨rfl,?_,fun t member newer => List.mem_filterMap.mpr ⟨t,member,?_⟩⟩
  · rcases ports with rfl | rfl
    · rfl
    · exact ite_self []
  · cases t with
    | inPage own rewire caller => exact absurd newer (bne_iff_ne.mp (others _ member))
    | _ => rfl

theorem Late.follow {begun : Nat} {next : Next} (asks : next.asks = true) : Late own w (w.follow begun next) := by
  cases next with
  | done => exact .refl own w
  | fallback rewire caller => exact .start _
  | recover s =>
    cases s with
    | nm => exact .start _
    | worker kind => cases asks
    | inPage => cases asks
  | rejected caller => cases asks
  | switch => exact .start _
  | switchRejected => cases asks

theorem Late.workerSpawned (kind : TransportKind) (rewire : Bool) (caller : Caller) (ok : Bool)
    (stale : w.plane.spawnGen ≠ own) : Late own w (w.workerSpawned own kind rewire caller ok) := by
  unfold World.workerSpawned
  split_ifs
  · rw [failed_late rewire caller stale]
    exact .refl own w
  · exact .post rfl

theorem Late.hashed {rewire : Bool} {caller : Caller} {ok : Bool} (stale : w.plane.spawnGen ≠ own)
    (there : ok = true → w.plane.inPageDevices = true) : Late own w (w.hashed own rewire caller ok) := by
  unfold World.hashed
  split_ifs with started
  · have same : { w.plane with inPageDevices := true } = w.plane := by rw [← there started]
    rw [same]
    exact .trans (.post rfl) (.start _)
  · rw [failed_late rewire caller stale]
    exact .refl own w

theorem Late.inPageAnswered (rewire : Bool) (caller : Caller) (ok : Bool) (stale : w.plane.spawnGen ≠ own) :
    Late own w (w.inPageAnswered own rewire caller ok) := by
  have same : w.inPageAnswered own rewire caller ok = w := by
    unfold World.inPageAnswered World.markPlaneReady
    rw [mark_late stale,mark_late stale,failed_late rewire caller stale,ite_self]
  rw [same]
  exact .refl own w

theorem Late.inPageTimeout {rewire : Bool} {caller : Caller} (stale : w.plane.spawnGen ≠ own)
    (gone : w.plane.inPageDevices = false) : Late own w (w.inPageTimeout own rewire caller) := by
  have same : w.inPageTimeout own rewire caller = w := by
    unfold World.inPageTimeout
    rw [← gone]
    exact failed_late rewire caller stale
  rw [same]
  exact .refl own w

theorem Keeps.of (fresh : w.plane.spawnGen = own → Fresh own w w') (late : w.plane.spawnGen ≠ own → Late own w w') :
    Keeps own w w' := by
  by_cases current : w.plane.spawnGen = own
  · exact .newest current (fresh current)
  · exact (late current).keeps

theorem keeps_fallback {generation : Nat} {rewire : Bool} {caller : Caller} {ok : Bool}
    (timely : (if w.plane.spawnGen = generation then own == generation else caller != .opening) = true) :
    Keeps own w (w.fallbackAnswered generation rewire caller ok) := by
  by_cases newest : w.plane.spawnGen = generation
  · rw [if_pos newest,beq_iff_eq] at timely
    subst timely
    exact .newest newest (.fallbackAnswered rewire caller ok)
  · rw [if_neg newest] at timely
    have same : w.fallbackAnswered generation rewire caller ok = w := by
      unfold World.fallbackAnswered
      rw [if_pos newest]
      cases caller with
      | opening => cases timely
      | waiting => rfl
      | live => rfl
    rw [same]
    exact (Late.refl own w).keeps

/-- A continuation that has a check, or is on time. -/
theorem resume_keeps {t : Task} {a : Action} (timely : onTime w t a = true) (taken : resume w t a = some w') :
    Keeps t.own w w' := by
  cases t with
  | despawning own keepPort next =>
    cases a with
    | despawned k =>
      cases taken
      refine .of (fun _ => .trans (.tail keepPort) (.follow own next)) fun stale => ?_
      simp only [onTime,Bool.or_eq_true,beq_iff_eq,Bool.and_eq_true] at timely
      obtain ⟨none,asks⟩ := timely.resolve_left stale
      obtain ⟨plane,dataPorts,tasks⟩ := tail_cleared none
      exact .trans ⟨plane,dataPorts,fun _ => rfl,tasks,.same rfl⟩ (.follow asks)
    | _ => cases taken
  | spawningWorker own kind rewire caller =>
    cases a with
    | workerSpawned k ok =>
      cases taken
      exact .of (fun _ => .workerSpawned kind rewire caller ok) fun stale => .workerSpawned kind rewire caller ok stale
    | _ => cases taken
  | hashing own rewire caller =>
    cases a with
    | hashed k ok =>
      cases taken
      refine .of (fun _ => .hashed rewire caller ok) fun stale => .hashed stale fun done => ?_
      simp only [onTime,Bool.or_eq_true,beq_iff_eq,done,Bool.not_true,Bool.false_eq_true,false_or] at timely
      exact timely.resolve_left stale
    | _ => cases taken
  | inPage own rewire caller =>
    cases a with
    | inPageAnswered k ok =>
      cases taken
      exact .of (fun _ => .inPageAnswered rewire caller ok) fun stale => .inPageAnswered rewire caller ok stale
    | inPageTimeout k =>
      cases taken
      refine .of (fun _ => .inPageTimeout rewire caller) fun stale => .inPageTimeout stale ?_
      simp only [onTime,Bool.or_eq_true,beq_iff_eq,Bool.not_eq_true'] at timely
      exact timely.resolve_left stale
    | _ => cases taken
  | fallback own generation rewire caller =>
    cases a with
    | fallbackAnswered k ok => cases taken; exact keeps_fallback timely
    | _ => cases taken
  | switching own =>
    cases a with
    | switchAnswered k ok =>
      cases taken
      have newest : w.plane.spawnGen = own := beq_iff_eq.mp timely
      exact .newest newest (.switchAnswered ok newest)
    | _ => cases taken

/-- The removal of the task that goes on leaves what its condition is about. -/
theorem onTime_erased {t : Task} {a : Action} (k : Nat) (timely : onTime w t a = true) :
    onTime { w with tasks := w.tasks.eraseIdx k } t a = true := by
  cases t with
  | despawning own keepPort next =>
    cases a with
    | despawned j =>
      simp only [onTime,cleared,Bool.or_eq_true,Bool.and_eq_true,List.all_eq_true] at timely ⊢
      exact timely.imp_right fun ⟨⟨records,others⟩,asks⟩ =>
        ⟨⟨records,fun t member => others t (List.mem_of_mem_eraseIdx member)⟩,asks⟩
    | _ => rfl
  | _ => cases a <;> exact timely

end

/-! ### Runs -/

theorem keeps_event {generation : Nat} {w w' : World} (fresh : Fresh generation w w')
    (checked : w.plane.spawnGen ≠ generation → w' = w) : Keeps generation w w' :=
  .of (fun _ => fresh) fun stale => checked stale ▸ .refl generation w

theorem dataPort_keeps (generation : Nat) (w : World) : Keeps generation w (w.handleDataPortRequest generation) := by
  unfold World.handleDataPortRequest
  split_ifs with stale worker
  · exact (Late.refl generation w).keeps
  · exact .newest (not_not.mp stale) (.record rfl)
  · refine .newest (not_not.mp stale) (.trans (.same ?_ ?_) (.mark .localPort))
    · rfl
    · rfl

theorem workerError_keeps (generation : Nat) (session : Bool) (s : Start) (w : World) :
    Keeps generation w (w.handleWorkerErrorEvent generation session s) :=
  keeps_event (.workerError generation session s) fun stale => if_pos stale

theorem planeEvent_keeps (generation : Nat) (session : Bool) (s : Start) (w : World) :
    Keeps generation w (w.handleDataPlaneEvent generation session s) := by
  refine keeps_event ?_ fun stale => if_pos stale
  unfold World.handleDataPlaneEvent
  split_ifs
  · exact .same rfl rfl
  · refine .trans (.record ?_) (.workerError generation session s)
    rfl

theorem workerReady_keeps (generation : Nat) (w : World) : Keeps generation w (w.markPlaneReady generation) := by
  refine keeps_event .marked fun stale => ?_
  unfold World.markPlaneReady
  rw [mark_late stale,mark_late stale]

theorem readyTimeout_keeps {generation : Nat} {w : World} (pending : w.pendingPlaneReady = some generation) :
    Keeps generation w (w.readyTimeout generation) := by
  unfold World.readyTimeout
  refine .of (fun current => ?_) fun stale => ?_
  · rw [if_pos current]
    refine .trans (.same ?_ ?_) (.despawn true false _)
    · rfl
    · rfl
  · rw [if_neg stale]
    exact ⟨rfl,rfl,fun newer => absurd (Option.some.inj (newer.symm.trans pending)) stale,fun _ member _ => member,
      .same rfl⟩

theorem resumed_task {w : World} {a : Action} {k : Nat} {t : Task} (found : resumed w a = some (k,t)) :
    w.tasks[k]? = some t := by
  cases a <;> simp only [resumed,Option.map_eq_some_iff,Prod.mk.injEq,reduceCtorEq] at found
  all_goals
    obtain ⟨_,there,rfl,rfl⟩ := found
    exact there

/-- A continuation that is on time is a step of its own generation. -/
theorem resumed_keeps {w w' : World} {a : Action} {own : Nat} (timely : punctual w a = true)
    (taken : (resumed w a).bind (fun entry => resume { w with tasks := w.tasks.eraseIdx entry.1 } entry.2 a) = some w')
    (is : (resumed w a).map (fun entry => entry.2.own) = some own) : Keeps own w w' := by
  obtain ⟨⟨k,t⟩,found,goes⟩ := Option.bind_eq_some_iff.mp taken
  rw [found,Option.map_some,Option.some.injEq] at is
  subst is
  rw [punctual,found,Option.all_some] at timely
  exact .erased (resumed_task found) (resume_keeps (onTime_erased k timely) goes)

theorem step_keeps {w w' : World} {a : Action} (timely : punctual w a = true) (taken : step w a = some w') :
    OwnGeneration w a w' := by
  intro own is
  cases a with
  | opened s => cases is
  | despawn => cases is
  | switch nm => cases is
  | respawn s => cases is
  | awaitReady generation => cases is
  | readyTimeout =>
    have pending : w.pendingPlaneReady = some own := is
    rw [step,pending,Option.map_some,Option.some.injEq] at taken
    exact taken ▸ readyTimeout_keeps pending
  | dataPort generation => cases is; cases taken; exact dataPort_keeps own w
  | workerReady generation => cases is; cases taken; exact workerReady_keeps own w
  | workerError generation session s => cases is; cases taken; exact workerError_keeps own session s w
  | planeEvent generation session s => cases is; cases taken; exact planeEvent_keeps own session s w
  | despawned k => exact resumed_keeps timely taken is
  | workerSpawned k ok => exact resumed_keeps timely taken is
  | hashed k ok => exact resumed_keeps timely taken is
  | inPageAnswered k ok => exact resumed_keeps timely taken is
  | inPageTimeout k => exact resumed_keeps timely taken is
  | fallbackAnswered k ok => exact resumed_keeps timely taken is
  | switchAnswered k ok => exact resumed_keeps timely taken is

/-- Where no continuation without a check is late, every step keeps to the generation that
    it was started for, in every order of the steps. -/
theorem own_generation (trace : List Action) (timely : AllSteps step (fun w a _ => punctual w a = true) init trace) :
    AllSteps step OwnGeneration init trace := by
  refine allSteps_mono (I := fun _ => True) ?_ ?_ trivial timely
  · exact fun _ _ _ _ _ => trivial
  · exact fun _ _ _ _ taken timely => step_keeps timely taken

/-- A worker that comes after its plane was closed, and another open. -/
def lateWorker : List Action :=
  [.opened (.worker .ws),.despawn,.opened .nm,.workerSpawned 0 true,.workerReady 1,.dataPort 3]

theorem late_worker_own_generation :
    (exec step init lateWorker).map (fun w => (w.plane.readyGenerations,w.posts)) =
      some (some 3,[.terminate 1,.dataPlaneReady 3]) ∧ AllSteps step OwnGeneration init lateWorker :=
  ⟨by decide,own_generation lateWorker (allSteps_of_checkAll (by decide))⟩

/-- The settings go to NM and back to a worker before the daemon has answered. -/
def switchedBack : List Action :=
  [.opened (.worker .ws),.workerSpawned 0 true,.workerReady 1,.switch true,.despawned 0,.switch false,
    .respawn (.worker .ws)]

/-- The answer to the first switch, for generation 2, puts generation 4 among the NM planes
    and posts its worker port. -/
theorem late_switch_wires_newer :
    ¬ ∀ trace, AllSteps step OwnGeneration init trace := by
  intro all
  obtain ⟨w,run⟩ := Option.isSome_iff_exists.mp (by decide : (exec step init switchedBack).isSome = true)
  have facts : (exec step init switchedBack).map (fun w => (actor w (.switchAnswered 0 true),w.plane.spawnGen,
      w.plane.nmPlanes,(step w (.switchAnswered 0 true)).map fun w' => w'.plane.nmPlanes)) =
      some (some 2,4,false,some true) := by decide
  rw [run] at facts
  simp only [Option.map_some,Option.some.injEq,Prod.mk.injEq,Option.map_eq_some_iff] at facts
  obtain ⟨own,newest,before,w',taken,after⟩ := facts
  have keeps := (all (switchedBack ++ [.switchAnswered 0 true])).at run taken 2 own
  rcases keeps.nm after with there | current
  · rw [before] at there
    cases there
  · rw [newest] at current
    cases current

end FFWebHid.PlaneGenerations
