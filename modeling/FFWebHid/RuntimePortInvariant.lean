import FFWebHid.RuntimePorts

/-!
The invariant of the runtime data ports: a port is in use or a task will still look at it,
what is in use has its port, and nothing is recorded for a frame that is gone. Each lemma
is about one thing that the functions of the bridge do to the maps and the tasks.
-/
namespace FFWebHid.RuntimePorts
open FFWebHid.Maps FFWebHid.Runs FFWebHid.Planes FFWebHid.Cooperative

def retained (attempt : Bool) (key : Key) : Option Key := if attempt then some key else none

def Caller.attempt (key : Key) : Caller → Option Key
  | .nobody => none
  | .opening attempt => retained attempt key

/-- The key whose attempt a task still retains. -/
@[simp] def Task.attempt : Task → Option Key
  | .opening client deviceId attempt => retained attempt (planeKeyForClient client deviceId)
  | .opened client deviceId attempt _ => retained attempt (planeKeyForClient client deviceId)
  | .cleaning client deviceId attempt => retained attempt (planeKeyForClient client deviceId)
  | .spawning client deviceId _ _ _ caller => caller.attempt (planeKeyForClient client deviceId)
  | .hashing client deviceId _ _ caller => caller.attempt (planeKeyForClient client deviceId)
  | .connecting client deviceId _ _ _ caller => caller.attempt (planeKeyForClient client deviceId)
  | .requesting client deviceId _ _ caller => caller.attempt (planeKeyForClient client deviceId)
  | .reconciling _ _ next => next.attempt
  | .despawning _ _ _ next => next.attempt
  | _ => none

/-- The device whose port a task will still look at. -/
@[simp] def Task.asks : Task → Option DeviceId
  | .requesting _ deviceId _ _ _ => some deviceId
  | .despawning _ deviceId _ _ => some deviceId
  | _ => none

/-- The key of a plane that the destruction of a frame removes. -/
def dueKey (plane : Key × DeviceId) : Key := planeKeyForClient plane.1.client plane.2

/-- The keys whose planes the destruction of a frame is still to remove. -/
@[simp] def Task.due : Task → List Key
  | .destroying _ _ _ _ todo => todo.map dueKey
  | .notifying _ _ _ _ _ todo => todo.map dueKey
  | .reconciling _ _ next => next.due
  | .despawning _ _ _ next => next.due
  | _ => []

/-- The clients whose sessions the destruction of a frame will clear. -/
@[simp] def Task.clears : Task → List Client
  | .destroying _ _ records _ _ => records
  | .notifying _ _ records _ _ _ => records
  | .reconciling _ _ next => next.clears
  | .despawning _ _ _ next => next.clears
  | _ => []

/-- The key whose plane is being removed, and whether its ports stay. -/
@[simp] def Task.removes : Task → Option (Key × Bool)
  | .despawning client deviceId keepPort _ => some (planeKeyForClient client deviceId,keepPort)
  | _ => none

/-- The key and the generation of a transport that is set up. -/
@[simp] def Task.spawns : Task → Option (Key × Nat)
  | .spawning client deviceId generation _ _ _ => some (planeKeyForClient client deviceId,generation)
  | .hashing client deviceId generation _ _ => some (planeKeyForClient client deviceId,generation)
  | .reconciling _ _ next => next.spawns
  | .despawning _ _ _ next => next.spawns
  | _ => none

/-- A destruction that is to notify has still to come to each device that stayed open,
    or has posted its notice. -/
@[simp] def Task.Told (notices : List (Nat × DeviceId)) : Task → Prop
  | .destroying frame notify _ devices todo =>
    notify = true → ∀ d ∈ devices, d ∈ todo.map (·.2) ∨ (frame,d) ∈ notices
  | .notifying frame notify _ devices deviceId todo =>
    notify = true → ∀ d ∈ devices, d = deviceId ∨ d ∈ todo.map (·.2) ∨ (frame,d) ∈ notices
  | .reconciling _ _ next => next.Told notices
  | .despawning _ _ _ next => next.Told notices
  | _ => True

@[simp] theorem next_attempt (client : Client) (deviceId : DeviceId) (accepted : Bool) (caller : Caller) :
    (caller.next client deviceId accepted).attempt = caller.attempt (planeKeyForClient client deviceId) := by
  cases caller <;> rfl

/-! ### The invariant -/

section
variable (s : State) (tasks : List Task)

/-- A port is in use, or a task will look at it. -/
def Attended (deviceId : DeviceId) : Prop := s.inUse deviceId = true ∨ ∃ t ∈ tasks, t.asks = some deviceId

/-- The frame of a key is gone, and its destruction has passed the key. -/
def Gone (key : Key) : Prop := key.frame ∉ s.frameContexts ∧ ∀ t ∈ tasks, key ∉ t.due

/-- Nothing is recorded at a key but what a removal under way is still to remove, and
    the transports that are set up for it are out of date. -/
structure Cleared (key : Key) : Prop where
  head : (s.recordsOf key).workers = none ∧ (s.recordsOf key).workerGenerations = none ∧
    (s.recordsOf key).inPageDevices = false ∧ (s.recordsOf key).pendingPlaneReady = none ∧
    (s.recordsOf key).workerReadyDevices = false
  tail : (∀ t ∈ tasks, ∀ keepPort, t.removes ≠ some (key,keepPort)) →
    (s.recordsOf key).toPlane = { spawnGen := (s.recordsOf key).spawnGen } ∧
      (∀ p ∈ s.dataPending, p.key ≠ key) ∧ ∀ p ∈ s.pendingPlaneSpawns, p.key ≠ key
  ports : (∀ t ∈ tasks, t.removes ≠ some (key,false)) → ∀ port ∈ s.dataPorts, port.key ≠ key
  stale : ∀ t ∈ tasks, ∀ generation, t.spawns = some (key,generation) → generation < (s.recordsOf key).spawnGen

/-- `but` is a port that is still to be looked at. -/
structure Inv (but : Option DeviceId) : Prop where
  attempts : s.nmOpenAttempts.Perm (tasks.filterMap Task.attempt)
  attended : ∀ d ∈ s.runtimeDataPorts, but = some d ∨ Attended s tasks d
  planePort : ∀ key, (s.recordsOf key).nmPlanes = true → ∃ d ∈ s.runtimeDataPorts, d.text = key.device
  pendingPort : ∀ p ∈ s.dataPending, p.deviceId ∈ s.runtimeDataPorts
  pendingNamed : ∀ p ∈ s.dataPending, p.key.device = p.deviceId.text
  portNamed : ∀ port ∈ s.dataPorts, port.key.device = port.deviceId.text
  alive : ∀ client ∈ s.clients, client.frame ∈ s.frameContexts
  owned : ∀ entry ∈ s.sessions, entry.1 ∈ s.clients ∨ ∃ t ∈ tasks, entry.1 ∈ t.clears
  pendingKnown : ∀ p ∈ s.dataPending, 0 < (s.recordsOf p.key).spawnGen ∨ ∃ port ∈ s.dataPorts, port.key = p.key
  spawnKnown : ∀ p ∈ s.pendingPlaneSpawns, 0 < (s.recordsOf p.key).spawnGen
  spawned : ∀ t ∈ tasks, ∀ key generation, t.spawns = some (key,generation) →
    0 < (s.recordsOf key).spawnGen ∧ generation ≤ (s.recordsOf key).spawnGen
  waiting : ∀ key generation, (s.recordsOf key).pendingPlaneReady = some generation →
    generation ≤ (s.recordsOf key).spawnGen
  cleared : ∀ key, Gone s tasks key → Cleared s tasks key
  told : ∀ t ∈ tasks, t.Told s.notices
  ended : ∀ e ∈ s.destructions, e.notify = true → ∀ d ∈ e.opened, (e.frame,d) ∈ s.notices

end

theorem Attended.beside {s : State} {t : Task} {rest : List Task} {d : DeviceId} (attended : Attended s rest d) :
    Attended s (t :: rest) d :=
  attended.imp_right fun ⟨other,among,asks⟩ => ⟨other,List.mem_cons_of_mem _ among,asks⟩

theorem recordsOf_empty (key : Key) : (({} : State).recordsOf key) = {} := by
  simp [State.recordsOf]

theorem start_inv : Inv {} [] none := by
  have clear (key : Key) : Cleared {} [] key := by
    refine ⟨?_,fun _ => ?_,fun _ => by simp,by simp⟩
    · simp [recordsOf_empty]
    · simp [recordsOf_empty]
  constructor
  case cleared => exact fun key _ => clear key
  all_goals simp [recordsOf_empty]

section Records
variable {s : State} {tasks : List Task} {but : Option DeviceId}

theorem recordsOf_record (s : State) (key : Key) (f : Records → Records) (other : Key) :
    (s.record key f).recordsOf other = if other = key then f (s.recordsOf key) else s.recordsOf other := by
  simp only [State.recordsOf,State.record,lookup_insert_eq]
  split <;> rfl

theorem recordsOf_record_self (s : State) (key : Key) (f : Records → Records) :
    (s.record key f).recordsOf key = f (s.recordsOf key) :=
  (recordsOf_record s key f key).trans (if_pos rfl)

theorem recordsOf_record_ne (s : State) {key other : Key} (f : Records → Records) (differs : other ≠ key) :
    (s.record key f).recordsOf other = s.recordsOf other :=
  (recordsOf_record s key f other).trans (if_neg differs)

theorem mem_nmPlanes {key : Key} : key ∈ s.nmPlanes ↔ (s.recordsOf key).nmPlanes = true := by
  simp only [State.nmPlanes,List.mem_map,List.mem_filter]
  constructor
  · rintro ⟨⟨_,r⟩,⟨among,nm⟩,rfl⟩
    rw [State.recordsOf,lookup_eq_some.mpr among]
    exact nm
  · intro nm
    cases found : s.planes.lookup key with
    | none =>
      rw [State.recordsOf,found] at nm
      cases nm
    | some r =>
      rw [State.recordsOf,found] at nm
      exact ⟨⟨key,r⟩,⟨lookup_eq_some.mp found,nm⟩,rfl⟩

theorem inUse_iff {d : DeviceId} : s.inUse d = true ↔
    (∃ key, (s.recordsOf key).nmPlanes = true ∧ key.device = d.text) ∨
      (∃ key ∈ s.nmOpenAttempts, key.device = d.text) ∨ ∃ p ∈ s.dataPending, p.deviceId = d := by
  simp [State.inUse,State.hasDeviceKey,mem_nmPlanes,or_assoc]

/-- A key is cleared as before when nothing of it was changed. -/
theorem Cleared.congr {s' : State} {tasks' : List Task} {key : Key} (cleared : Cleared s tasks key)
    (records : s'.recordsOf key = s.recordsOf key) (pending : ∀ p ∈ s'.dataPending, p.key = key → p ∈ s.dataPending)
    (spawns : ∀ p ∈ s'.pendingPlaneSpawns, p.key = key → p ∈ s.pendingPlaneSpawns)
    (ports : ∀ p ∈ s'.dataPorts, p.key = key → p ∈ s.dataPorts)
    (removes : ∀ t ∈ tasks, ∀ keepPort, t.removes = some (key,keepPort) →
      ∃ t' ∈ tasks', t'.removes = some (key,keepPort))
    (stale : ∀ t' ∈ tasks', ∀ generation, t'.spawns = some (key,generation) →
      ∃ t ∈ tasks, t.spawns = some (key,generation)) :
    Cleared s' tasks' key where
  head := by rw [records]; exact cleared.head
  tail := by
    intro free
    obtain ⟨plane,noPending,noSpawns⟩ := cleared.tail fun t among keepPort same =>
      let ⟨t',among',same'⟩ := removes t among keepPort same
      free t' among' keepPort same'
    rw [records]
    exact ⟨plane,fun p among same => noPending p (pending p among same) same,
      fun p among same => noSpawns p (spawns p among same) same⟩
  ports := by
    intro free port among same
    refine cleared.ports (fun t member removing => ?_) port (ports port among same) same
    obtain ⟨t',among',same'⟩ := removes t member false removing
    exact free t' among' same'
  stale := by
    intro t' among generation same
    obtain ⟨t,member,before⟩ := stale t' among generation same
    rw [records]
    exact cleared.stale t member generation before

/-- The tasks are the same. -/
theorem Cleared.stays {s' : State} {key : Key} (cleared : Cleared s tasks key)
    (records : s'.recordsOf key = s.recordsOf key) (pending : ∀ p ∈ s'.dataPending, p.key = key → p ∈ s.dataPending)
    (spawns : ∀ p ∈ s'.pendingPlaneSpawns, p.key = key → p ∈ s.pendingPlaneSpawns)
    (ports : ∀ p ∈ s'.dataPorts, p.key = key → p ∈ s.dataPorts) : Cleared s' tasks key :=
  cleared.congr records pending spawns ports (fun t among _ same => ⟨t,among,same⟩) fun t among _ same => ⟨t,among,same⟩

/-- Nothing of the maps at the keys was changed. -/
theorem Cleared.beside {s' : State} {key : Key} (cleared : Cleared s tasks key) (planes : s'.planes = s.planes)
    (pending : s'.dataPending = s.dataPending) (spawns : s'.pendingPlaneSpawns = s.pendingPlaneSpawns)
    (ports : s'.dataPorts = s.dataPorts) : Cleared s' tasks key :=
  cleared.stays (by rw [State.recordsOf,planes,State.recordsOf]) (fun _ among _ => pending ▸ among)
    (fun _ among _ => spawns ▸ among) fun _ among _ => ports ▸ among

/-- No removal was given up and no transport is new. -/
theorem Cleared.running {tasks' : List Task} {key : Key} (cleared : Cleared s tasks key)
    (removes : ∀ t ∈ tasks, ∀ keepPort, t.removes = some (key,keepPort) →
      ∃ t' ∈ tasks', t'.removes = some (key,keepPort))
    (stale : ∀ t' ∈ tasks', ∀ generation, t'.spawns = some (key,generation) →
      ∃ t ∈ tasks, t.spawns = some (key,generation)) :
    Cleared s tasks' key :=
  cleared.congr rfl (fun _ among _ => among) (fun _ among _ => among) (fun _ among _ => among) removes stale

/-- Records that change without the end of an NM plane, or with a wait for a future
    generation. -/
structure Records.Grows (r r' : Records) : Prop where
  nmPlanes : r.nmPlanes = true → r'.nmPlanes = true
  spawnGen : r.spawnGen ≤ r'.spawnGen
  waiting : ∀ generation, r'.pendingPlaneReady = some generation →
    r.pendingPlaneReady = some generation ∨ generation ≤ r'.spawnGen

theorem Inv.record (inv : Inv s tasks but) {key : Key} {f : Records → Records}
    (grows : (s.recordsOf key).Grows (f (s.recordsOf key)))
    (new : (f (s.recordsOf key)).nmPlanes = true →
      (s.recordsOf key).nmPlanes = true ∨ ∃ d ∈ s.runtimeDataPorts, d.text = key.device)
    (gone : Gone s tasks key → Cleared (s.record key f) tasks key) : Inv (s.record key f) tasks but := by
  have grown (other : Key) : (s.recordsOf other).spawnGen ≤ ((s.record key f).recordsOf other).spawnGen := by
    rw [recordsOf_record]
    split
    next same => exact same ▸ grows.spawnGen
    · exact Nat.le_refl _
  refine { inv with
    attended := ?_
    planePort := ?_
    pendingKnown := ?_
    spawnKnown := ?_
    spawned := ?_
    waiting := ?_
    cleared := ?_ }
  · intro d listed
    refine (inv.attended d listed).imp_right (Or.imp_left fun used => ?_)
    rcases inUse_iff.mp used with ⟨other,nm,same⟩ | attempt | pending
    · refine inUse_iff.mpr (.inl ⟨other,?_,same⟩)
      rw [recordsOf_record]
      split
      next here => exact grows.nmPlanes (here ▸ nm)
      · exact nm
    · exact inUse_iff.mpr (.inr (.inl attempt))
    · exact inUse_iff.mpr (.inr (.inr pending))
  · intro other nm
    rw [recordsOf_record] at nm
    split at nm
    next here =>
      rw [here]
      exact (new nm).elim (inv.planePort key) id
    · exact inv.planePort other nm
  · exact fun p among => (inv.pendingKnown p among).imp_left fun known => Nat.lt_of_lt_of_le known (grown _)
  · exact fun p among => Nat.lt_of_lt_of_le (inv.spawnKnown p among) (grown _)
  · intro t among other generation same
    obtain ⟨known,before⟩ := inv.spawned t among other generation same
    exact ⟨Nat.lt_of_lt_of_le known (grown _),Nat.le_trans before (grown _)⟩
  · intro other generation waits
    rw [recordsOf_record] at waits ⊢
    split at waits
    next here =>
      rw [if_pos here]
      rcases grows.waiting generation waits with before | now
      · exact Nat.le_trans (inv.waiting key generation before) grows.spawnGen
      · exact now
    next other_ =>
      rw [if_neg other_]
      exact inv.waiting other generation waits
  · intro other passed
    by_cases here : other = key
    · subst here
      exact gone passed
    · exact (inv.cleared other passed).stays (recordsOf_record_ne s f here) (fun _ among _ => among)
        (fun _ among _ => among) fun _ among _ => among

end Records

section Moves
variable {s : State} {t t' next : Task} {tasks rest : List Task} {but : Option DeviceId} {client : Client}
  {deviceId : DeviceId} {keepPort : Bool}

theorem Inv.perm {tasks' : List Task} (perm : tasks.Perm tasks') (inv : Inv s tasks but) : Inv s tasks' but := by
  have same {t : Task} : t ∈ tasks' ↔ t ∈ tasks := perm.mem_iff.symm
  refine { inv with attempts := ?_, attended := ?_, owned := ?_, spawned := ?_, cleared := ?_, told := ?_ }
  · exact inv.attempts.trans (perm.filterMap _)
  · exact fun d listed => (inv.attended d listed).imp_right (Or.imp_right fun ⟨t,among,asks⟩ => ⟨t,same.mpr among,asks⟩)
  · exact fun entry held => (inv.owned entry held).imp_right fun ⟨t,among,clears⟩ => ⟨t,same.mpr among,clears⟩
  · exact fun t among => inv.spawned t (same.mp among)
  · rintro key ⟨dead,passed⟩
    have before := inv.cleared key ⟨dead,fun t among => passed t (same.mpr among)⟩
    exact before.running (fun t among _ removes => ⟨t,same.mpr among,removes⟩)
      fun t among _ spawns => ⟨t,same.mp among,spawns⟩
  · exact fun t among => inv.told t (same.mp among)

/-- A task may take the place of another beside the rest, but for the attempt. -/
structure Task.Replaces (s : State) (rest : List Task) (t t' : Task) : Prop where
  asks : ∀ d ∈ s.runtimeDataPorts, t.asks = some d → t'.asks = some d ∨ Attended s rest d
  due : t.due ⊆ t'.due
  removes : ∀ key keepPort, t.removes = some (key,keepPort) → t'.removes = some (key,keepPort)
  spawns : ∀ key generation, t'.spawns = some (key,generation) → t.spawns = some (key,generation) ∨
    key.frame ∈ s.frameContexts ∧ 0 < (s.recordsOf key).spawnGen ∧ generation ≤ (s.recordsOf key).spawnGen
  clears : ∀ entry ∈ s.sessions, entry.1 ∈ t.clears → entry.1 ∈ t'.clears
  told : t.Told s.notices → t'.Told s.notices

theorem Task.Replaces.attended (like : t.Replaces s rest t') {d : DeviceId} (listed : d ∈ s.runtimeDataPorts) :
    Attended s (t :: rest) d → Attended s (t' :: rest) d := by
  rintro (used | ⟨other,among,asks⟩)
  · exact .inl used
  rcases List.mem_cons.mp among with rfl | among
  · rcases like.asks d listed asks with still | used | ⟨other,among,same⟩
    · exact .inr ⟨t',List.mem_cons_self,still⟩
    · exact .inl used
    · exact .inr ⟨other,List.mem_cons_of_mem _ among,same⟩
  · exact .inr ⟨other,List.mem_cons_of_mem _ among,asks⟩

theorem Task.Replaces.spawned (like : t.Replaces s rest t') (inv : Inv s (t :: rest) but) :
    ∀ other ∈ t' :: rest, ∀ key generation, other.spawns = some (key,generation) →
      0 < (s.recordsOf key).spawnGen ∧ generation ≤ (s.recordsOf key).spawnGen := by
  intro other among key generation same
  rcases List.mem_cons.mp among with rfl | among
  · rcases like.spawns key generation same with before | ⟨_,known⟩
    · exact inv.spawned t List.mem_cons_self key generation before
    · exact known
  · exact inv.spawned other (List.mem_cons_of_mem _ among) key generation same

theorem Task.Replaces.cleared (like : t.Replaces s rest t') (inv : Inv s (t :: rest) but) {key : Key}
    (gone : Gone s (t' :: rest) key) : Cleared s (t' :: rest) key := by
  have before := inv.cleared key ⟨gone.1,fun other among => by
    rcases List.mem_cons.mp among with rfl | among
    · exact fun inside => gone.2 t' List.mem_cons_self (like.due inside)
    · exact gone.2 other (List.mem_cons_of_mem _ among)⟩
  refine before.running ?_ ?_
  · intro other among keepPort removes
    rcases List.mem_cons.mp among with rfl | among
    · exact ⟨t',List.mem_cons_self,like.removes key keepPort removes⟩
    · exact ⟨other,List.mem_cons_of_mem _ among,removes⟩
  · intro other among generation spawns
    rcases List.mem_cons.mp among with rfl | among
    · rcases like.spawns key generation spawns with before | ⟨alive,_⟩
      · exact ⟨t,List.mem_cons_self,before⟩
      · exact absurd alive gone.1
    · exact ⟨other,List.mem_cons_of_mem _ among,spawns⟩

theorem Task.Replaces.owned (like : t.Replaces s rest t') (inv : Inv s (t :: rest) but) :
    ∀ entry ∈ s.sessions, entry.1 ∈ s.clients ∨ ∃ other ∈ t' :: rest, entry.1 ∈ other.clears := by
  intro entry held
  refine (inv.owned entry held).imp_right ?_
  rintro ⟨other,among,clears⟩
  rcases List.mem_cons.mp among with rfl | among
  · exact ⟨t',List.mem_cons_self,like.clears entry held clears⟩
  · exact ⟨other,List.mem_cons_of_mem _ among,clears⟩

theorem Task.Replaces.tell (like : t.Replaces s rest t') (inv : Inv s (t :: rest) but) :
    ∀ other ∈ t' :: rest, other.Told s.notices :=
  List.forall_mem_cons.mpr ⟨like.told (inv.told t List.mem_cons_self),
    fun other among => inv.told other (List.mem_cons_of_mem _ among)⟩

/-- A task takes the place of another. -/
theorem Inv.swap (inv : Inv s (t :: rest) but) (like : t.Replaces s rest t') (attempt : t'.attempt = t.attempt) :
    Inv s (t' :: rest) but := by
  refine { inv with attempts := ?_, attended := ?_, owned := ?_, spawned := ?_, cleared := ?_, told := ?_ }
  · have attempts := inv.attempts
    rw [List.filterMap_cons] at attempts ⊢
    rw [attempt]
    exact attempts
  · exact fun d listed => (inv.attended d listed).imp_right (like.attended listed)
  · exact like.owned inv
  · exact like.spawned inv
  · exact fun key gone => like.cleared inv gone
  · exact like.tell inv

/-- A task takes the place of another and releases its attempt. -/
theorem Inv.release (inv : Inv s (t :: rest) none) (like : t.Replaces s rest t') {key : Key}
    (attempt : t.attempt = some key) (released : t'.attempt = none)
    (kept : ∀ d ∈ s.runtimeDataPorts, d.text = key.device →
      but = some d ∨ Attended (s.releaseNmOpenAttempt key) (t' :: rest) d) :
    Inv (s.releaseNmOpenAttempt key) (t' :: rest) but := by
  refine { inv with attempts := ?_, attended := ?_, owned := ?_, spawned := ?_, cleared := ?_, told := ?_ }
  · have attempts := inv.attempts
    rw [List.filterMap_cons,attempt] at attempts
    have erased := attempts.erase key
    rw [List.erase_cons_head] at erased
    rw [List.filterMap_cons,released]
    exact erased
  · intro d listed
    by_cases here : d.text = key.device
    · exact kept d listed here
    right
    rcases like.attended listed ((inv.attended d listed).resolve_left (by simp)) with used | asked
    · refine .inl (inUse_iff.mpr ((inUse_iff.mp used).imp_right (Or.imp_left ?_)))
      rintro ⟨k,among,same⟩
      refine ⟨k,(List.mem_erase_of_ne ?_).mpr among,same⟩
      rintro rfl
      exact here same.symm
    · exact .inr asked
  · exact like.owned inv
  · exact like.spawned inv
  · exact fun other gone => (like.cleared inv gone).beside rfl rfl rfl rfl
  · exact like.tell inv

/-- Sessions may go, and others begin for clients that are there. -/
theorem Inv.sessions (inv : Inv s tasks but) {sessions : List (Client × DeviceId)}
    (held : ∀ entry ∈ sessions, entry ∈ s.sessions ∨ entry.1 ∈ s.clients) :
    Inv { s with sessions := sessions } tasks but :=
  { inv with
    owned := fun entry among => (held entry among).elim (inv.owned entry) .inl
    cleared := fun key gone => (inv.cleared key gone).beside rfl rfl rfl rfl }

theorem Inv.deleteSession (inv : Inv s tasks but) (client : Client) (deviceId : DeviceId) :
    Inv (s.deleteSession client deviceId) tasks but :=
  inv.sessions fun _ among => .inl (List.mem_of_mem_filter among)

/-- A client may go, with its sessions. -/
theorem Inv.retire (inv : Inv s tasks but) (client : Client) :
    Inv { s with
      sessions := s.sessions.filter (·.1 ≠ client)
      clients := s.clients.filter (· ≠ client) } tasks but := by
  refine { inv with alive := ?_, owned := ?_, cleared := ?_ }
  · exact fun other among => inv.alive other (List.mem_of_mem_filter among)
  · intro entry among
    obtain ⟨held,other⟩ := List.mem_filter.mp among
    exact (inv.owned entry held).imp_left fun there => List.mem_filter.mpr ⟨there,other⟩
  · exact fun key gone => (inv.cleared key gone).beside rfl rfl rfl rfl

/-- A notice is posted. -/
theorem Task.Told.mono {notices notices' : List (Nat × DeviceId)} (more : notices ⊆ notices') :
    ∀ {t : Task}, t.Told notices → t.Told notices' := by
  intro t
  induction t with
  | destroying frame notify records opened todo =>
    exact fun told asked d among => (told asked d among).imp_right (more ·)
  | notifying frame notify records opened deviceId todo =>
    exact fun told asked d among => (told asked d among).imp_right (Or.imp_right (more ·))
  | reconciling deviceId todo next ih => exact ih
  | despawning client deviceId keepPort next ih => exact ih
  | _ => exact fun _ => trivial

theorem Inv.notify (inv : Inv s tasks but) {notices : List (Nat × DeviceId)} (more : s.notices ⊆ notices) :
    Inv { s with notices := notices } tasks but :=
  { inv with
    told := fun t among => (inv.told t among).mono more
    ended := fun e among asked d opened => more (inv.ended e among asked d opened)
    cleared := fun key gone => (inv.cleared key gone).beside rfl rfl rfl rfl }

theorem Inv.setSession (inv : Inv s tasks but) (owner : client ∈ s.clients) (deviceId : DeviceId) :
    Inv (s.setSession client deviceId) tasks but := by
  unfold State.setSession
  split_ifs
  · exact inv
  · refine inv.sessions fun entry among => ?_
    rcases List.mem_append.mp among with before | new
    · exact .inl before
    · cases List.mem_singleton.mp new
      exact .inr owner

theorem Inv.weaken (inv : Inv s tasks none) : Inv s tasks but :=
  { inv with attended := fun d listed => .inr ((inv.attended d listed).resolve_left (by simp)) }

theorem Inv.idle (inv : Inv s rest but) : Inv s (.finished :: rest) but := by
  refine { inv with attended := ?_, owned := ?_, spawned := ?_, cleared := ?_, told := ?_ }
  · exact fun d listed => (inv.attended d listed).imp_right .beside
  · intro entry held
    refine (inv.owned entry held).imp_right ?_
    rintro ⟨t,among,own⟩
    exact ⟨t,List.mem_cons_of_mem _ among,own⟩
  · simpa using inv.spawned
  · rintro key ⟨dead,passed⟩
    have before := inv.cleared key ⟨dead,fun t among => passed t (List.mem_cons_of_mem _ among)⟩
    refine before.running ?_ ?_
    · exact fun t among _ removes => ⟨t,List.mem_cons_of_mem _ among,removes⟩
    · intro t among generation spawns
      rcases List.mem_cons.mp among with rfl | among
      · cases spawns
      · exact ⟨t,among,spawns⟩
  · simpa using inv.told

theorem Inv.done (inv : Inv s (.finished :: rest) but) : Inv s rest but := by
  refine { inv with attended := ?_, owned := ?_, spawned := ?_, cleared := ?_, told := ?_ }
  · simpa [Attended] using inv.attended
  · simpa using inv.owned
  · exact fun t among => inv.spawned t (List.mem_cons_of_mem _ among)
  · rintro key ⟨dead,passed⟩
    have before := inv.cleared key ⟨dead,by simpa using passed⟩
    refine before.running ?_ ?_
    · intro t among keepPort removes
      rcases List.mem_cons.mp among with rfl | among
      · cases removes
      · exact ⟨t,among,removes⟩
    · exact fun t among _ spawns => ⟨t,List.mem_cons_of_mem _ among,spawns⟩
  · exact fun t among => inv.told t (List.mem_cons_of_mem _ among)

theorem Inv.follow (inv : Inv s (next :: rest) but) : Inv s (next.follow ++ rest) but := by
  by_cases ends : next = .finished
  · subst ends
    exact inv.done
  · have goes : next.follow = [next] := by
      cases next <;> simp [Task.follow] at ends ⊢
    rw [goes]
    exact inv

theorem ensureRuntimeDataPort_eq (s : State) (deviceId : DeviceId) : s.ensureRuntimeDataPort deviceId =
    { s with runtimeDataPorts :=
        if deviceId ∈ s.runtimeDataPorts then s.runtimeDataPorts else s.runtimeDataPorts ++ [deviceId] } := by
  unfold State.ensureRuntimeDataPort
  split_ifs <;> rfl

theorem Inv.ensure (inv : Inv s tasks none) (deviceId : DeviceId) :
    Inv (s.ensureRuntimeDataPort deviceId) tasks (some deviceId) := by
  unfold State.ensureRuntimeDataPort
  split_ifs
  · exact inv.weaken
  · refine { inv with attended := ?_, planePort := ?_, pendingPort := ?_, cleared := ?_ }
    · intro d listed
      rcases List.mem_append.mp listed with before | new
      · exact .inr ((inv.attended d before).resolve_left (by simp))
      · cases List.mem_singleton.mp new
        exact .inl rfl
    · intro key nm
      obtain ⟨d,listed,same⟩ := inv.planePort key nm
      exact ⟨d,List.mem_append_left _ listed,same⟩
    · exact fun p among => List.mem_append_left _ (inv.pendingPort p among)
    · exact fun key gone => (inv.cleared key gone).beside rfl rfl rfl rfl

theorem mem_ensure (s : State) (deviceId : DeviceId) :
    deviceId ∈ (s.ensureRuntimeDataPort deviceId).runtimeDataPorts := by
  unfold State.ensureRuntimeDataPort
  split_ifs with listed
  · exact listed
  · exact List.mem_append_right _ List.mem_cons_self

/-- The port that is still to be looked at need not be. -/
theorem Inv.attend (inv : Inv s tasks (some deviceId))
    (attended : deviceId ∈ s.runtimeDataPorts → Attended s tasks deviceId) : Inv s tasks none := by
  refine { inv with attended := ?_ }
  intro d listed
  rcases inv.attended d listed with same | before
  · cases same
    exact .inr (attended listed)
  · exact .inr before

/-- The port that is still to be looked at is looked at. -/
theorem Inv.maybe (inv : Inv s tasks (some deviceId)) : Inv (s.maybeDisconnectRuntimeDataPort deviceId) tasks none := by
  unfold State.maybeDisconnectRuntimeDataPort
  split_ifs with used
  · refine { inv with attended := ?_ }
    intro d listed
    rcases inv.attended d listed with same | attended
    · cases same
      exact .inr (.inl used)
    · exact .inr attended
  · have other {d : DeviceId} (listed : d ∈ s.runtimeDataPorts) (differs : d ≠ deviceId) :
        d ∈ s.runtimeDataPorts.filter (· ≠ deviceId) := List.mem_filter.mpr ⟨listed,by simpa using differs⟩
    refine { inv with attended := ?_, planePort := ?_, pendingPort := ?_, cleared := ?_ }
    · intro d listed
      obtain ⟨before,differs⟩ := List.mem_filter.mp listed
      rcases inv.attended d before with same | attended
      · cases same
        simp at differs
      · exact .inr attended
    · intro key nm
      obtain ⟨d,listed,same⟩ := inv.planePort key nm
      refine ⟨d,other listed ?_,same⟩
      rintro rfl
      exact used (inUse_iff.mpr (.inl ⟨key,nm,same.symm⟩))
    · intro p among
      refine other (inv.pendingPort p among) fun same => ?_
      exact used (inUse_iff.mpr (.inr (.inr ⟨p,among,same⟩)))
    · exact fun key gone => (inv.cleared key gone).beside rfl rfl rfl rfl

/-- A request for a transport of a plane is listed, or settled. -/
theorem Inv.listed (inv : Inv s tasks but) (entry : PlaneSpawn) (seq : Nat) (alive : entry.key.frame ∈ s.frameContexts)
    (known : 0 < (s.recordsOf entry.key).spawnGen) :
    Inv { s with planeReqSeq := seq, pendingPlaneSpawns := s.pendingPlaneSpawns ++ [entry] } tasks but := by
  refine { inv with spawnKnown := ?_, cleared := ?_ }
  · intro p among
    rcases List.mem_append.mp among with before | new
    · exact inv.spawnKnown p before
    · cases List.mem_singleton.mp new
      exact known
  · intro key gone
    refine (inv.cleared key gone).stays rfl (fun _ among _ => among) ?_ fun _ among _ => among
    intro p among same
    rcases List.mem_append.mp among with before | new
    · exact before
    · cases List.mem_singleton.mp new
      exact absurd alive (same ▸ gone.1)

theorem Inv.settle (inv : Inv s tasks but) (id : Nat) : Inv (s.settleSpawn id) tasks but := by
  refine { inv with spawnKnown := ?_, cleared := ?_ }
  · exact fun p among => inv.spawnKnown p (List.mem_of_mem_filter among)
  · intro key gone
    exact (inv.cleared key gone).stays rfl (fun _ among _ => among) (fun _ among _ => List.mem_of_mem_filter among)
      fun _ among _ => among

/-- An open gets its attempt. -/
theorem Inv.retain (inv : Inv s rest none) :
    Inv (s.retainNmOpenAttempt (planeKeyForClient client deviceId)) (.opening client deviceId true :: rest) none := by
  have begun : Inv s (.opening client deviceId false :: rest) none :=
    inv.idle.swap (by constructor <;> simp) rfl
  refine { begun with attempts := ?_, attended := ?_, owned := ?_, spawned := ?_, cleared := ?_, told := ?_ }
  · exact inv.attempts.cons _
  · intro d listed
    rcases inv.attended d listed with none_ | used | ⟨t,among,asks⟩
    · cases none_
    · refine .inr (.inl (inUse_iff.mpr ((inUse_iff.mp used).imp_right (Or.imp_left ?_))))
      rintro ⟨key,among,same⟩
      exact ⟨key,List.mem_cons_of_mem _ among,same⟩
    · exact .inr (.inr ⟨t,List.mem_cons_of_mem _ among,asks⟩)
  · exact fun entry held => (inv.owned entry held).imp_right fun ⟨t,among,own⟩ => ⟨t,List.mem_cons_of_mem _ among,own⟩
  · exact List.forall_mem_cons.mpr ⟨by simp,inv.spawned⟩
  · rintro key ⟨dead,passed⟩
    have before := inv.cleared key ⟨dead,by simpa using passed⟩
    refine (before.running ?_ ?_).beside rfl rfl rfl rfl
    · exact fun t among _ removes => ⟨t,List.mem_cons_of_mem _ among,removes⟩
    · intro t among generation spawns
      rcases List.mem_cons.mp among with rfl | among
      · cases spawns
      · exact ⟨t,among,spawns⟩
  · exact List.forall_mem_cons.mpr ⟨trivial,inv.told⟩

/-- A removal begins. What a destruction has come to is not due any more. -/
theorem Inv.despawn (inv : Inv s (t :: rest) but) (own : ∀ d, but = some d → d = deviceId)
    (attempt : next.attempt = t.attempt) (asks : ∀ d, t.asks = some d → d = deviceId)
    (due : ∀ key ∈ t.due, key ∈ next.due ∨ key = planeKeyForClient client deviceId ∧ keepPort = false)
    (removes : t.removes = none)
    (spawns : ∀ k generation, next.spawns = some (k,generation) → t.spawns = some (k,generation))
    (clears : t.clears ⊆ next.clears) (told : t.Told s.notices → next.Told s.notices) :
    Inv (s.despawnHead (planeKeyForClient client deviceId)) (.despawning client deviceId keepPort next :: rest)
      none := by
  let key := planeKeyForClient client deviceId
  have records (other : Key) : (s.despawnHead key).recordsOf other =
      if other = key then (s.recordsOf key).despawnHead else s.recordsOf other := recordsOf_record s key _ other
  have nm (other : Key) : ((s.despawnHead key).recordsOf other).nmPlanes = (s.recordsOf other).nmPlanes := by
    rw [records]
    split
    next here => rw [here]; rfl
    · rfl
  have grown (other : Key) : (s.recordsOf other).spawnGen ≤ ((s.despawnHead key).recordsOf other).spawnGen := by
    rw [records]
    split
    next here => rw [here]; exact Nat.le_succ _
    · exact Nat.le_refl _
  have unwaited (r : Records) (before : ∀ generation, r.pendingPlaneReady = some generation → generation ≤ r.spawnGen) :
      r.despawnHead.pendingPlaneReady = none := by
    refine Option.filter_eq_none_iff.mpr fun generation waits => ?_
    have bound := before generation waits
    simp
    omega
  have bound : ∀ other ∈ .despawning client deviceId keepPort next :: rest, ∀ k generation,
      other.spawns = some (k,generation) → 0 < (s.recordsOf k).spawnGen ∧ generation ≤ (s.recordsOf k).spawnGen := by
    refine List.forall_mem_cons.mpr ⟨fun k generation same => ?_,fun other among => ?_⟩
    · exact inv.spawned t List.mem_cons_self k generation (spawns k generation same)
    · exact inv.spawned other (List.mem_cons_of_mem _ among)
  refine { inv with
    attempts := ?_
    attended := ?_
    planePort := ?_
    owned := ?_
    pendingKnown := ?_
    spawnKnown := ?_
    spawned := ?_
    waiting := ?_
    cleared := ?_
    told := ?_ }
  · have attempts := inv.attempts
    rw [List.filterMap_cons] at attempts ⊢
    simp only [Task.attempt,attempt]
    exact attempts
  · intro d listed
    rcases inv.attended d listed with here | used | ⟨other,among,same⟩
    · rw [own d here]
      exact .inr (.inr ⟨_,List.mem_cons_self,rfl⟩)
    · refine .inr (.inl (inUse_iff.mpr ((inUse_iff.mp used).imp_left ?_)))
      rintro ⟨other,held,same⟩
      exact ⟨other,(nm other).trans held,same⟩
    · rcases List.mem_cons.mp among with rfl | among
      · rw [asks d same]
        exact .inr (.inr ⟨_,List.mem_cons_self,rfl⟩)
      · exact .inr (.inr ⟨other,List.mem_cons_of_mem _ among,same⟩)
  · exact fun other held => inv.planePort other ((nm other).symm.trans held)
  · intro entry held
    refine (inv.owned entry held).imp_right ?_
    rintro ⟨other,among,own⟩
    rcases List.mem_cons.mp among with rfl | among
    · exact ⟨_,List.mem_cons_self,clears own⟩
    · exact ⟨other,List.mem_cons_of_mem _ among,own⟩
  · exact fun p among => (inv.pendingKnown p among).imp_left fun known => Nat.lt_of_lt_of_le known (grown _)
  · exact fun p among => Nat.lt_of_lt_of_le (inv.spawnKnown p among) (grown _)
  · intro other among k generation same
    obtain ⟨known,before⟩ := bound other among k generation same
    exact ⟨Nat.lt_of_lt_of_le known (grown _),Nat.le_trans before (grown _)⟩
  · intro other generation waits
    rw [records] at waits ⊢
    split at waits
    · rw [unwaited _ (inv.waiting key)] at waits
      cases waits
    next elsewhere =>
      rw [if_neg elsewhere]
      exact inv.waiting other generation waits
  · rintro other ⟨dead,passed⟩
    have free : other ∉ next.due := passed (.despawning client deviceId keepPort next) List.mem_cons_self
    have others : ∀ t' ∈ rest, other ∉ t'.due := fun t' among => passed t' (List.mem_cons_of_mem _ among)
    have gone (stays : other = key → keepPort = true) : Gone s (t :: rest) other := by
      refine ⟨dead,List.forall_mem_cons.mpr ⟨fun inside => ?_,others⟩⟩
      rcases due other inside with still | ⟨here,drops⟩
      · exact free still
      · rw [stays here] at drops
        cases drops
    by_cases here : other = key
    · subst here
      refine ⟨?_,fun absent => ?_,fun absent => ?_,?_⟩
      · rw [records,if_pos rfl]
        exact ⟨rfl,rfl,rfl,unwaited _ (inv.waiting key),rfl⟩
      · exact absurd rfl (absent _ List.mem_cons_self keepPort)
      · cases keepPort with
        | false => exact absurd rfl (absent _ List.mem_cons_self)
        | true =>
          refine (inv.cleared key (gone fun _ => rfl)).ports (List.forall_mem_cons.mpr ⟨by rw [removes]; simp,?_⟩)
          exact fun t' among => absent t' (List.mem_cons_of_mem _ among)
      · intro t' among generation same
        rw [records,if_pos rfl]
        exact Nat.lt_succ_of_le (bound t' among key generation same).2
    · refine (inv.cleared other (gone fun same => absurd same here)).congr ?_ (fun _ among _ => among)
        (fun _ among _ => among) (fun _ among _ => among) ?_ ?_
      · rw [records,if_neg here]
      · refine List.forall_mem_cons.mpr ⟨by rw [removes]; simp,fun t' among keepPort same => ?_⟩
        exact ⟨t',List.mem_cons_of_mem _ among,same⟩
      · refine List.forall_mem_cons.mpr ⟨fun generation same => ?_,fun t' among generation same => ?_⟩
        · exact ⟨t,List.mem_cons_self,spawns other generation same⟩
        · exact ⟨t',List.mem_cons_of_mem _ among,same⟩
  · exact List.forall_mem_cons.mpr ⟨told (inv.told t List.mem_cons_self),
      fun other among => inv.told other (List.mem_cons_of_mem _ among)⟩

/-- A port is in use without the plane and the requests of a key. -/
def UsedBesides (s : State) (key : Key) (d : DeviceId) : Prop :=
  (∃ k ∈ s.nmPlanes, k ≠ key ∧ k.device = d.text) ∨ (∃ k ∈ s.nmOpenAttempts, k.device = d.text) ∨
    ∃ p ∈ s.dataPending, p.key ≠ key ∧ p.deviceId = d

/-- The removal of a plane ends the use of no port but the one that it asks for, as far
    as no other task will look at that port. -/
def OwnPort (s : State) (rest : List Task) (client : Client) (deviceId : DeviceId) : Prop :=
  ∀ d ∈ s.runtimeDataPorts, d.text = deviceId.text → d = deviceId ∨
    UsedBesides s (planeKeyForClient client deviceId) d ∨ ∃ t ∈ rest, t.asks = some d

/-- A removal ends. -/
theorem Inv.despawned (inv : Inv s (.despawning client deviceId keepPort next :: rest) none)
    (own : OwnPort s rest client deviceId) :
    Inv (s.despawnTail (planeKeyForClient client deviceId) deviceId keepPort) (next :: rest) none := by
  let key := planeKeyForClient client deviceId
  let tail (r : Records) : Records := { r with toPlane := r.toPlane.despawnEnd }
  let s₁ : State := { s.record key tail with
    dataPorts := if keepPort then s.dataPorts else s.dataPorts.filter (·.key ≠ key)
    dataPending := s.dataPending.filter (·.key ≠ key)
    pendingPlaneSpawns := s.pendingPlaneSpawns.filter (·.key ≠ key) }
  change Inv (s₁.maybeDisconnectRuntimeDataPort deviceId) (next :: rest) none
  apply Inv.maybe
  have here : s₁.recordsOf key = tail (s.recordsOf key) := recordsOf_record_self s key tail
  have elsewhere {other : Key} (differs : other ≠ key) : s₁.recordsOf other = s.recordsOf other :=
    recordsOf_record_ne s tail differs
  have same_ (other : Key) : (s₁.recordsOf other).spawnGen = (s.recordsOf other).spawnGen ∧
      (s₁.recordsOf other).pendingPlaneReady = (s.recordsOf other).pendingPlaneReady := by
    by_cases same : other = key
    · rw [same,here]
      exact ⟨rfl,rfl⟩
    · rw [elsewhere same]
      exact ⟨rfl,rfl⟩
  have ports {port : DataPort} (among : port ∈ s.dataPorts) (other : port.key ≠ key) :
      port ∈ if keepPort then s.dataPorts else s.dataPorts.filter (·.key ≠ key) := by
    split
    · exact among
    · exact List.mem_filter.mpr ⟨among,by simpa using other⟩
  have fewer {port : DataPort} (among : port ∈ if keepPort then s.dataPorts else s.dataPorts.filter (·.key ≠ key)) :
      port ∈ s.dataPorts := by
    split at among
    · exact among
    · exact List.mem_of_mem_filter among
  have pending {p : Pending} (among : p ∈ s.dataPending.filter (·.key ≠ key)) : p ∈ s.dataPending ∧ p.key ≠ key := by
    simpa using List.mem_filter.mp among
  refine
    { attempts := inv.attempts
      attended := ?_
      planePort := ?_
      pendingPort := fun p among => inv.pendingPort p (pending among).1
      pendingNamed := fun p among => inv.pendingNamed p (pending among).1
      portNamed := fun port among => inv.portNamed port (fewer among)
      alive := inv.alive
      owned := ?_
      pendingKnown := ?_
      spawnKnown := ?_
      spawned := ?_
      waiting := ?_
      cleared := ?_
      told := ?_
      ended := inv.ended }
  · intro d listed
    by_cases asked : d = deviceId
    · exact .inl (congrArg some asked.symm)
    right
    have used (besides : UsedBesides s key d ∨ ∃ t ∈ rest, t.asks = some d) : Attended s₁ (next :: rest) d := by
      rcases besides with (⟨k,held,other,same⟩ | attempt | ⟨p,among,other,same⟩) | ⟨t,among,asks⟩
      · refine .inl (inUse_iff.mpr (.inl ⟨k,?_,same⟩))
        rw [elsewhere other]
        exact mem_nmPlanes.mp held
      · exact .inl (inUse_iff.mpr (.inr (.inl attempt)))
      · exact .inl (inUse_iff.mpr (.inr (.inr ⟨p,List.mem_filter.mpr ⟨among,by simpa using other⟩,same⟩)))
      · exact .inr ⟨t,List.mem_cons_of_mem _ among,asks⟩
    apply used
    by_cases text : d.text = deviceId.text
    · exact (own d listed text).resolve_left asked
    · rcases inv.attended d listed with none_ | inUse | ⟨t,among,asks⟩
      · cases none_
      · left
        rcases inUse_iff.mp inUse with ⟨k,held,same⟩ | attempt | ⟨p,among,same⟩
        · refine .inl ⟨k,mem_nmPlanes.mpr held,?_,same⟩
          rintro rfl
          exact text same.symm
        · exact .inr (.inl attempt)
        · refine .inr (.inr ⟨p,among,fun here => text ?_,same⟩)
          rw [← same,← inv.pendingNamed p among,here]
          rfl
      · rcases List.mem_cons.mp among with rfl | among
        · exact absurd (Option.some.inj asks).symm asked
        · exact .inr ⟨t,among,asks⟩
  · intro other held
    by_cases same : other = key
    · rw [same,here] at held
      cases held
    · rw [elsewhere same] at held
      exact inv.planePort other held
  · intro entry held
    refine (inv.owned entry held).imp_right ?_
    rintro ⟨t,among,own⟩
    rcases List.mem_cons.mp among with rfl | among
    · exact ⟨next,List.mem_cons_self,own⟩
    · exact ⟨t,List.mem_cons_of_mem _ among,own⟩
  · intro p among
    obtain ⟨before,other⟩ := pending among
    rcases inv.pendingKnown p before with known | ⟨port,listed,same⟩
    · left
      rw [(same_ p.key).1]
      exact known
    · exact .inr ⟨port,ports listed (same ▸ other),same⟩
  · intro p among
    rw [(same_ p.key).1]
    exact inv.spawnKnown p (List.mem_of_mem_filter among)
  · intro t among k generation spawns
    rw [(same_ k).1]
    rcases List.mem_cons.mp among with rfl | among
    · exact inv.spawned _ List.mem_cons_self k generation spawns
    · exact inv.spawned t (List.mem_cons_of_mem _ among) k generation spawns
  · intro other generation waits
    rw [(same_ other).1]
    exact inv.waiting other generation ((same_ other).2.symm.trans waits)
  · rintro other ⟨dead,passed⟩
    have gone : Gone s (.despawning client deviceId keepPort next :: rest) other := by
      refine ⟨dead,List.forall_mem_cons.mpr ⟨passed next List.mem_cons_self,fun t among => ?_⟩⟩
      exact passed t (List.mem_cons_of_mem _ among)
    have before := inv.cleared other gone
    have stale : ∀ t ∈ next :: rest, ∀ generation, t.spawns = some (other,generation) →
        ∃ t' ∈ .despawning client deviceId keepPort next :: rest, t'.spawns = some (other,generation) := by
      refine List.forall_mem_cons.mpr ⟨fun generation spawns => ?_,fun t among generation spawns => ?_⟩
      · exact ⟨_,List.mem_cons_self,spawns⟩
      · exact ⟨t,List.mem_cons_of_mem _ among,spawns⟩
    by_cases same : other = key
    · subst same
      refine ⟨?_,fun _ => ?_,fun free => ?_,?_⟩
      · rw [here]
        exact before.head
      · refine ⟨?_,fun p among => (pending among).2,fun p among => by simpa using (List.mem_filter.mp among).2⟩
        rw [here]
        simp [tail,Plane.despawnEnd,before.head]
      · intro port among
        by_cases kept : keepPort = true
        · refine before.ports ?_ port (fewer among)
          exact List.forall_mem_cons.mpr ⟨by simp [kept],fun t member => free t (List.mem_cons_of_mem _ member)⟩
        · have dropped : port ∈ if keepPort then s.dataPorts else s.dataPorts.filter (·.key ≠ key) := among
          rw [if_neg kept] at dropped
          simpa using (List.mem_filter.mp dropped).2
      · intro t among generation spawns
        obtain ⟨t',member,was⟩ := stale t among generation spawns
        rw [(same_ key).1]
        exact before.stale t' member generation was
    · refine before.congr (elsewhere same) (fun p among _ => (pending among).1)
        (fun _ among _ => List.mem_of_mem_filter among) (fun _ among _ => fewer among) ?_ stale
      refine List.forall_mem_cons.mpr ⟨fun keep removes => ?_,fun t among keep removes => ?_⟩
      · cases removes
        exact absurd rfl same
      · exact ⟨t,List.mem_cons_of_mem _ among,removes⟩
  · exact List.forall_mem_cons.mpr ⟨inv.told (.despawning client deviceId keepPort next) List.mem_cons_self,
      fun t among => inv.told t (List.mem_cons_of_mem _ among)⟩

end Moves

end FFWebHid.RuntimePorts
