import FFWebHid.RuntimePortInvariant

/-!
What holds of the runtime data ports in every run of a bridge, and what is left of a frame
that was destroyed. Each of the functions keeps the invariant where it does not meet one of
a few situations, in which a port is left behind, a plane without its port, or a record.
-/
namespace FFWebHid.RuntimePorts
open FFWebHid.Maps FFWebHid.Runs FFWebHid.Planes FFWebHid.Cooperative
open FFWebHid.PlaneGenerations (Start)

/-- The invariant holds of what a function leaves, beside the tasks that were there. -/
def Holds (rest : List Task) (done : State × List Task) : Prop := Inv done.1 (done.2 ++ rest) none

/-- A task holds nothing but an attempt. -/
structure Task.Retains (t : Task) (attempt : Option Key) : Prop where
  attempt : t.attempt = attempt
  asks : t.asks = none
  due : t.due = []
  removes : t.removes = none
  clears : t.clears = []

theorem finished_retains : Task.finished.Retains none := ⟨rfl,rfl,rfl,rfl,rfl⟩

section
variable {s : State} {t t' : Task} {rest : List Task} {but : Option DeviceId} {attempt : Option Key} {caller : Caller}
  {client : Client} {deviceId : DeviceId} {generation : Nat} {accepted : Bool}

theorem Task.Retains.replaces (only : t.Retains attempt) (spawns : t'.spawns = none) (told : t'.Told s.notices) :
    t.Replaces s rest t' where
  asks := by rw [only.asks]; simp
  due := by rw [only.due]; simp
  removes := by rw [only.removes]; simp
  spawns := by simp [spawns]
  clears := by rw [only.clears]; simp
  told := fun _ => told

/-- What a caller goes on with retains its attempt, and sets nothing up itself. -/
theorem next_spawns : (caller.next client deviceId accepted).spawns = none := by
  cases caller <;> rfl

theorem next_told (notices : List (Nat × DeviceId)) : (caller.next client deviceId accepted).Told notices := by
  cases caller <;> trivial

theorem Inv.give (inv : Inv s (t :: rest) none)
    (only : t.Retains (caller.attempt (planeKeyForClient client deviceId))) :
    Holds rest (s,(caller.next client deviceId accepted).follow) :=
  (inv.swap (only.replaces next_spawns (next_told _)) ((next_attempt ..).trans only.attempt.symm)).follow

theorem Records.Grows.refl (r : Records) : r.Grows r := ⟨id,Nat.le_refl _,fun _ => .inl⟩

theorem Records.Grows.trans {r r' r'' : Records} (first : r.Grows r') (second : r'.Grows r'') : r.Grows r'' where
  nmPlanes := fun nm => second.nmPlanes (first.nmPlanes nm)
  spawnGen := Nat.le_trans first.spawnGen second.spawnGen
  waiting := by
    intro generation waits
    rcases second.waiting generation waits with before | now
    · exact (first.waiting generation before).imp_right fun bound => Nat.le_trans bound second.spawnGen
    · exact .inr now

theorem beginPlaneGeneration_grows (r : Records) : r.Grows r.beginPlaneGeneration where
  nmPlanes := id
  spawnGen := Nat.le_succ _
  waiting := fun _ waits => .inl (Option.filter_eq_some_iff.mp waits).1

@[simp] theorem markPlanePrerequisite_spawnGen (r : Records) (generation : Nat) (prerequisite : Prerequisite) :
    (r.markPlanePrerequisite generation prerequisite).spawnGen = r.spawnGen := by
  simp only [Records.markPlanePrerequisite,Plane.markPlanePrerequisite]
  split <;> rfl

@[simp] theorem markPlanePrerequisite_nmPlanes (r : Records) (generation : Nat) (prerequisite : Prerequisite) :
    (r.markPlanePrerequisite generation prerequisite).nmPlanes = r.nmPlanes := by
  simp only [Records.markPlanePrerequisite,Plane.markPlanePrerequisite]
  split <;> rfl

theorem markPlanePrerequisite_grows (r : Records) (generation : Nat) (prerequisite : Prerequisite) :
    r.Grows (r.markPlanePrerequisite generation prerequisite) where
  nmPlanes := by simp
  spawnGen := by simp
  waiting := by
    intro other waits
    simp only [Records.markPlanePrerequisite] at waits
    split at waits
    · exact .inl (Option.filter_eq_some_iff.mp waits).1
    · exact .inl waits

theorem fallbackNm_grows (generation : Nat) (r : Records) : r.Grows (r.fallbackNm generation) := by
  have added : r.Grows { r with nmPlanes := true, deviceTransports := none } :=
    ⟨fun _ => rfl,Nat.le_refl _,fun _ => .inl⟩
  exact added.trans (markPlanePrerequisite_grows _ _ _)

theorem fallbackNm_nmPlanes (generation : Nat) (r : Records) : (r.fallbackNm generation).nmPlanes = true := by
  rw [Records.fallbackNm,markPlanePrerequisite_nmPlanes]

theorem fallbackNm_spawnGen (generation : Nat) (r : Records) : (r.fallbackNm generation).spawnGen = r.spawnGen := by
  rw [Records.fallbackNm,markPlanePrerequisite_spawnGen]

theorem openNm_grows (r : Records) : r.Grows r.openNm := by
  have added : r.Grows { r.beginPlaneGeneration with nmPlanes := true } :=
    (beginPlaneGeneration_grows r).trans ⟨fun _ => rfl,Nat.le_refl _,fun _ => .inl⟩
  exact added.trans (markPlanePrerequisite_grows _ _ _)

theorem openNm_nmPlanes (r : Records) : r.openNm.nmPlanes = true := by
  rw [Records.openNm,markPlanePrerequisite_nmPlanes]

theorem switchNm_grows (r : Records) : r.Grows r.switchNm := by
  have added : r.Grows { r with nmPlanes := true } := ⟨fun _ => rfl,Nat.le_refl _,fun _ => .inl⟩
  exact added.trans (markPlanePrerequisite_grows _ _ _)

theorem switchNm_nmPlanes (r : Records) : r.switchNm.nmPlanes = true := by
  rw [Records.switchNm,markPlanePrerequisite_nmPlanes]

theorem markPlaneReady_grows (r : Records) : r.Grows (r.markPlaneReady generation) :=
  (markPlanePrerequisite_grows r _ _).trans (markPlanePrerequisite_grows _ _ _)

theorem dropWorker_grows (r : Records) : r.Grows r.dropWorker where
  nmPlanes := by simp only [Records.dropWorker,Plane.dropWorker]; split <;> exact id
  spawnGen := by simp only [Records.dropWorker,Plane.dropWorker]; split <;> exact Nat.le_refl _
  waiting := fun _ => .inl

theorem gone_absurd {key : Key} {tasks : List Task} {Q : Prop} (alive : key.frame ∈ s.frameContexts) :
    Gone s tasks key → Q := fun gone => absurd alive gone.1

theorem requestFallback_holds {rewire : Bool} (inv : Inv s (t :: rest) none)
    (only : t.Retains (caller.attempt (planeKeyForClient client deviceId))) :
    Holds rest (s.requestFallback client deviceId generation rewire caller) := by
  unfold State.requestFallback
  split_ifs
  · exact inv.give only
  · have asking : Inv s (.requesting client deviceId generation rewire caller :: rest) none :=
      inv.swap (only.replaces rfl trivial) only.attempt.symm
    exact (asking.ensure deviceId).attend fun _ => .inr ⟨_,List.mem_cons_self,rfl⟩

theorem failFallback_holds {own : Nat} {rewire : Bool}
    (inv : Inv s (.requesting client deviceId own rewire caller :: rest) none)
    (kept : (s.recordsOf (planeKeyForClient client deviceId)).spawnGen ≠ generation →
      deviceId ∈ s.runtimeDataPorts → Attended s rest deviceId) :
    Holds rest (s.failFallback client deviceId generation caller) := by
  unfold State.failFallback
  split_ifs with newest
  · exact inv.despawn (by simp) (next_attempt ..) (by simp) (by simp) rfl (by simp [next_spawns]) (by simp)
      fun _ => next_told _
  · have like : (Task.requesting client deviceId own rewire caller).Replaces s rest
        (caller.next client deviceId false) := by
      refine ⟨?_,by simp,by simp,by simp [next_spawns],by simp,fun _ => next_told _⟩
      rintro d listed ⟨⟩
      exact .inr (kept newest listed)
    exact (inv.swap like (next_attempt ..)).follow

theorem grantFallback_holds {rewire wired : Bool}
    (inv : Inv s (.requesting client deviceId generation rewire caller :: rest) none)
    (kept : (s.recordsOf (planeKeyForClient client deviceId)).spawnGen ≠ generation →
      deviceId ∈ s.runtimeDataPorts → Attended s rest deviceId)
    (ported : client.frame ∈ s.frameContexts → (s.recordsOf (planeKeyForClient client deviceId)).spawnGen = generation →
      ∃ d ∈ s.runtimeDataPorts, d.text = deviceId.text) :
    Holds rest (s.grantFallback client deviceId generation rewire caller wired) := by
  unfold State.grantFallback
  simp only
  let key := planeKeyForClient client deviceId
  by_cases late : client.frame ∉ s.frameContexts ∨ (s.recordsOf key).spawnGen ≠ generation
  · rw [if_pos late]
    exact failFallback_holds inv kept
  · rw [if_neg late]
    obtain ⟨alive,newest⟩ := not_or.mp late
    rw [not_not] at alive newest
    have here : (s.record key (·.fallbackNm generation)).recordsOf key = (s.recordsOf key).fallbackNm generation :=
      recordsOf_record_self s key _
    have added : Inv (s.record key (·.fallbackNm generation))
        (.requesting client deviceId generation rewire caller :: rest) none :=
      inv.record (fallbackNm_grows generation _) (fun _ => .inr (ported alive newest)) (gone_absurd alive)
    split_ifs
    · refine failFallback_holds added fun older => absurd ?_ older
      exact (congrArg (fun r : Records => r.spawnGen) here).trans ((fallbackNm_spawnGen ..).trans newest)
    · have like : (Task.requesting client deviceId generation rewire caller).Replaces
          (s.record key (·.fallbackNm generation)) rest (caller.next client deviceId true) := by
        refine ⟨?_,by simp,by simp,by simp [next_spawns],by simp,fun _ => next_told _⟩
        rintro d _ ⟨⟩
        refine .inr (.inl (inUse_iff.mpr (.inl ⟨key,?_,rfl⟩)))
        exact (congrArg (fun r : Records => r.nmPlanes) here).trans (fallbackNm_nmPlanes ..)
      exact (added.swap like (next_attempt ..)).follow

/-- A transport is set up for a generation that is begun. -/
theorem Inv.setUp (inv : Inv s (t :: rest) none) (only : t.Retains attempt) (same : t'.attempt = attempt)
    (told : t'.Told s.notices) {key : Key} (spawns : t'.spawns = some (key,generation))
    (alive : key.frame ∈ s.frameContexts) (begun : 0 < generation) (bound : generation ≤ (s.recordsOf key).spawnGen) :
    Inv s (t' :: rest) none := by
  refine inv.swap ⟨?_,?_,?_,?_,?_,fun _ => told⟩ (same.trans only.attempt.symm)
  · rw [only.asks]; simp
  · rw [only.due]; simp
  · rw [only.removes]; simp
  · intro other later setUp
    rw [spawns] at setUp
    cases setUp
    exact .inr ⟨alive,Nat.lt_of_lt_of_le begun bound,bound⟩
  · rw [only.clears]; simp

theorem spawnDataPlane_holds {start : Start} {rewire : Bool} (inv : Inv s (t :: rest) none)
    (only : t.Retains (caller.attempt (planeKeyForClient client deviceId))) (alive : client.frame ∈ s.frameContexts) :
    Holds rest (s.spawnDataPlane client deviceId start rewire caller) := by
  let key := planeKeyForClient client deviceId
  let begun := s.record key Records.beginPlaneGeneration
  have before : Inv begun (t :: rest) none := inv.record (beginPlaneGeneration_grows _) .inl (gone_absurd alive)
  have positive : 0 < (begun.recordsOf key).spawnGen := by
    rw [recordsOf_record_self]
    exact Nat.succ_pos _
  cases start with
  | nm => exact before.give only
  | inPage => exact before.setUp only rfl trivial rfl alive positive (Nat.le_refl _)
  | worker kind =>
    have dropped : Inv (begun.record key Records.dropWorker) (t :: rest) none := by
      refine before.record (dropWorker_grows _) (fun nm => .inl ?_) (gone_absurd alive)
      simp only [Records.dropWorker,Plane.dropWorker] at nm
      split at nm <;> exact nm
    refine dropped.setUp only rfl trivial rfl alive positive ?_
    rw [recordsOf_record_self begun]
    exact (dropWorker_grows _).spawnGen

theorem spawnFailed_holds {rewire : Bool} (inv : Inv s (t :: rest) none)
    (only : t.Retains (caller.attempt (planeKeyForClient client deviceId))) :
    Holds rest (s.spawnFailed client deviceId generation rewire caller) := by
  unfold State.spawnFailed
  split_ifs
  · exact requestFallback_holds inv only
  · exact inv.give only

theorem workerSpawned_holds {kind : Lifecycle.TransportKind} {rewire : Bool}
    (inv : Inv s (.spawning client deviceId generation kind rewire caller :: rest) none) :
    Holds rest (s.workerSpawned client deviceId generation kind caller) := by
  have only : (Task.spawning client deviceId generation kind rewire caller).Retains
      (caller.attempt (planeKeyForClient client deviceId)) := ⟨rfl,rfl,rfl,rfl,rfl⟩
  unfold State.workerSpawned
  simp only
  split_ifs with newest
  · exact inv.give only
  · refine Inv.give (inv.record ⟨id,Nat.le_refl _,fun _ => .inl⟩ .inl fun gone => ?_) only
    have stale := (inv.cleared _ gone).stale _ List.mem_cons_self generation rfl
    exact absurd (not_not.mp newest) (Nat.ne_of_gt stale)

theorem connectInPage_holds {rewire : Bool}
    (inv : Inv s (.hashing client deviceId generation rewire caller :: rest) none)
    (alive : client.frame ∈ s.frameContexts) :
    Holds rest (s.connectInPage client deviceId generation rewire caller) := by
  let key := planeKeyForClient client deviceId
  have known := (inv.spawned _ List.mem_cons_self key generation rfl).1
  have added : Inv (s.record key fun r => { r with inPageDevices := true })
      (.hashing client deviceId generation rewire caller :: rest) none :=
    inv.record ⟨id,Nat.le_refl _,fun _ => .inl⟩ .inl (gone_absurd alive)
  have listed := added.listed ⟨s.planeReqSeq,key⟩ (s.planeReqSeq + 1) alive (by
    rw [recordsOf_record_self]
    exact known)
  exact listed.swap (by constructor <;> simp) rfl

/-- What throws while a plane is set up leaves the port of its own device to the removal. -/
theorem spawnThrown_holds (inv : Inv s (t :: rest) none)
    (only : t.Retains (caller.attempt (planeKeyForClient client deviceId)))
    (kept : caller = .opening true → ∀ d ∈ s.runtimeDataPorts, d.text = deviceId.text →
      d = deviceId ∨ Attended (s.releaseNmOpenAttempt (planeKeyForClient client deviceId)) rest d) :
    Holds rest (s.spawnThrown client deviceId caller) := by
  cases caller with
  | nobody =>
    have ends : t.Replaces s rest .finished := only.replaces rfl trivial
    exact (inv.swap ends only.attempt.symm).done
  | opening attempt =>
    have like : t.Replaces s rest (.cleaning client deviceId false) := only.replaces rfl trivial
    have released : Inv (s.release attempt (planeKeyForClient client deviceId))
        (.cleaning client deviceId false :: rest) (some deviceId) := by
      cases attempt with
      | false => exact (inv.swap like only.attempt.symm).weaken
      | true =>
        refine inv.release like only.attempt rfl fun d listed text => ?_
        exact (kept rfl d listed text).imp (fun same => congrArg some same.symm) .beside
    exact (released.deleteSession ..).despawn (by simp) rfl (by simp) (by simp) rfl (by simp) (by simp) fun _ => trivial

theorem openRequest_holds {nm : Bool} {done : State × List Task} (inv : Inv s rest none)
    (taken : s.openRequest client deviceId nm = some done) : Holds rest done := by
  unfold State.openRequest at taken
  simp only at taken
  split_ifs at taken
  · cases taken
    let key := planeKeyForClient client deviceId
    have held : Inv (s.retainNmOpenAttempt key) (.opening client deviceId true :: rest) none := inv.retain
    rw [ensureRuntimeDataPort_eq]
    have listed := held.ensure deviceId
    rw [ensureRuntimeDataPort_eq] at listed
    exact listed.attend fun _ => .inl (inUse_iff.mpr (.inr (.inl ⟨key,List.mem_cons_self,rfl⟩)))
  · cases taken
    exact inv.idle.swap (finished_retains.replaces rfl trivial) rfl

theorem record_ensure (key : Key) (f : Records → Records) :
    (s.record key f).ensureRuntimeDataPort deviceId = (s.ensureRuntimeDataPort deviceId).record key f := by
  rw [ensureRuntimeDataPort_eq,ensureRuntimeDataPort_eq]
  rfl

/-- An NM plane is recorded with its port. -/
theorem Inv.addNm {tasks : List Task} {f : Records → Records} (inv : Inv s tasks none)
    (alive : client.frame ∈ s.frameContexts) (grows : ∀ r, Records.Grows r (f r)) (nm : ∀ r, (f r).nmPlanes = true) :
    Inv ((s.ensureRuntimeDataPort deviceId).record (planeKeyForClient client deviceId) f) tasks none := by
  let key := planeKeyForClient client deviceId
  have ported : ∃ d ∈ (s.ensureRuntimeDataPort deviceId).runtimeDataPorts, d.text = key.device :=
    ⟨deviceId,mem_ensure s deviceId,rfl⟩
  have added : Inv ((s.ensureRuntimeDataPort deviceId).record key f) tasks (some deviceId) := by
    refine (inv.ensure deviceId).record (grows _) (fun _ => .inr ported) (gone_absurd ?_)
    rw [ensureRuntimeDataPort_eq]
    exact alive
  refine added.attend fun _ => .inl (inUse_iff.mpr (.inl ⟨key,?_,rfl⟩))
  rw [recordsOf_record_self]
  exact nm _

theorem handleOpenSuccess_holds {attempt : Bool} {start : Start}
    (inv : Inv s (.opening client deviceId attempt :: rest) none) :
    Holds rest (s.handleOpenSuccess client deviceId attempt start) := by
  have only : (Task.opening client deviceId attempt).Retains (retained attempt (planeKeyForClient client deviceId)) :=
    ⟨rfl,rfl,rfl,rfl,rfl⟩
  have owner (found : ¬(client ∉ s.clients ∨ client.frame ∉ s.frameContexts)) : client ∈ s.clients :=
    not_not.mp (not_or.mp found).1
  have alive (found : ¬(client ∉ s.clients ∨ client.frame ∉ s.frameContexts)) :
      client.frame ∈ (s.setSession client deviceId).frameContexts := by
    unfold State.setSession
    split_ifs <;> exact not_not.mp (not_or.mp found).2
  unfold State.handleOpenSuccess
  simp only
  split_ifs with lost nm
  · exact inv.swap (only.replaces rfl trivial) rfl
  · rw [record_ensure]
    have opened := inv.setSession (owner lost) deviceId
    exact (opened.addNm (alive lost) openNm_grows openNm_nmPlanes).swap (only.replaces rfl trivial) rfl
  · exact spawnDataPlane_holds (inv.setSession (owner lost) deviceId) only (alive lost)

/-- A port whose device a client has not open is looked at by `discardFailedOpenDataPort`. -/
theorem Inv.discard {tasks : List Task} (inv : Inv s tasks (some deviceId))
    (kept : (s.sessionOwner client,deviceId) ∈ s.sessions → deviceId ∈ s.runtimeDataPorts → Attended s tasks deviceId) :
    Inv (s.discardFailedOpenDataPort client deviceId) tasks none := by
  unfold State.discardFailedOpenDataPort
  split_ifs with held
  · refine inv.attend fun listed => ?_
    rcases held with session | attempt
    · exact kept session listed
    · exact .inl (inUse_iff.mpr (.inr (.inl ⟨_,attempt,rfl⟩)))
  · exact inv.maybe

/-- Once an attempt is released, every port of its device is in use, or a task will look
    at it, but for ports that `Else` says are looked at now. -/
def Spared (s : State) (rest : List Task) (client : Client) (deviceId : DeviceId) (Else : DeviceId → Prop) : Prop :=
  ∀ d ∈ s.runtimeDataPorts, d.text = deviceId.text →
    Else d ∨ Attended (s.releaseNmOpenAttempt (planeKeyForClient client deviceId)) rest d

theorem Inv.released {attempt : Bool} (inv : Inv s (t :: rest) none)
    (only : t.Retains (retained attempt (planeKeyForClient client deviceId)))
    (kept : attempt = true → Spared s rest client deviceId fun d => but = some d) :
    Inv (s.release attempt (planeKeyForClient client deviceId)) rest but := by
  have like : t.Replaces s rest .finished := only.replaces rfl trivial
  cases attempt with
  | false => exact (inv.swap like only.attempt.symm).done.weaken
  | true =>
    refine Inv.done (inv.release like only.attempt rfl fun d listed text => ?_)
    exact (kept rfl d listed text).imp_right .beside

theorem openDone_holds {attempt : Bool} (inv : Inv s (.opened client deviceId attempt accepted :: rest) none)
    (kept : attempt = true → accepted = true → Spared s rest client deviceId fun _ => False) :
    Holds rest (s.openDone client deviceId attempt accepted) := by
  unfold State.openDone
  split_ifs with opened
  · refine inv.released ⟨rfl,rfl,rfl,rfl,rfl⟩ fun held d listed text => ?_
    exact (kept held opened d listed text).imp_left False.elim
  · exact (inv.deleteSession ..).despawn (by simp) rfl (by simp) (by simp) rfl (by simp) (by simp) fun _ => trivial

/-- The sessions that an open leaves that fails, which are fewer when it has thrown. -/
def failedSessions (s : State) (client : Client) (deviceId : DeviceId) (thrown : Bool) : List (Client × DeviceId) :=
  if thrown then (s.deleteSession client deviceId).sessions else s.sessions

theorem openFailed_holds {attempt thrown : Bool} (inv : Inv s (.opening client deviceId attempt :: rest) none)
    (kept : attempt = true → Spared s rest client deviceId fun d =>
      d = deviceId ∧ (s.sessionOwner client,deviceId) ∉ failedSessions s client deviceId thrown) :
    Holds rest (s.openFailed client deviceId attempt thrown) := by
  have only : (Task.opening client deviceId attempt).Retains (retained attempt (planeKeyForClient client deviceId)) :=
    ⟨rfl,rfl,rfl,rfl,rfl⟩
  let left := s.release attempt (planeKeyForClient client deviceId)
  have released : Inv left rest (some deviceId) :=
    inv.released only fun held d listed text => (kept held d listed text).imp_left fun same => congrArg some same.1.symm
  have used (session : (s.sessionOwner client,deviceId) ∈ failedSessions s client deviceId thrown)
      (listed : deviceId ∈ s.runtimeDataPorts) : Attended left rest deviceId := by
    cases attempt with
    | false =>
      have free : Inv (s.release false (planeKeyForClient client deviceId)) rest none :=
        inv.released only (by rintro ⟨⟩)
      exact (free.attended deviceId listed).resolve_left (by simp)
    | true => exact (kept rfl deviceId listed rfl).resolve_left fun none_ => none_.2 session
  cases thrown with
  | false =>
    refine released.discard fun session listed => used ?_ ?_
    · cases attempt <;> exact session
    · cases attempt <;> exact listed
  | true =>
    refine Inv.discard (released.deleteSession ..) fun session listed => used ?_ ?_
    · cases attempt <;> exact session
    · cases attempt <;> exact listed

/-- While an open is cleaned up its own attempt keeps the port. -/
theorem cleaning_holds {attempt : Bool} (inv : Inv s (.cleaning client deviceId attempt :: rest) none)
    (kept : attempt = true → Spared s rest client deviceId fun _ => False) :
    Holds rest
      ((s.discardFailedOpenDataPort client deviceId).release attempt (planeKeyForClient client deviceId),[]) := by
  let key := planeKeyForClient client deviceId
  cases attempt with
  | false =>
    have discarded : Inv (s.discardFailedOpenDataPort client deviceId) (.cleaning client deviceId false :: rest) none :=
      inv.weaken.discard fun _ listed => (inv.attended deviceId listed).resolve_left (by simp)
    exact discarded.released ⟨rfl,rfl,rfl,rfl,rfl⟩ (by rintro ⟨⟩)
  | true =>
    have own : key ∈ s.nmOpenAttempts := inv.attempts.mem_iff.mpr List.mem_cons_self
    have unchanged : s.discardFailedOpenDataPort client deviceId = s := if_pos (.inr own)
    rw [unchanged]
    refine inv.released ⟨rfl,rfl,rfl,rfl,rfl⟩ fun held d listed text => ?_
    exact (kept held d listed text).imp_left False.elim

theorem closed_holds {reserved ok : Bool} (inv : Inv s (.closing client deviceId reserved :: rest) none)
    (kept : reserved = true → ok = false → client ∈ s.clients) :
    Holds rest (s.closed client deviceId reserved ok) := by
  have ends : Inv s rest none := by
    have like : (Task.closing client deviceId reserved).Replaces s rest .finished := by constructor <;> simp
    exact (inv.swap like rfl).done
  unfold State.closed
  split_ifs
  · exact (inv.deleteSession ..).despawn (by simp) rfl (by simp) (by simp) rfl (by simp) (by simp) fun _ => trivial
  · exact ends.setSession (kept (by assumption) (by simpa using ‹¬ok = true›)) deviceId
  · exact ends

/-- What a task goes on with after a removal holds no less and sets up no more. -/
structure Task.Continues (t next : Task) : Prop where
  attempt : next.attempt = t.attempt
  asks : t.asks = none
  due : t.due ⊆ next.due
  removes : t.removes = none
  spawns : ∀ key generation, next.spawns = some (key,generation) → t.spawns = some (key,generation)
  clears : t.clears ⊆ next.clears
  told : ∀ notices, t.Told notices → next.Told notices

theorem Task.Retains.continues {next : Task} (only : t.Retains attempt) (same : next.attempt = attempt)
    (spawns : next.spawns = none) (told : ∀ notices, next.Told notices) : t.Continues next where
  attempt := same.trans only.attempt.symm
  asks := only.asks
  due := by rw [only.due]; simp
  removes := only.removes
  spawns := by simp [spawns]
  clears := by rw [only.clears]; simp
  told := fun notices _ => told notices

theorem Task.Continues.replaces {next : Task} (on : t.Continues next) : t.Replaces s rest next where
  asks := by rw [on.asks]; simp
  due := on.due
  removes := by rw [on.removes]; simp
  spawns := fun key generation same => .inl (on.spawns key generation same)
  clears := fun _ _ own => on.clears own
  told := on.told _

theorem Inv.resume {next : Task} (inv : Inv s (t :: rest) none) (on : t.Continues next) : Inv s (next :: rest) none :=
  inv.swap on.replaces on.attempt

theorem Inv.remove {next : Task} {keepPort : Bool} (inv : Inv s (t :: rest) none) (on : t.Continues next) :
    Holds rest (s.despawnDataPlane client deviceId keepPort next) := by
  refine inv.despawn (by simp) on.attempt ?_ (fun _ due => .inl (on.due due)) on.removes on.spawns on.clears (on.told _)
  rw [on.asks]
  simp

theorem Inv.finish (inv : Inv s (t :: rest) none) (only : t.Retains none) : Inv s rest none :=
  have ends : t.Continues .finished := only.continues rfl rfl fun _ => trivial
  (inv.resume ends).done

theorem reconcileNext_holds {next : Task} {todo : List Client} (inv : Inv s (t :: rest) none) (on : t.Continues next) :
    Holds rest (s.reconcileNext deviceId next todo) := by
  cases todo with
  | nil => exact (inv.resume on).follow
  | cons client todo =>
    refine (inv.deleteSession ..).remove ?_
    exact ⟨on.attempt,on.asks,on.due,on.removes,on.spawns,on.clears,on.told⟩

theorem resetDevice_holds {next : Task} {frame : Nat} {clients : List Client} (inv : Inv s (t :: rest) none)
    (on : t.Continues next) : Holds rest (s.resetDevice frame clients deviceId next) := by
  unfold State.resetDevice
  split
  · exact inv.remove on
  · exact reconcileNext_holds inv on

theorem resetFrames_holds {frames : List Nat} (inv : Inv s (t :: rest) none) (only : t.Retains none) :
    Holds rest (s.resetFrames frames) := by
  induction frames with
  | nil => exact inv.finish only
  | cons frame frames ih =>
    simp only [State.resetFrames]
    split
    · exact ih
    · exact resetDevice_holds inv (only.continues rfl rfl fun _ => trivial)

theorem retireNext_holds {visited : List DeviceId} (inv : Inv s (t :: rest) none) (only : t.Retains none) :
    Holds rest (s.retireNext client visited) := by
  unfold State.retireNext
  split
  · exact inv.resume (only.continues rfl rfl fun _ => trivial)
  · exact (inv.finish only).retire client

theorem switchNext_holds {start : Start} {active todo : List (Client × DeviceId)} (inv : Inv s (t :: rest) none)
    (only : t.Retains none) : Holds rest (s.switchNext start active todo) := by
  cases todo with
  | nil => exact inv.resume (only.continues rfl rfl fun _ => trivial)
  | cons session todo => exact inv.remove (only.continues rfl rfl fun _ => trivial)

theorem askNext_holds {sessions : List (Client × DeviceId)} (inv : Inv s (t :: rest) none) (only : t.Retains none) :
    Holds rest (s.askNext sessions) := by
  cases sessions with
  | nil => exact inv.finish only
  | cons session sessions => exact inv.resume (only.continues rfl rfl fun _ => trivial)

theorem switchAnswered_holds {ok : Bool} {sessions : List (Client × DeviceId)}
    (inv : Inv s (.asking client deviceId sessions :: rest) none) (alive : ok = true → client.frame ∈ s.frameContexts) :
    Holds rest (s.switchAnswered client deviceId sessions ok) := by
  have only : (Task.asking client deviceId sessions).Retains none := ⟨rfl,rfl,rfl,rfl,rfl⟩
  unfold State.switchAnswered
  simp only
  split_ifs with accepted
  · exact askNext_holds (inv.addNm (alive accepted) switchNm_grows switchNm_nmPlanes) only
  · exact inv.remove (only.continues rfl rfl fun _ => trivial)

/-- Planes that are set up one after another, each beside the tasks of those before. -/
theorem respawnPlanesForMode_holds {start : Start} {active : List (Client × DeviceId)} (inv : Inv s rest none)
    (alive : ∀ session ∈ active, session.1.frame ∈ s.frameContexts) :
    Holds rest (State.respawnPlanesForMode start s active) := by
  induction active generalizing s rest with
  | nil => exact inv
  | cons session active ih =>
    obtain ⟨client,deviceId⟩ := session
    have spawned : Holds rest (s.spawnDataPlane client deviceId start true .nobody) :=
      spawnDataPlane_holds inv.idle finished_retains (alive _ List.mem_cons_self)
    have frames : (s.spawnDataPlane client deviceId start true .nobody).1.frameContexts = s.frameContexts := by
      cases start <;> rfl
    have others := ih spawned fun session among => frames ▸ alive session (List.mem_cons_of_mem _ among)
    refine Inv.perm ?_ others
    rw [← List.append_assoc]
    exact List.perm_append_comm.append_right _

theorem destroyNext_holds {frame : Nat} {notify : Bool} {records : List Client} {opened : List DeviceId}
    {todo : List (Key × DeviceId)} (inv : Inv s (.destroying frame notify records opened todo :: rest) none) :
    Holds rest (s.destroyNext frame notify records opened todo) := by
  cases todo with
  | nil =>
    have told := inv.told _ List.mem_cons_self
    have cleared : Inv { s with sessions := s.sessions.filter (·.1 ∉ records) }
        (.destroying frame notify records opened [] :: rest) none :=
      inv.sessions fun _ among => .inl (List.mem_of_mem_filter among)
    have ends : Inv { s with sessions := s.sessions.filter (·.1 ∉ records) } rest none := by
      refine Inv.done (cleared.swap ⟨by simp,by simp,by simp,by simp,?_,fun _ => trivial⟩ rfl)
      intro entry among own
      obtain ⟨_,other⟩ := List.mem_filter.mp among
      exact absurd own (by simpa using other)
    refine { ends with cleared := ?_, ended := ?_ }
    · exact fun key gone => (ends.cleared key gone).beside rfl rfl rfl rfl
    · intro e among asked d member
      rcases List.mem_append.mp among with before | new
      · exact ends.ended e before asked d member
      · cases List.mem_singleton.mp new
        exact (told asked d member).resolve_left (by simp)
  | cons plane todo =>
    obtain ⟨key,deviceId⟩ := plane
    refine inv.despawn (by simp) rfl (by simp) ?_ rfl (by simp) ?_ ?_
    · intro other due
      rcases List.mem_cons.mp due with rfl | later
      · exact .inr ⟨rfl,rfl⟩
      · exact .inl later
    · exact List.Subset.refl _
    · intro told asked d among
      rcases told asked d among with later | noticed
      · exact (List.mem_cons.mp later).imp_right .inl
      · exact .inr (.inr noticed)

theorem notice_eq (frame : Nat) (notify : Bool) (records : List Client) :
    s.notice frame notify records deviceId =
      { s with notices := (s.notice frame notify records deviceId).notices } := by
  unfold State.notice
  split_ifs <;> rfl

theorem notice_more (frame : Nat) (notify : Bool) (records : List Client) (deviceId : DeviceId) :
    s.notices ⊆ (s.notice frame notify records deviceId).notices := by
  unfold State.notice
  split_ifs
  · exact List.subset_append_left _ _
  · exact List.Subset.refl _

theorem notice_posted {frame : Nat} {records : List Client} (having : s.havingDevice records deviceId ≠ []) :
    (frame,deviceId) ∈ (s.notice frame true records deviceId).notices := by
  unfold State.notice
  split_ifs with new
  · exact List.mem_append_right _ List.mem_cons_self
  · by_contra absent
    exact new ⟨rfl,absent,having⟩

theorem notifying_holds {frame : Nat} {notify : Bool} {records : List Client} {opened : List DeviceId}
    {todo : List (Key × DeviceId)} (inv : Inv s (.notifying frame notify records opened deviceId todo :: rest) none) :
    Holds rest ((s.notice frame notify records deviceId).destroyNext frame notify records
      (opened.filter fun d => s.havingDevice records d ≠ []) todo) := by
  have noticed := inv.notify (notice_more frame notify records deviceId)
  rw [← notice_eq] at noticed
  refine destroyNext_holds (noticed.swap ⟨by simp,by simp,by simp,by simp,by simp,?_⟩ rfl)
  intro told asked d among
  obtain ⟨member,having⟩ := List.mem_filter.mp among
  rcases told asked d member with rfl | later
  · cases asked
    exact .inr (notice_posted (by simpa using having))
  · exact later

theorem mem_setPlane {planes : List (Key × DeviceId)} {key : Key} {plane : Key × DeviceId}
    (among : plane ∈ State.setPlane planes key deviceId) : plane ∈ planes ∨ plane = (key,deviceId) := by
  unfold State.setPlane at among
  split_ifs at among
  · obtain ⟨before,member,same⟩ := List.mem_map.mp among
    split_ifs at same
    · exact .inr same.symm
    · exact .inl (same ▸ member)
  · simpa using among

theorem setPlane_keys (planes : List (Key × DeviceId)) (key other : Key) :
    other ∈ (State.setPlane planes key deviceId).map (·.1) ↔ other ∈ planes.map (·.1) ∨ other = key := by
  unfold State.setPlane
  split_ifs with present
  · have keys : (planes.map fun plane => if plane.1 = key then (key,deviceId) else plane).map (·.1) =
        planes.map (·.1) := by
      rw [List.map_map]
      refine List.map_congr_left fun plane _ => ?_
      simp only [Function.comp_apply]
      split_ifs with same
      · exact same.symm
      · rfl
    rw [keys,iff_self_or]
    rintro rfl
    obtain ⟨plane,among,same⟩ := List.any_eq_true.mp present
    exact List.mem_map.mpr ⟨plane,among,by simpa using same⟩
  · simp

theorem foldl_setPlane {β : Type} (f : β → Key × DeviceId) (P : Key × DeviceId → Prop) {xs : List β}
    {planes : List (Key × DeviceId)} (before : ∀ plane ∈ planes, P plane) (new : ∀ x ∈ xs, P (f x)) :
    ∀ plane ∈ xs.foldl (fun planes x => State.setPlane planes (f x).1 (f x).2) planes, P plane := by
  induction xs generalizing planes with
  | nil => exact before
  | cons x xs ih =>
    refine ih (fun plane among => ?_) fun y member => new y (List.mem_cons_of_mem _ member)
    rcases mem_setPlane among with old | rfl
    · exact before plane old
    · exact new x List.mem_cons_self

theorem foldl_setPlane_keys {β : Type} (f : β → Key × DeviceId) (xs : List β) (planes : List (Key × DeviceId))
    (key : Key) :
    key ∈ (xs.foldl (fun planes x => State.setPlane planes (f x).1 (f x).2) planes).map (·.1) ↔
      key ∈ planes.map (·.1) ∨ ∃ x ∈ xs, key = (f x).1 :=
  foldl_iff (fun planes x => State.setPlane planes (f x).1 (f x).2) (fun planes => key ∈ planes.map (·.1))
    (fun x => key = (f x).1) (fun planes _ => setPlane_keys planes _ key) xs planes

/-- The planes of a destruction have the `deviceId` that their keys name, and that of a
    session where it is a string itself. -/
theorem planesOf_all {frame : Nat} (P : Key × DeviceId → Prop)
    (session : ∀ entry ∈ s.sessions, entry.1 ∈ s.clientsOf frame → P (planeKeyForClient entry.1 entry.2,entry.2))
    (mapped : ∀ key, P (key,.string key.device)) : ∀ plane ∈ s.planesOf frame, P plane := by
  refine foldl_setPlane (fun key : Key => (key,DeviceId.string key.device)) P ?_ fun key _ => mapped key
  refine foldl_setPlane (fun entry : Client × DeviceId => (planeKeyForClient entry.1 entry.2,entry.2)) P (by simp) ?_
  intro entry among
  obtain ⟨member,own⟩ := List.mem_filter.mp among
  exact session entry member (by simpa using own)

theorem mem_planesOf_keys {frame : Nat} {key : Key} : key ∈ (s.planesOf frame).map (·.1) ↔
    (∃ entry ∈ s.sessions, entry.1 ∈ s.clientsOf frame ∧ key = planeKeyForClient entry.1 entry.2) ∨
      key ∈ s.keysOf frame := by
  have mapped := foldl_setPlane_keys (fun key : Key => (key,DeviceId.string key.device)) (s.keysOf frame)
  have owned := foldl_setPlane_keys (fun entry : Client × DeviceId => (planeKeyForClient entry.1 entry.2,entry.2))
    (s.sessions.filter fun entry => entry.1 ∈ s.clientsOf frame) [] key
  rw [State.planesOf]
  refine (mapped _ key).trans ?_
  refine or_congr (owned.trans ?_) (by simp)
  simp [and_assoc]

theorem planesOf_due {frame : Nat} {key : Key} (among : key ∈ (s.planesOf frame).map (·.1)) :
    key ∈ (s.planesOf frame).map dueKey := by
  obtain ⟨plane,member,rfl⟩ := List.mem_map.mp among
  refine List.mem_map.mpr ⟨plane,member,?_⟩
  exact planesOf_all (fun plane => dueKey plane = plane.1) (fun _ _ _ => rfl) (fun _ => rfl) plane member

theorem planesOf_opened {frame : Nat} {d : DeviceId} (opened : d ∈ s.devicesOf (s.clientsOf frame))
    (strings : ∀ entry ∈ s.sessions, entry.1 ∈ s.clientsOf frame → ∃ name, entry.2 = .string name) :
    d ∈ (s.planesOf frame).map (·.2) := by
  rw [State.devicesOf,List.mem_eraseDups] at opened
  obtain ⟨⟨client,_⟩,among,rfl⟩ := List.mem_map.mp opened
  obtain ⟨member,own⟩ := List.mem_filter.mp among
  obtain ⟨name,rfl⟩ := strings _ member (by simpa using own)
  have owned : planeKeyForClient client (.string name) ∈ (s.planesOf frame).map (·.1) :=
    mem_planesOf_keys.mpr (.inl ⟨_,member,by simpa using own,rfl⟩)
  obtain ⟨plane,listed,same⟩ := List.mem_map.mp owned
  have string : plane.2 = .string plane.1.device := by
    refine planesOf_all (fun plane => plane.2 = .string plane.1.device) ?_ (fun _ => rfl) plane listed
    intro entry among own
    obtain ⟨name,same⟩ := strings entry among own
    simp [same,planeKeyForClient,DeviceId.text]
  exact List.mem_map.mpr ⟨plane,listed,by rw [string,same]; rfl⟩

/-- A key that no map has has no record. -/
theorem Inv.unmapped {key : Key} {tasks : List Task} (inv : Inv s tasks none) (absent : key ∉ s.mapKeys) :
    Cleared s tasks key := by
  simp only [State.mapKeys,List.mem_append,not_or] at absent
  obtain ⟨⟨unrecorded,portless⟩,_⟩ := absent
  have empty : s.recordsOf key = {} := by
    cases found : s.planes.lookup key with
    | none => rw [State.recordsOf,found]; rfl
    | some r =>
      rw [State.recordsOf,found]
      by_contra recorded
      have filled : decide (r ≠ {}) = true := by simpa using recorded
      exact unrecorded (List.mem_map.mpr ⟨⟨key,r⟩,List.mem_filter.mpr ⟨lookup_eq_some.mp found,filled⟩,rfl⟩)
  have unported : ∀ port ∈ s.dataPorts, port.key ≠ key := fun port among same =>
    portless (List.mem_map.mpr ⟨port,among,same⟩)
  refine ⟨by simp [empty],fun _ => ⟨by simp [empty],?_,?_⟩,fun _ => unported,?_⟩
  · rintro p among rfl
    rcases inv.pendingKnown p among with known | ⟨port,listed,same⟩
    · simp [empty] at known
    · exact unported port listed same
  · rintro p among rfl
    have known := inv.spawnKnown p among
    simp [empty] at known
  · intro t among generation spawns
    have known := (inv.spawned t among key generation spawns).1
    simp [empty] at known

theorem destroyFrameContext_holds {frame : Nat} {notify : Bool} {done : State × List Task} (inv : Inv s rest none)
    (named : ∀ key ∈ s.mapKeys, key.frame = frame → key.device ≠ "")
    (strings : notify = true → ∀ entry ∈ s.sessions, entry.1 ∈ s.clientsOf frame → ∃ name, entry.2 = .string name)
    (taken : s.destroyFrameContext frame notify = some done) : Holds rest done := by
  unfold State.destroyFrameContext at taken
  split_ifs at taken
  cases taken
  let destroying : Task :=
    .destroying frame notify (s.clientsOf frame) (s.devicesOf (s.clientsOf frame)) (s.planesOf frame)
  have begun : Inv s (destroying :: rest) none := by
    refine inv.idle.swap (finished_retains.replaces rfl fun asked d opened => ?_) rfl
    exact .inl (planesOf_opened opened (strings asked))
  have kept {other : Nat} (alive : other ∈ s.frameContexts) (differs : other ≠ frame) :
      other ∈ s.frameContexts.filter (· ≠ frame) := List.mem_filter.mpr ⟨alive,by simpa using differs⟩
  refine { begun with alive := ?_, owned := ?_, cleared := ?_ }
  · intro client among
    obtain ⟨member,differs⟩ := List.mem_filter.mp among
    exact kept (begun.alive client member) (by simpa using differs)
  · intro entry held
    rcases inv.owned entry held with there | ⟨t,among,own⟩
    · by_cases here : entry.1.frame = frame
      · exact .inr ⟨destroying,List.mem_cons_self,List.mem_filter.mpr ⟨there,by simpa using here⟩⟩
      · exact .inl (List.mem_filter.mpr ⟨there,by simpa using here⟩)
    · exact .inr ⟨t,List.mem_cons_of_mem _ among,own⟩
  · rintro key ⟨dead,passed⟩
    suffices cleared : Cleared s (destroying :: rest) key from cleared.beside rfl rfl rfl rfl
    by_cases alive : key.frame ∈ s.frameContexts
    · refine begun.unmapped fun mapped => ?_
      have own : key.frame = frame := by
        by_contra differs
        exact dead (kept alive differs)
      refine passed _ List.mem_cons_self (planesOf_due (mem_planesOf_keys.mpr (.inr ?_)))
      exact List.mem_filter.mpr ⟨mapped,by simpa [own] using named key mapped own⟩
    · exact begun.cleared key ⟨alive,passed⟩

theorem onDataPortMessage_holds {port : DataPort} {thrown : Bool} (inv : Inv s rest none) (among : port ∈ s.dataPorts)
    (kept : thrown = true → port.deviceId ∈ s.runtimeDataPorts ∨ Attended s rest port.deviceId) :
    Inv (s.onDataPortMessage port thrown) rest none := by
  have ensured := inv.ensure port.deviceId
  have member := mem_ensure s port.deviceId
  unfold State.onDataPortMessage
  simp only
  rw [ensureRuntimeDataPort_eq] at ensured member ⊢
  cases thrown with
  | true =>
    have attended : Attended s rest port.deviceId := by
      rcases kept rfl with listed | attended
      · exact (inv.attended _ listed).resolve_left (by simp)
      · exact attended
    simp only [if_true,List.append_nil]
    have same := ensured.attend fun _ => attended
    exact { same with cleared := fun key gone => (same.cleared key gone).beside rfl rfl rfl rfl }
  | false =>
    let entry : Pending := ⟨s.dataReqSeq + 1,port.key,port.deviceId⟩
    change Inv { s with
      runtimeDataPorts := _
      dataReqSeq := s.dataReqSeq + 1
      dataPending := s.dataPending ++ [entry] } rest none
    have each {P : Pending → Prop} (before : ∀ p ∈ s.dataPending, P p) (new : P entry) :
        ∀ p ∈ s.dataPending ++ [entry], P p := by
      intro p member
      rcases List.mem_append.mp member with old | last
      · exact before p old
      · exact List.mem_singleton.mp last ▸ new
    refine { ensured with
      attended := ?_
      pendingPort := each ensured.pendingPort member
      pendingNamed := each ensured.pendingNamed (inv.portNamed port among)
      pendingKnown := each ensured.pendingKnown (.inr ⟨port,among,rfl⟩)
      cleared := ?_ }
    · intro d listed
      right
      rcases ensured.attended d listed with same | used | asked
      · cases same
        exact .inl (inUse_iff.mpr (.inr (.inr ⟨entry,List.mem_append_right _ List.mem_cons_self,rfl⟩)))
      · rcases inUse_iff.mp used with plane | attempt | ⟨p,old,same⟩
        · exact .inl (inUse_iff.mpr (.inl plane))
        · exact .inl (inUse_iff.mpr (.inr (.inl attempt)))
        · exact .inl (inUse_iff.mpr (.inr (.inr ⟨p,List.mem_append_left _ old,same⟩)))
      · exact .inr asked
    · intro key gone
      have before := ensured.cleared key gone
      by_cases here : port.key = key
      · -- The port is there because a removal of its plane has not ended.
        subst here
        have removing : ∃ t ∈ rest, t.removes = some (port.key,false) := by
          by_contra none_
          exact before.ports (fun t member same => none_ ⟨t,member,same⟩) port among rfl
        refine ⟨before.head,fun free => ?_,before.ports,before.stale⟩
        obtain ⟨t,member,same⟩ := removing
        exact absurd same (free t member false)
      · refine before.stays rfl ?_ (fun _ member _ => member) fun _ member _ => member
        refine each (fun p old _ => old) fun same => absurd same here

theorem onMessage_holds {reqId : Nat} (inv : Inv s rest none) : Inv (s.onMessage deviceId reqId) rest none := by
  unfold State.onMessage
  split
  · exact inv
  next pending found =>
    split_ifs with other
    · exact inv
    rw [not_not] at other
    apply Inv.maybe
    have before {p : Pending} (among : p ∈ s.dataPending.erase pending) : p ∈ s.dataPending :=
      List.mem_of_mem_erase among
    refine { inv with
      attended := ?_
      pendingPort := fun p among => inv.pendingPort p (before among)
      pendingNamed := fun p among => inv.pendingNamed p (before among)
      pendingKnown := fun p among => inv.pendingKnown p (before among)
      cleared := ?_ }
    · intro d listed
      by_cases asked : d = deviceId
      · exact .inl (congrArg some asked.symm)
      right
      refine ((inv.attended d listed).resolve_left (by simp)).imp_left fun used => ?_
      refine inUse_iff.mpr ((inUse_iff.mp used).imp_right (Or.imp_right ?_))
      rintro ⟨p,among,rfl⟩
      refine ⟨p,(List.mem_erase_of_ne ?_).mpr among,rfl⟩
      rintro rfl
      exact asked other
    · intro key gone
      exact (inv.cleared key gone).stays rfl (fun _ among _ => before among) (fun _ among _ => among)
        fun _ among _ => among

theorem onDisconnect_holds (inv : Inv s rest none) (kept : ∀ key ∈ s.nmPlanes, key.device = deviceId.text →
      ∃ d ∈ s.runtimeDataPorts, d ≠ deviceId ∧ d.text = deviceId.text) : Inv (s.onDisconnect deviceId) rest none := by
  unfold State.onDisconnect
  by_cases absent : deviceId ∉ s.runtimeDataPorts
  · rw [if_pos absent]
    exact inv
  rw [if_neg absent]
  have before {p : Pending} (among : p ∈ s.dataPending.filter (·.deviceId ≠ deviceId)) :
      p ∈ s.dataPending ∧ p.deviceId ≠ deviceId := by
    simpa using List.mem_filter.mp among
  have other {d : DeviceId} (listed : d ∈ s.runtimeDataPorts) (differs : d ≠ deviceId) :
      d ∈ s.runtimeDataPorts.filter (· ≠ deviceId) := List.mem_filter.mpr ⟨listed,by simpa using differs⟩
  refine { inv with
    attended := ?_
    planePort := ?_
    pendingPort := fun p among => other (inv.pendingPort p (before among).1) (before among).2
    pendingNamed := fun p among => inv.pendingNamed p (before among).1
    pendingKnown := fun p among => inv.pendingKnown p (before among).1
    cleared := ?_ }
  · intro d listed
    obtain ⟨member,differs⟩ := List.mem_filter.mp listed
    right
    refine ((inv.attended d member).resolve_left (by simp)).imp_left fun used => ?_
    refine inUse_iff.mpr ((inUse_iff.mp used).imp_right (Or.imp_right ?_))
    rintro ⟨p,among,rfl⟩
    exact ⟨p,List.mem_filter.mpr ⟨among,differs⟩,rfl⟩
  · intro key held
    obtain ⟨d,listed,same⟩ := inv.planePort key held
    by_cases gone : d = deviceId
    · subst gone
      obtain ⟨d',listed',differs,text⟩ := kept key (mem_nmPlanes.mpr held) same.symm
      exact ⟨d',other listed' differs,text.trans same⟩
    · exact ⟨d,other listed gone,same⟩
  · intro key gone
    exact (inv.cleared key gone).stays rfl (fun _ among _ => (before among).1) (fun _ among _ => among)
      fun _ among _ => among

theorem handleDataPortRequest_holds (inv : Inv s rest none) :
    Inv (s.handleDataPortRequest client deviceId generation) rest none := by
  let key := planeKeyForClient client deviceId
  unfold State.handleDataPortRequest
  simp only
  by_cases stale : client ∉ s.clients ∨ (s.recordsOf key).spawnGen ≠ generation
  · rw [if_pos stale]
    exact inv
  rw [if_neg stale]
  have alive : client.frame ∈ s.frameContexts := inv.alive client (not_not.mp (not_or.mp stale).1)
  split_ifs
  · exact inv.record ⟨id,Nat.le_refl _,fun _ => .inl⟩ .inl (gone_absurd alive)
  · have marked : Inv (s.record key fun r => r.markPlanePrerequisite generation .localPort) rest none := by
      refine inv.record (markPlanePrerequisite_grows _ _ _) (fun nm => .inl ?_) (gone_absurd alive)
      rw [markPlanePrerequisite_nmPlanes] at nm
      exact nm
    refine { marked with portNamed := ?_, pendingKnown := ?_, cleared := ?_ }
    · intro port among
      rcases List.mem_append.mp among with before | new
      · exact inv.portNamed port before
      · cases List.mem_singleton.mp new
        rfl
    · intro p among
      refine (marked.pendingKnown p among).imp_right ?_
      rintro ⟨port,listed,same⟩
      exact ⟨port,List.mem_append_left _ listed,same⟩
    · intro other gone
      refine (marked.cleared other gone).stays rfl (fun _ among _ => among) (fun _ among _ => among) ?_
      intro port among same
      rcases List.mem_append.mp among with before | new
      · exact before
      · cases List.mem_singleton.mp new
        exact absurd (same ▸ alive) gone.1

theorem markPlaneReady_nmPlanes (r : Records) : (r.markPlaneReady generation).nmPlanes = r.nmPlanes := by
  rw [Records.markPlaneReady,markPlanePrerequisite_nmPlanes,markPlanePrerequisite_nmPlanes]

theorem workerReady_holds (inv : Inv s rest none) (alive : client.frame ∈ s.frameContexts) :
    Inv (s.workerReady client deviceId generation) rest none := by
  refine inv.record ?_ (fun nm => .inl ?_) (gone_absurd alive)
  · have ready (r : Records) : r.Grows { r with workerReadyDevices := true } := ⟨id,Nat.le_refl _,fun _ => .inl⟩
    exact (ready _).trans (markPlaneReady_grows _)
  · rw [markPlaneReady_nmPlanes] at nm
    exact nm

theorem handleWorkerErrorEvent_holds {done : State × List Task} (inv : Inv s rest none)
    (taken : s.handleWorkerErrorEvent client deviceId = some done) : Holds rest done := by
  unfold State.handleWorkerErrorEvent at taken
  split_ifs at taken <;> cases taken
  · exact inv.idle.remove (finished_retains.continues rfl rfl fun _ => trivial)
  · exact inv.idle.remove (finished_retains.continues rfl rfl fun _ => trivial)

theorem recovered_holds {start : Start} (inv : Inv s (.recovering client deviceId :: rest) none) :
    Holds rest (s.recovered client deviceId start) := by
  have only : (Task.recovering client deviceId).Retains none := ⟨rfl,rfl,rfl,rfl,rfl⟩
  unfold State.recovered
  by_cases gone : client.frame ∉ s.frameContexts
  · rw [if_pos gone]
    exact inv.finish only
  · rw [if_neg gone]
    cases start with
    | nm => exact requestFallback_holds inv only
    | worker kind => exact spawnDataPlane_holds inv only (not_not.mp gone)
    | inPage => exact spawnDataPlane_holds inv only (not_not.mp gone)

theorem waitForPlaneReady_holds (inv : Inv s rest none) :
    Inv (s.waitForPlaneReady client deviceId generation) rest none := by
  unfold State.waitForPlaneReady
  simp only
  split_ifs with settled
  · exact inv
  · obtain ⟨alive,newest,_⟩ := (not_or.mp settled).imp_right not_or.mp
    rw [not_not] at alive newest
    refine inv.record ⟨id,Nat.le_refl _,?_⟩ .inl (gone_absurd alive)
    rintro _ ⟨⟩
    exact .inr (Nat.le_of_eq newest.symm)

theorem planeReadyTimeout_holds {done : State × List Task} (inv : Inv s rest none)
    (taken : s.planeReadyTimeout client deviceId = some done) : Holds rest done := by
  obtain ⟨generation,waits,rfl⟩ := Option.map_eq_some_iff.mp taken
  have unwaited : Inv (s.record (planeKeyForClient client deviceId) fun r => { r with pendingPlaneReady := none }) rest
      none := by
    refine inv.record ⟨id,Nat.le_refl _,by simp⟩ .inl fun gone => ?_
    rw [(inv.cleared _ gone).head.2.2.2.1] at waits
    cases waits
  simp only
  split_ifs
  · exact unwaited
  · exact unwaited.idle.remove (finished_retains.continues rfl rfl fun _ => trivial)

theorem markPlanePrerequisite_head (r : Records) (generation : Nat) (prerequisite : Prerequisite) :
    (r.markPlanePrerequisite generation prerequisite).workers = r.workers ∧
      (r.markPlanePrerequisite generation prerequisite).workerGenerations = r.workerGenerations ∧
      (r.markPlanePrerequisite generation prerequisite).inPageDevices = r.inPageDevices ∧
      (r.pendingPlaneReady = none → (r.markPlanePrerequisite generation prerequisite).pendingPlaneReady = none) ∧
      (r.markPlanePrerequisite generation prerequisite).workerReadyDevices = r.workerReadyDevices := by
  simp only [Records.markPlanePrerequisite,Plane.markPlanePrerequisite]
  split_ifs <;> simp +contextual

/-- A transport is still listed at a key that is gone only until the removal of its plane
    has ended. -/
theorem Inv.removing {id : Nat} {key : Key} {tasks : List Task} (inv : Inv s tasks none) (gone : Gone s tasks key)
    (listed : ⟨id,key⟩ ∈ s.pendingPlaneSpawns) : ∃ t ∈ tasks, ∃ keepPort, t.removes = some (key,keepPort) := by
  by_contra none_
  refine ((inv.cleared key gone).tail fun t among keepPort same => ?_).2.2 _ listed rfl
  exact none_ ⟨t,among,keepPort,same⟩

theorem connected_holds {id : Nat} {rewire : Bool}
    (inv : Inv s (.connecting client deviceId generation id rewire caller :: rest) none)
    (listed : ⟨id,planeKeyForClient client deviceId⟩ ∈ s.pendingPlaneSpawns) :
    Holds rest ((s.settleSpawn id).record (planeKeyForClient client deviceId) (·.markPlaneReady generation),
      (caller.next client deviceId true).follow) := by
  let key := planeKeyForClient client deviceId
  have only : (Task.connecting client deviceId generation id rewire caller).Retains (caller.attempt key) :=
    ⟨rfl,rfl,rfl,rfl,rfl⟩
  refine Inv.give ((inv.settle id).record (markPlaneReady_grows _) (fun nm => .inl ?_) fun gone => ?_) only
  · rw [markPlaneReady_nmPlanes] at nm
    exact nm
  obtain ⟨t,among,keepPort,removes⟩ := inv.removing gone listed
  have before := (inv.settle id).cleared key gone
  have here : ((s.settleSpawn id).record key (·.markPlaneReady generation)).recordsOf key =
      (s.recordsOf key).markPlaneReady generation := recordsOf_record_self ..
  have first := markPlanePrerequisite_head (s.recordsOf key) generation .localPort
  have second := markPlanePrerequisite_head ((s.recordsOf key).markPlanePrerequisite generation .localPort) generation
    .authoritative
  refine ⟨?_,fun free => absurd removes (free t among keepPort),before.ports,?_⟩
  · obtain ⟨workers,generations,inPage,waiting,ready⟩ := before.head
    rw [here]
    exact ⟨second.1.trans (first.1.trans workers),second.2.1.trans (first.2.1.trans generations),
      second.2.2.1.trans (first.2.2.1.trans inPage),second.2.2.2.1 (first.2.2.2.1 waiting),
      second.2.2.2.2.trans (first.2.2.2.2.trans ready)⟩
  · intro t' member later spawns
    rw [here]
    exact Nat.lt_of_lt_of_le (before.stale t' member later spawns) (markPlaneReady_grows _).spawnGen

theorem Records.unchanged {r : Records} (off : r.inPageDevices = false) : { r with inPageDevices := false } = r := by
  rw [← off]

theorem connectTimedOut_holds {id : Nat} {rewire : Bool}
    (inv : Inv s (.connecting client deviceId generation id rewire caller :: rest) none) :
    Holds rest (((s.settleSpawn id).record (planeKeyForClient client deviceId) fun r =>
      { r with inPageDevices := false }).spawnFailed client deviceId generation rewire caller) := by
  let key := planeKeyForClient client deviceId
  have only : (Task.connecting client deviceId generation id rewire caller).Retains (caller.attempt key) :=
    ⟨rfl,rfl,rfl,rfl,rfl⟩
  refine spawnFailed_holds ((inv.settle id).record ⟨fun nm => nm,Nat.le_refl _,fun _ => .inl⟩ .inl fun gone => ?_) only
  have before := (inv.settle id).cleared key gone
  refine before.stays ?_ (fun _ among _ => among) (fun _ among _ => among) fun _ among _ => among
  rw [recordsOf_record_self]
  exact Records.unchanged before.head.2.2.1

end

/-! ### Runs -/

/-- When a call neither leaves a port without a use, nor a plane without its port, nor a
    record of a frame that is gone. -/
def KeptCall (s : State) (rest : List Task) : Call → Prop
  | .dataPortMessage k true => ∀ port, s.dataPorts[k]? = some port →
    port.deviceId ∈ s.runtimeDataPorts ∨ Attended s rest port.deviceId
  | .portDisconnected deviceId => ∀ key ∈ s.nmPlanes, key.device = deviceId.text →
    ∃ d ∈ s.runtimeDataPorts, d ≠ deviceId ∧ d.text = deviceId.text
  | .workerReady client _ _ => client.frame ∈ s.frameContexts
  | .destroyFrame frame notify => (∀ key ∈ s.mapKeys, key.frame = frame → key.device ≠ "") ∧
    (notify = true → ∀ entry ∈ s.sessions, entry.1 ∈ s.clientsOf frame → ∃ name, entry.2 = .string name)
  | _ => True

/-- The same of a task that goes on. -/
def KeptAnswer (s : State) (task : Task) (rest : List Task) (answer : Answer) : Prop :=
  match task,answer with
  | .opening client deviceId true,.answered false => Spared s rest client deviceId fun d =>
    d = deviceId ∧ (s.sessionOwner client,deviceId) ∉ failedSessions s client deviceId false
  | .opening client deviceId true,.thrown => Spared s rest client deviceId fun d =>
    d = deviceId ∧ (s.sessionOwner client,deviceId) ∉ failedSessions s client deviceId true
  | .opened client deviceId true true,.resumed => Spared s rest client deviceId fun _ => False
  | .cleaning client deviceId true,.resumed => Spared s rest client deviceId fun _ => False
  | .spawning client deviceId _ _ _ (.opening true),.thrown => Spared s rest client deviceId (· = deviceId)
  | .hashing client deviceId _ _ (.opening true),.thrown => Spared s rest client deviceId (· = deviceId)
  | .hashing client _ _ _ _,.answered true => client.frame ∈ s.frameContexts
  | .requesting client deviceId generation _ _,.answered false =>
    (s.recordsOf (planeKeyForClient client deviceId)).spawnGen ≠ generation →
      deviceId ∈ s.runtimeDataPorts → Attended s rest deviceId
  | .requesting client deviceId generation _ _,.granted _ =>
    ((s.recordsOf (planeKeyForClient client deviceId)).spawnGen ≠ generation →
      deviceId ∈ s.runtimeDataPorts → Attended s rest deviceId) ∧
    (client.frame ∈ s.frameContexts → (s.recordsOf (planeKeyForClient client deviceId)).spawnGen = generation →
      ∃ d ∈ s.runtimeDataPorts, d.text = deviceId.text)
  | .closing client _ true,.answered false => client ∈ s.clients
  | .asking client _ _,.answered true => client.frame ∈ s.frameContexts
  | .despawning client deviceId _ _,.resumed => OwnPort s rest client deviceId
  | _,_ => True

theorem start_holds {s : State} {rest : List Task} {call : Call} {done : State × List Task} (inv : Inv s rest none)
    (kept : KeptCall s rest call) (taken : start s call = some done) : Holds rest done := by
  cases call with
  | frameCreated =>
    cases taken
    refine { inv with alive := ?_, owned := ?_, cleared := ?_ }
    · intro client among
      rcases List.mem_append.mp among with before | new
      · exact List.mem_append_left _ (inv.alive client before)
      · cases List.mem_singleton.mp new
        exact List.mem_append_right _ List.mem_cons_self
    · exact fun entry held => (inv.owned entry held).imp_left (List.mem_append_left _)
    · rintro key ⟨dead,passed⟩
      exact (inv.cleared key ⟨fun alive => dead (List.mem_append_left _ alive),passed⟩).beside rfl rfl rfl rfl
  | workerPort frame =>
    simp only [start] at taken
    split_ifs at taken with alive
    cases taken
    refine { inv with alive := ?_, owned := ?_, cleared := ?_ }
    · intro client among
      rcases List.mem_append.mp among with before | new
      · exact inv.alive client before
      · cases List.mem_singleton.mp new
        exact alive
    · exact fun entry held => (inv.owned entry held).imp_left (List.mem_append_left _)
    · exact fun key gone => (inv.cleared key gone).beside rfl rfl rfl rfl
  | openRequest client deviceId nm => exact openRequest_holds inv taken
  | closeRequest client deviceId =>
    simp only [start] at taken
    split_ifs at taken
    cases taken
    exact inv.idle.swap (finished_retains.replaces rfl trivial) rfl
  | dataPortRequest client deviceId generation =>
    cases taken
    exact handleDataPortRequest_holds inv
  | dataPortMessage k thrown =>
    obtain ⟨port,found,rfl⟩ := Option.map_eq_some_iff.mp taken
    refine onDataPortMessage_holds inv (List.mem_of_getElem? found) ?_
    rintro rfl
    exact kept port found
  | message deviceId reqId =>
    cases taken
    exact onMessage_holds inv
  | portDisconnected deviceId =>
    cases taken
    exact onDisconnect_holds inv kept
  | workerReady client deviceId generation =>
    cases taken
    exact workerReady_holds inv kept
  | workerError client deviceId => exact handleWorkerErrorEvent_holds inv taken
  | planeReadyRequest client deviceId generation =>
    cases taken
    exact waitForPlaneReady_holds inv
  | planeReadyTimeout client deviceId => exact planeReadyTimeout_holds inv taken
  | deviceEvent frame deviceId =>
    simp only [start,State.reconcileFrameDevice] at taken
    split_ifs at taken
    cases taken
    exact reconcileNext_holds inv.idle (finished_retains.continues rfl rfl fun _ => trivial)
  | globalReset =>
    cases taken
    exact resetFrames_holds inv.idle finished_retains
  | workerClientDestroyed client =>
    simp only [start] at taken
    split_ifs at taken
    cases taken
    exact retireNext_holds inv.idle finished_retains
  | applyDataPlane start frames =>
    cases taken
    exact switchNext_holds inv.idle finished_retains
  | destroyFrame frame notify => exact destroyFrameContext_holds inv kept.1 kept.2 taken

theorem go_holds {s : State} {task : Task} {rest : List Task} {answer : Answer} {done : State × List Task}
    (inv : Inv s (task :: rest) none) (kept : KeptAnswer s task rest answer) (taken : go s task answer = some done) :
    Holds rest done := by
  cases task with
  | finished => cases answer <;> cases taken
  | opening client deviceId attempt =>
    cases answer with
    | accepted start =>
      cases taken
      exact handleOpenSuccess_holds inv
    | answered ok =>
      cases ok <;> cases taken
      refine openFailed_holds inv ?_
      rintro rfl
      exact kept
    | thrown =>
      cases taken
      refine openFailed_holds inv ?_
      rintro rfl
      exact kept
    | _ => cases taken
  | opened client deviceId attempt accepted =>
    cases answer with
    | resumed =>
      cases taken
      refine openDone_holds inv ?_
      rintro rfl rfl
      exact kept
    | _ => cases taken
  | cleaning client deviceId attempt =>
    cases answer with
    | resumed =>
      cases taken
      refine cleaning_holds inv ?_
      rintro rfl
      exact kept
    | _ => cases taken
  | spawning client deviceId generation kind rewire caller =>
    cases answer with
    | answered ok =>
      cases ok <;> cases taken
      · exact spawnFailed_holds inv ⟨rfl,rfl,rfl,rfl,rfl⟩
      · exact workerSpawned_holds inv
    | thrown =>
      cases taken
      refine spawnThrown_holds inv ⟨rfl,rfl,rfl,rfl,rfl⟩ ?_
      rintro rfl
      exact kept
    | _ => cases taken
  | hashing client deviceId generation rewire caller =>
    cases answer with
    | answered ok =>
      cases ok <;> cases taken
      · exact spawnFailed_holds inv ⟨rfl,rfl,rfl,rfl,rfl⟩
      · refine connectInPage_holds inv ?_
        rcases caller with _ | (_ | _) <;> exact kept
    | thrown =>
      cases taken
      refine spawnThrown_holds inv ⟨rfl,rfl,rfl,rfl,rfl⟩ ?_
      rintro rfl
      exact kept
    | _ => cases taken
  | connecting client deviceId generation id rewire caller =>
    cases answer with
    | answered ok =>
      simp only [go] at taken
      split_ifs at taken with listed <;> cases taken
      · exact connected_holds inv listed
      · exact spawnFailed_holds (inv.settle id) ⟨rfl,rfl,rfl,rfl,rfl⟩
    | timedOut =>
      simp only [go] at taken
      split_ifs at taken
      cases taken
      exact connectTimedOut_holds inv
    | resumed =>
      simp only [go] at taken
      split_ifs at taken
      cases taken
      exact spawnFailed_holds inv ⟨rfl,rfl,rfl,rfl,rfl⟩
    | _ => cases taken
  | retired client deviceId =>
    cases answer with
    | resumed =>
      cases taken
      exact requestFallback_holds inv ⟨rfl,rfl,rfl,rfl,rfl⟩
    | _ => cases taken
  | requesting client deviceId generation rewire caller =>
    cases answer with
    | answered ok =>
      cases ok <;> cases taken
      exact failFallback_holds inv kept
    | granted wired =>
      cases taken
      exact grantFallback_holds inv kept.1 kept.2
    | _ => cases taken
  | recovering client deviceId =>
    cases answer with
    | accepted start =>
      cases taken
      exact recovered_holds inv
    | _ => cases taken
  | closing client deviceId reserved =>
    cases answer with
    | answered ok =>
      cases taken
      refine closed_holds inv ?_
      rintro rfl rfl
      exact kept
    | thrown =>
      cases taken
      exact inv.finish ⟨rfl,rfl,rfl,rfl,rfl⟩
    | _ => cases taken
  | reconciling deviceId todo next =>
    cases answer with
    | resumed =>
      cases taken
      exact reconcileNext_holds inv (by constructor <;> simp)
    | _ => cases taken
  | resetting frame clients devices frames =>
    have only : (Task.resetting frame clients devices frames).Retains none := ⟨rfl,rfl,rfl,rfl,rfl⟩
    cases answer with
    | resumed =>
      cases devices with
      | nil =>
        cases taken
        exact resetFrames_holds inv only
      | cons deviceId devices =>
        cases taken
        exact resetDevice_holds inv (only.continues rfl rfl fun _ => trivial)
    | _ => cases taken
  | retiring client visited =>
    cases answer with
    | resumed =>
      cases taken
      exact retireNext_holds inv ⟨rfl,rfl,rfl,rfl,rfl⟩
    | _ => cases taken
  | retiringClose client deviceId visited =>
    have only : (Task.retiringClose client deviceId visited).Retains none := ⟨rfl,rfl,rfl,rfl,rfl⟩
    cases answer with
    | resumed =>
      cases taken
      exact inv.remove (only.continues rfl rfl fun _ => trivial)
    | _ => cases taken
  | switching start todo active =>
    have only : (Task.switching start todo active).Retains none := ⟨rfl,rfl,rfl,rfl,rfl⟩
    cases answer with
    | resumed =>
      simp only [go] at taken
      split_ifs at taken
      cases taken
      exact switchNext_holds inv only
    | inOrigin frames =>
      cases todo with
      | nil =>
        simp only [go] at taken
        split_ifs at taken <;> cases taken
        · exact askNext_holds inv only
        · refine respawnPlanesForMode_holds (inv.finish only) fun session among => ?_
          have active := (List.mem_filter.mp among).2
          simp only [Bool.and_eq_true,decide_eq_true_eq] at active
          exact active.1.2
      | cons session todo => cases taken
    | _ => cases todo <;> cases taken
  | asking client deviceId sessions =>
    cases answer with
    | answered ok =>
      cases taken
      refine switchAnswered_holds inv ?_
      rintro rfl
      exact kept
    | _ => cases taken
  | refused sessions =>
    cases answer with
    | resumed =>
      cases taken
      exact askNext_holds inv ⟨rfl,rfl,rfl,rfl,rfl⟩
    | _ => cases taken
  | destroying frame notify records opened todo =>
    cases answer with
    | resumed =>
      cases taken
      exact destroyNext_holds inv
    | _ => cases taken
  | notifying frame notify records opened deviceId todo =>
    cases answer with
    | resumed =>
      cases taken
      exact notifying_holds inv
    | _ => cases taken
  | despawning client deviceId keepPort next =>
    cases answer with
    | resumed =>
      cases taken
      exact (inv.despawned kept).follow
    | _ => cases taken

theorem stretches : Stretches start go (fun s tasks => Inv s tasks none) KeptCall KeptAnswer where
  perm := Inv.perm
  call := fun inv kept taken => start_holds inv kept taken
  answer := fun inv kept taken => go_holds inv kept taken

/-- No task is about a frame: none destroys it, removes a plane of it or has an attempt for it. -/
def Settled (tasks : List Task) (frame : Nat) : Prop :=
  ∀ t ∈ tasks, (∀ key, t.attempt = some key ∨ key ∈ t.due ∨ (∃ keepPort, t.removes = some (key,keepPort)) →
    key.frame ≠ frame) ∧ ∀ client ∈ t.clears, client.frame ≠ frame

/-- Of the planes of a frame nothing is recorded but which generations they have had. -/
structure Forgotten (s : State) (frame : Nat) : Prop where
  clients : ∀ client ∈ s.clients, client.frame ≠ frame
  sessions : ∀ entry ∈ s.sessions, entry.1.frame ≠ frame
  records : ∀ key, key.frame = frame → s.recordsOf key = { spawnGen := (s.recordsOf key).spawnGen }
  ports : ∀ port ∈ s.dataPorts, port.key.frame ≠ frame
  pending : ∀ p ∈ s.dataPending, p.key.frame ≠ frame
  spawns : ∀ p ∈ s.pendingPlaneSpawns, p.key.frame ≠ frame
  attempts : ∀ key ∈ s.nmOpenAttempts, key.frame ≠ frame

/-- Once nothing is in flight the port of a device is there if a client has an NM plane on
    it or a report is not answered. A frame that was destroyed leaves nothing behind, and
    the devices that were open in it were notified where it was asked for. -/
structure Good (w : World State Task) : Prop where
  ports : w.tasks = [] → ∀ device, (∃ d ∈ w.state.runtimeDataPorts, d.text = device) ↔
    (∃ key ∈ w.state.nmPlanes, key.device = device) ∨ ∃ p ∈ w.state.dataPending, p.deviceId.text = device
  forgotten : ∀ frame, frame ∉ w.state.frameContexts → Settled w.tasks frame → Forgotten w.state frame
  notified : ∀ e ∈ w.state.destructions, e.notify = true → ∀ d ∈ e.opened, (e.frame,d) ∈ w.state.notices

theorem Records.only {r : Records} (plane : r.toPlane = { spawnGen := r.spawnGen })
    (waiting : r.pendingPlaneReady = none) (ready : r.workerReadyDevices = false) : r = { spawnGen := r.spawnGen } := by
  obtain ⟨p,waits,worker⟩ := r
  cases waiting
  cases ready
  exact congrArg (Records.mk · none false) plane

theorem Inv.forgotten {s : State} {tasks : List Task} {frame : Nat} (inv : Inv s tasks none)
    (dead : frame ∉ s.frameContexts) (settled : Settled tasks frame) : Forgotten s frame := by
  have cleared {key : Key} (own : key.frame = frame) : Cleared s tasks key :=
    inv.cleared key ⟨own ▸ dead,fun t among due => (settled t among).1 key (.inr (.inl due)) own⟩
  have free {key : Key} (own : key.frame = frame) : ∀ t ∈ tasks, ∀ keepPort, t.removes ≠ some (key,keepPort) :=
    fun t among keepPort removes => (settled t among).1 key (.inr (.inr ⟨keepPort,removes⟩)) own
  have gone {client : Client} (among : client ∈ s.clients) : client.frame ≠ frame := by
    rintro rfl
    exact dead (inv.alive client among)
  constructor
  case clients => exact fun client among => gone among
  case sessions =>
    intro entry held
    rcases inv.owned entry held with there | ⟨t,among,own⟩
    · exact gone there
    · exact (settled t among).2 _ own
  case records =>
    intro key own
    have plane := ((cleared own).tail (free own)).1
    obtain ⟨_,_,_,waiting,ready⟩ := (cleared own).head
    exact Records.only plane waiting ready
  case ports => exact fun port among own => (cleared own).ports (fun t member => free own t member false) port among rfl
  case pending => exact fun p among own => ((cleared own).tail (free own)).2.1 p among rfl
  case spawns => exact fun p among own => ((cleared own).tail (free own)).2.2 p among rfl
  case attempts =>
    intro key among
    obtain ⟨t,member,attempt⟩ := List.mem_filterMap.mp (inv.attempts.mem_iff.mp among)
    exact (settled t member).1 key (.inl attempt)

theorem Inv.good {w : World State Task} (inv : Inv w.state w.tasks none) : Good w where
  ports := by
    intro idle device
    have unheld := inv.attempts
    have used := inv.attended
    rw [idle] at unheld used
    constructor
    · rintro ⟨d,listed,rfl⟩
      rcases used d listed with none_ | inUse | ⟨t,among,_⟩
      · cases none_
      · rcases inUse_iff.mp inUse with ⟨key,held,same⟩ | ⟨key,among,_⟩ | ⟨p,among,rfl⟩
        · exact .inl ⟨key,mem_nmPlanes.mpr held,same⟩
        · exact absurd (unheld.mem_iff.mp among) List.not_mem_nil
        · exact .inr ⟨p,among,rfl⟩
      · exact absurd among List.not_mem_nil
    · rintro (⟨key,held,rfl⟩ | ⟨p,among,rfl⟩)
      · exact inv.planePort key (mem_nmPlanes.mp held)
      · exact ⟨_,inv.pendingPort p among,rfl⟩
  forgotten := fun _ dead settled => inv.forgotten dead settled
  notified := inv.ended

/-- In every run whose steps meet the conditions. -/
theorem data_ports_kept (trace : List (Event Call Answer))
    (kept : AllSteps step (fun w event _ => Meets KeptCall KeptAnswer w event) ⟨{},[]⟩ trace) :
    AllSteps step (fun _ _ w' => Good w') ⟨{},[]⟩ trace := by
  refine allSteps_mono (I := fun _ => True) (fun _ _ _ _ _ => trivial) ?_ trivial (stretches.run start_inv kept)
  exact fun _ _ _ _ _ inv => Inv.good inv

/-- A device is opened over NM and closed again. -/
theorem closed_port_kept : AllSteps step (fun _ _ w' => Good w') ⟨{},[]⟩
    [.call .frameCreated,.call (.openRequest ⟨1,"window"⟩ (.number 5) true),.resume 0 (.accepted .nm),
      .resume 0 .resumed,.call (.closeRequest ⟨1,"window"⟩ (.number 5)),.resume 0 (.answered true),.resume 0 .resumed] := by
  refine data_ports_kept _ ?_
  refine allSteps_cons rfl trivial (allSteps_cons rfl trivial ?_)
  refine allSteps_cons rfl (meets_resume rfl trivial) ?_
  refine allSteps_cons rfl (meets_resume rfl ?_) ?_
  · intro d listed _
    cases List.mem_singleton.mp listed
    exact .inr (.inl rfl)
  refine allSteps_cons rfl trivial (allSteps_cons rfl (meets_resume rfl trivial) ?_)
  refine allSteps_cons rfl (meets_resume rfl ?_) trivial
  exact fun d listed _ => .inl (List.mem_singleton.mp listed)

/-- The destruction of a frame has the device of a plane as a string, and misses a port and
    a session that have it as a number. -/
theorem numeric_port_left : ∃ w, exec step ⟨{},[]⟩
    [.call .frameCreated,.call (.openRequest ⟨1,"window"⟩ (.number 5) true),.resume 0 (.accepted .nm),
      .resume 0 .resumed,.call (.destroyFrame 1 true),.resume 0 .resumed,.resume 0 .resumed,.resume 0 .resumed] = some w ∧
    w.tasks = [] ∧ w.state.runtimeDataPorts = [.number 5] ∧ w.state.nmPlanes = [] ∧ w.state.dataPending = [] ∧
    w.state.destructions = [⟨1,true,[.number 5]⟩] ∧ w.state.notices = [] ∧ ¬Good w := by
  refine ⟨_,rfl,rfl,rfl,rfl,rfl,rfl,rfl,fun good => ?_⟩
  have noticed := good.notified _ List.mem_cons_self rfl (.number 5) List.mem_cons_self
  cases noticed

end FFWebHid.RuntimePorts
