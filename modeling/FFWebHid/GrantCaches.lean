import Mathlib.Data.Finset.Prod
import Mathlib.Data.Finset.Image
import FFWebHid.Maps
import FFWebHid.Runs
import FFWebHid.StateOps

/-! What a bridge knows of the grants. The background keeps them and tells every bridge of a change; a bridge loads the
devices of an origin when it first needs them, and keeps the questions that come before. The messages to the bridge come
in any order. -/

namespace FFWebHid.GrantCaches
open FFWebHid.Maps FFWebHid.Runs FFWebHid.StateOps

abbrev Grants := Finset (Origin × DeviceId)

def getAllowedDevices (grants : Grants) (origin : Origin) : Finset DeviceId :=
  (grants.filter (fun grant => grant.1 = origin)).image Prod.snd

/-- What a handler read, and how many changes came before. -/
structure Read where
  origin : Origin
  deviceIds : Finset DeviceId
  version : Nat
  deriving DecidableEq

/-- A handler of the background: it changes the grants of an origin one device after the other, reads them, and tells the
    tabs. -/
inductive Job where
  | changing (origin : Origin) (devices : List DeviceId) (granted : Bool)
  | telling (r : Read)
  deriving DecidableEq

def Job.origin : Job → Origin
  | changing origin _ _ => origin
  | telling r => r.origin

/-- A promise of `allowedLoads`: its request is under way, its answer is, or it is about to leave the map. -/
inductive Load where
  | requested
  | answered (r : Read)
  | settled
  deriving DecidableEq

/-- A load that `grantSelectedDevices` starts by itself. -/
inductive Reload where
  | requested (origin : Origin)
  | answered (r : Read)
  deriving DecidableEq

/-- An entry of `allowedDeviceIdsQueue`. -/
structure Question where
  id : Nat
  origin : Origin
  deviceId : DeviceId
  deriving DecidableEq,Repr

/-- The background's grants and handlers, the messages to the bridge, and the bridge. `version` counts the changes,
    `changedAt`
    has the last one of each origin and `heard` the one that came before what the bridge took last; `ever` are the grants
    there were, and `missed` the origins of which a handler broke off or a load failed. -/
structure World where
  grants : Grants
  ever : Grants
  jobs : List Job := []
  messages : List Read := []
  allowedLoads : HashMap Origin Load := ∅
  reloads : List Reload := []
  allowedByOrigin : HashMap Origin (Finset DeviceId) := ∅
  loadedOrigins : Finset Origin := ∅
  queue : List Question := []
  asked : Nat := 0
  answers : List (Question × Bool) := []
  version : Nat := 0
  changedAt : Origin → Nat := fun _ => 0
  heard : Origin → Nat := fun _ => 0
  missed : Finset Origin := ∅

def start (grants : Grants) : World where
  grants := grants
  ever := grants

namespace World
variable (w : World)

def allowed (origin : Origin) : Finset DeviceId := (w.allowedByOrigin.lookup origin).getD ∅

def read (origin : Origin) : Read := ⟨origin,getAllowedDevices w.grants origin,w.version⟩

/-- `addAllowedDevice` and `removeAllowedDevice`. -/
def change (origin : Origin) (d : DeviceId) (granted : Bool) : World :=
  { w with
    grants := if granted then insert (origin,d) w.grants else w.grants.erase (origin,d)
    ever := if granted then insert (origin,d) w.ever else w.ever
    version := w.version + 1
    changedAt := Function.update w.changedAt origin (w.version + 1) }

/-- The last entry is answered first. -/
def flushAllowedDeviceIdsQueue (origin : Origin) : World :=
  { w with
    queue := w.queue.filter (fun q => q.origin ≠ origin)
    answers := w.answers ++
      (w.queue.filter (fun q => q.origin = origin)).reverse.map (fun q => (q,decide (q.deviceId ∈ w.allowed origin))) }

/-- The devices of an origin are set, and the questions about it answered. -/
def take (origin : Origin) (deviceIds : Finset DeviceId) : World :=
  { w with
    allowedByOrigin := w.allowedByOrigin.insert origin deviceIds
    loadedOrigins := insert origin w.loadedOrigins }.flushAllowedDeviceIdsQueue origin

def takeRead (r : Read) : World :=
  { w.take r.origin r.deviceIds with heard := Function.update w.heard r.origin r.version }

def answer (q : Question) (allowed : Bool) : World :=
  { w with asked := w.asked + 1,answers := w.answers ++ [(q,allowed)] }

def isDeviceAllowed (origin : Origin) (d : DeviceId) : World :=
  let q : Question := ⟨w.asked,origin,d⟩
  if origin = "" then w.answer q false
  else if origin ∈ w.loadedOrigins then w.answer q (decide (d ∈ w.allowed origin))
  else
    { w with
      asked := w.asked + 1
      queue := w.queue ++ [q]
      allowedLoads :=
        if (w.allowedLoads.lookup origin).isSome then w.allowedLoads else w.allowedLoads.insert origin .requested }

end World

inductive Action where
  /-- `handlePairDevice`. -/
  | pair (origin : Origin) (d : DeviceId)
  /-- `revokeDevices` and `handleUnpairDevice`. -/
  | revoke (origin : Origin) (devices : List DeviceId)
  /-- A handler goes on. -/
  | run (n : Nat)
  /-- A handler ends with an error, or its message is lost. -/
  | breakOff (n : Nat)
  /-- The bridge takes an `allowedDevicesChanged`. -/
  | changed (n : Nat)
  | isDeviceAllowed (origin : Origin) (d : DeviceId)
  /-- `handleGetAllowedDevices`. -/
  | getAllowedDevices (origin : Origin)
  /-- The answer to a load, or its failure. -/
  | loaded (origin : Origin)
  | failed (origin : Origin)
  /-- The `finally` of a load. -/
  | settle (origin : Origin)
  /-- The end of `grantSelectedDevices`, and what its load comes to. -/
  | reload (origin : Origin)
  | readReload (n : Nat)
  | reloaded (n : Nat)
  | reloadFailed (n : Nat)
  deriving DecidableEq

def step (w : World) : Action → Option World
  | .pair origin d => some { w with jobs := w.jobs ++ [.changing origin [d] true] }
  | .revoke origin devices => some { w with jobs := w.jobs ++ [.changing origin devices false] }
  | .run n =>
    match w.jobs[n]? with
    | some (.changing origin (d :: devices) granted) =>
      some { w.change origin d granted with jobs := w.jobs.set n (.changing origin devices granted) }
    | some (.changing origin [] _) => some { w with jobs := w.jobs.set n (.telling (w.read origin)) }
    | some (.telling r) => some { w with jobs := w.jobs.eraseIdx n,messages := w.messages ++ [r] }
    | none => none
  | .breakOff n =>
    match w.jobs[n]? with
    | some job => some { w with jobs := w.jobs.eraseIdx n,missed := insert job.origin w.missed }
    | none => none
  | .changed n =>
    match w.messages[n]? with
    | some r => some ({ w with messages := w.messages.eraseIdx n }.takeRead r)
    | none => none
  | .isDeviceAllowed origin d => some (w.isDeviceAllowed origin d)
  | .getAllowedDevices origin =>
    if w.allowedLoads.lookup origin = some .requested then
      some { w with allowedLoads := w.allowedLoads.insert origin (.answered (w.read origin)) }
    else none
  | .loaded origin =>
    match w.allowedLoads.lookup origin with
    | some (.answered r) => some ({ w with allowedLoads := w.allowedLoads.insert origin .settled }.takeRead r)
    | _ => none
  | .failed origin =>
    match w.allowedLoads.lookup origin with
    | none => none
    | some .settled => none
    | some _ =>
      some ({ w with
        allowedLoads := w.allowedLoads.insert origin .settled
        missed := insert origin w.missed }.take origin ∅)
  | .settle origin =>
    if w.allowedLoads.lookup origin = some .settled then some { w with allowedLoads := w.allowedLoads.erase origin }
    else none
  | .reload origin => some { w with reloads := w.reloads ++ [.requested origin] }
  | .readReload n =>
    match w.reloads[n]? with
    | some (.requested origin) => some { w with reloads := w.reloads.set n (.answered (w.read origin)) }
    | _ => none
  | .reloaded n =>
    match w.reloads[n]? with
    | some (.answered r) => some ({ w with reloads := w.reloads.eraseIdx n }.takeRead r)
    | _ => none
  | .reloadFailed n =>
    match w.reloads[n]? with
    | some (.requested origin) =>
      some ({ w with reloads := w.reloads.eraseIdx n,missed := insert origin w.missed }.take origin ∅)
    | some (.answered r) =>
      some ({ w with reloads := w.reloads.eraseIdx n,missed := insert r.origin w.missed }.take r.origin ∅)
    | none => none

/-- The read that the bridge takes. -/
def takes (w : World) : Action → Option Read
  | .changed n => w.messages[n]?
  | .loaded origin =>
    match w.allowedLoads.lookup origin with
    | some (.answered r) => some r
    | _ => none
  | .reloaded n =>
    match w.reloads[n]? with
    | some (.answered r) => some r
    | _ => none
  | _ => none

/-- What the bridge takes of an origin was not read before what it took last. -/
def inOrder (w : World) (a : Action) : Bool := (takes w a).all (fun r => w.heard r.origin ≤ r.version)

/-- What an action does, a case for each branch. -/
inductive Stepped (w : World) : Action → World → Prop where
  | pair (origin : Origin) (d : DeviceId) :
    Stepped w (.pair origin d) { w with jobs := w.jobs ++ [.changing origin [d] true] }
  | revoke (origin : Origin) (devices : List DeviceId) :
    Stepped w (.revoke origin devices) { w with jobs := w.jobs ++ [.changing origin devices false] }
  | change {n : Nat} {origin : Origin} {d : DeviceId} {devices : List DeviceId} {granted : Bool}
      (found : w.jobs[n]? = some (.changing origin (d :: devices) granted)) :
    Stepped w (.run n) { w.change origin d granted with jobs := w.jobs.set n (.changing origin devices granted) }
  | read {n : Nat} {origin : Origin} {granted : Bool} (found : w.jobs[n]? = some (.changing origin [] granted)) :
    Stepped w (.run n) { w with jobs := w.jobs.set n (.telling (w.read origin)) }
  | tell {n : Nat} {r : Read} (found : w.jobs[n]? = some (.telling r)) :
    Stepped w (.run n) { w with jobs := w.jobs.eraseIdx n,messages := w.messages ++ [r] }
  | breakOff {n : Nat} {job : Job} (found : w.jobs[n]? = some job) :
    Stepped w (.breakOff n) { w with jobs := w.jobs.eraseIdx n,missed := insert job.origin w.missed }
  | changed {n : Nat} {r : Read} (found : w.messages[n]? = some r) :
    Stepped w (.changed n) ({ w with messages := w.messages.eraseIdx n }.takeRead r)
  | isDeviceAllowed (origin : Origin) (d : DeviceId) :
    Stepped w (.isDeviceAllowed origin d) (w.isDeviceAllowed origin d)
  | getAllowedDevices {origin : Origin} (found : w.allowedLoads.lookup origin = some .requested) :
    Stepped w (.getAllowedDevices origin)
      { w with allowedLoads := w.allowedLoads.insert origin (.answered (w.read origin)) }
  | loaded {origin : Origin} {r : Read} (found : w.allowedLoads.lookup origin = some (.answered r)) :
    Stepped w (.loaded origin) ({ w with allowedLoads := w.allowedLoads.insert origin .settled }.takeRead r)
  | failed {origin : Origin} {load : Load} (found : w.allowedLoads.lookup origin = some load)
      (under : load ≠ .settled) :
    Stepped w (.failed origin) ({ w with
      allowedLoads := w.allowedLoads.insert origin .settled
      missed := insert origin w.missed }.take origin ∅)
  | settle {origin : Origin} (found : w.allowedLoads.lookup origin = some .settled) :
    Stepped w (.settle origin) { w with allowedLoads := w.allowedLoads.erase origin }
  | reload (origin : Origin) : Stepped w (.reload origin) { w with reloads := w.reloads ++ [.requested origin] }
  | readReload {n : Nat} {origin : Origin} (found : w.reloads[n]? = some (.requested origin)) :
    Stepped w (.readReload n) { w with reloads := w.reloads.set n (.answered (w.read origin)) }
  | reloaded {n : Nat} {r : Read} (found : w.reloads[n]? = some (.answered r)) :
    Stepped w (.reloaded n) ({ w with reloads := w.reloads.eraseIdx n }.takeRead r)
  | reloadFailed {n : Nat} {load : Reload} (found : w.reloads[n]? = some load) (origin : Origin) :
    Stepped w (.reloadFailed n)
      ({ w with reloads := w.reloads.eraseIdx n,missed := insert origin w.missed }.take origin ∅)

section Steps
variable {w w' : World} {a : Action} {origin : Origin} {d : DeviceId} {r : Read}

theorem step_cases (stepped : step w a = some w') : Stepped w a w' := by
  cases a with
  | pair origin d =>
    cases stepped
    exact .pair origin d
  | revoke origin devices =>
    cases stepped
    exact .revoke origin devices
  | run n =>
    simp only [step] at stepped
    split at stepped <;> cases stepped
    · next found => exact .change found
    · next found => exact .read found
    · next found => exact .tell found
  | breakOff n =>
    simp only [step] at stepped
    split at stepped <;> cases stepped
    next found => exact .breakOff found
  | changed n =>
    simp only [step] at stepped
    split at stepped <;> cases stepped
    next found => exact .changed found
  | isDeviceAllowed origin d =>
    cases stepped
    exact .isDeviceAllowed origin d
  | getAllowedDevices origin =>
    simp only [step,Option.ite_none_right_eq_some,Option.some.injEq] at stepped
    obtain ⟨found,rfl⟩ := stepped
    exact .getAllowedDevices found
  | loaded origin =>
    simp only [step] at stepped
    split at stepped <;> cases stepped
    next found => exact .loaded found
  | failed origin =>
    simp only [step] at stepped
    split at stepped <;> cases stepped
    next other found => exact .failed found other
  | settle origin =>
    simp only [step,Option.ite_none_right_eq_some,Option.some.injEq] at stepped
    obtain ⟨found,rfl⟩ := stepped
    exact .settle found
  | reload origin =>
    cases stepped
    exact .reload origin
  | readReload n =>
    simp only [step] at stepped
    split at stepped <;> cases stepped
    next found => exact .readReload found
  | reloaded n =>
    simp only [step] at stepped
    split at stepped <;> cases stepped
    next found => exact .reloaded found
  | reloadFailed n =>
    simp only [step] at stepped
    split at stepped <;> cases stepped
    · next found => exact .reloadFailed found _
    · next found => exact .reloadFailed found _

theorem mem_getAllowedDevices {grants : Grants} : d ∈ getAllowedDevices grants origin ↔ (origin,d) ∈ grants := by
  simp [getAllowedDevices]

/-! ### The questions -/

structure Settles (w : World) : Prop where
  once : (w.answers.map (fun a => a.1.id) ++ w.queue.map Question.id).Perm (List.range w.asked)
  waits : ∀ q ∈ w.queue, q.origin ∉ w.loadedOrigins ∧ ∃ load, w.allowedLoads.lookup q.origin = some load ∧ load ≠ .settled
  settled : ∀ o, w.allowedLoads.lookup o = some .settled → o ∈ w.loadedOrigins
  placed : ∀ o r, w.allowedLoads.lookup o = some (.answered r) → r.origin = o

/-- Whatever leaves the bridge's maps and its questions alone keeps this. -/
theorem Settles.elsewhere (settles : Settles w) (answers : w'.answers = w.answers) (queue : w'.queue = w.queue)
    (asked : w'.asked = w.asked) (loaded : w'.loadedOrigins = w.loadedOrigins)
    (loads : w'.allowedLoads = w.allowedLoads) : Settles w' := by
  refine ⟨?_,?_,?_,?_⟩
  · rw [answers,queue,asked]
    exact settles.once
  · rw [queue,loaded,loads]
    exact settles.waits
  · rw [loaded,loads]
    exact settles.settled
  · rw [loads]
    exact settles.placed

/-- The questions about an origin leave the queue as it is loaded, and whatever the load does then is of no account. -/
theorem Settles.take (settles : Settles w) (loads : HashMap Origin Load)
    (others : ∀ o, o ≠ origin → loads.lookup o = w.allowedLoads.lookup o)
    (own : ∀ r, loads.lookup origin = some (.answered r) → r.origin = origin) (deviceIds : Finset DeviceId) :
    Settles ({ w with allowedLoads := loads }.take origin deviceIds) := by
  refine ⟨?_,?_,?_,?_⟩
  · have moved := List.filter_append_perm (fun q : Question => decide (q.origin = origin)) w.queue
    simp only [World.take,World.flushAllowedDeviceIdsQueue,List.map_append,List.map_map,List.map_reverse,
      List.append_assoc]
    apply List.Perm.trans _ settles.once
    apply List.Perm.append_left
    apply List.Perm.trans _ (moved.map Question.id)
    rw [List.map_append]
    refine List.Perm.append (List.reverse_perm _) (List.Perm.of_eq ?_)
    congr 2
    funext q
    simp
  · intro q member
    have kept := List.mem_filter.mp member
    have other : q.origin ≠ origin := by simpa using kept.2
    obtain ⟨unloaded,load,there,under⟩ := settles.waits q kept.1
    refine ⟨?_,load,(others _ other).trans there,under⟩
    intro loaded
    rcases Finset.mem_insert.mp loaded with same | old
    · exact other same
    · exact unloaded old
  · intro o found
    by_cases same : o = origin
    · exact Finset.mem_insert.mpr (.inl same)
    · exact Finset.mem_insert_of_mem (settles.settled o ((others o same).symm.trans found))
  · intro o r found
    by_cases same : o = origin
    · subst same
      exact own r found
    · exact settles.placed o r ((others o same).symm.trans found)

theorem Settles.answer (settles : Settles w) (q : Question) (allowed : Bool) (id : q.id = w.asked) :
    Settles (w.answer q allowed) := by
  refine ⟨?_,settles.waits,settles.settled,settles.placed⟩
  simp only [World.answer,List.map_append,List.map_cons,List.map_nil,List.range_succ,id,List.append_assoc]
  apply List.Perm.trans (List.perm_append_comm_assoc _ _ _)
  exact List.Perm.trans List.perm_append_comm (settles.once.append_right _)

theorem Settles.ask (settles : Settles w) : Settles (w.isDeviceAllowed origin d) := by
  unfold World.isDeviceAllowed
  split
  · exact settles.answer _ _ rfl
  split
  · exact settles.answer _ _ rfl
  · next unloaded =>
    have lookup (o : Origin) : (if (w.allowedLoads.lookup origin).isSome then w.allowedLoads
        else w.allowedLoads.insert origin .requested).lookup o =
          if o = origin ∧ w.allowedLoads.lookup origin = none then some .requested else w.allowedLoads.lookup o := by
      cases found : w.allowedLoads.lookup origin with
      | none => simp [lookup_insert_eq]
      | some load => simp
    refine ⟨?_,?_,?_,?_⟩
    · simp only [List.map_append,List.map_cons,List.map_nil,List.range_succ]
      rw [← List.append_assoc]
      exact settles.once.append_right _
    · intro q member
      rw [lookup]
      rcases List.mem_append.mp member with old | new
      · obtain ⟨waits,load,there,under⟩ := settles.waits q old
        refine ⟨waits,load,?_,under⟩
        rw [if_neg]
        · exact there
        · rintro ⟨same,none⟩
          rw [same,none] at there
          cases there
      · rw [List.mem_singleton.mp new]
        refine ⟨unloaded,?_⟩
        cases found : w.allowedLoads.lookup origin with
        | none => exact ⟨.requested,by simp,by simp⟩
        | some load =>
          refine ⟨load,by simp,?_⟩
          rintro rfl
          exact unloaded (settles.settled origin found)
    · intro o found
      rw [lookup] at found
      split at found
      · cases found
      · exact settles.settled o found
    · intro o r found
      rw [lookup] at found
      split at found
      · cases found
      · exact settles.placed o r found

/-- The load leaves the map's promise settled as its answer is taken. -/
theorem Settles.take_settled (settles : Settles w) (deviceIds : Finset DeviceId) :
    Settles ({ w with allowedLoads := w.allowedLoads.insert origin .settled }.take origin deviceIds) := by
  apply settles.take
  · intro o other
    rw [lookup_insert_eq,if_neg other]
  · intro r found
    rw [lookup_insert_eq,if_pos rfl] at found
    cases found

theorem Settles.read (settles : Settles w) :
    Settles { w with allowedLoads := w.allowedLoads.insert origin (.answered (w.read origin)) } := by
  refine ⟨settles.once,?_,?_,?_⟩
  · intro q member
    obtain ⟨waits,load,there,under⟩ := settles.waits q member
    refine ⟨waits,?_⟩
    by_cases same : q.origin = origin
    · exact ⟨.answered (w.read origin),by simp [lookup_insert_eq,same],by simp⟩
    · exact ⟨load,by simpa [lookup_insert_eq,same] using there,under⟩
  · intro o found
    rw [lookup_insert_eq] at found
    split at found
    · cases found
    · exact settles.settled o found
  · intro o r found
    rw [lookup_insert_eq] at found
    split at found
    · next same =>
      cases found
      exact same.symm
    · exact settles.placed o r found

/-- No question waits for a promise that leaves the map. -/
theorem Settles.settle (settles : Settles w) (settled : w.allowedLoads.lookup origin = some .settled) :
    Settles { w with allowedLoads := w.allowedLoads.erase origin } := by
  have loaded := settles.settled origin settled
  have kept {o : Origin} {load : Load} (found : (w.allowedLoads.erase origin).lookup o = some load) :
      w.allowedLoads.lookup o = some load := lookup_of_erase found
  refine ⟨settles.once,?_,fun o found => settles.settled o (kept found),fun o r found => settles.placed o r (kept found)⟩
  intro q member
  obtain ⟨waits,load,there,under⟩ := settles.waits q member
  refine ⟨waits,load,?_,under⟩
  rw [lookup_erase_eq,if_neg]
  · exact there
  · intro same
    exact waits (same ▸ loaded)

theorem Settles.step (settles : Settles w) (stepped : step w a = some w') : Settles w' := by
  cases step_cases stepped with
  | changed | reloaded | reloadFailed =>
    exact (settles.take w.allowedLoads (fun _ _ => rfl) (settles.placed _) _).elsewhere rfl rfl rfl rfl rfl
  | isDeviceAllowed origin d => exact settles.ask
  | getAllowedDevices found => exact settles.read
  | loaded answered =>
    next origin r =>
    rw [World.takeRead,settles.placed origin r answered]
    exact (settles.take_settled _).elsewhere rfl rfl rfl rfl rfl
  | failed found under => exact (settles.take_settled ∅).elsewhere rfl rfl rfl rfl rfl
  | settle settled => exact settles.settle settled
  | _ => exact settles.elsewhere rfl rfl rfl rfl rfl

/-- A handler is to send the read, a message has it, or the answer to a load. -/
def World.UnderWay (w : World) (r : Read) : Prop :=
  .telling r ∈ w.jobs ∨ r ∈ w.messages ∨ .answered r ∈ w.reloads ∨ ∃ o, w.allowedLoads.lookup o = some (.answered r)

theorem World.UnderWay.old (under : w'.UnderWay r) (jobs : ∀ r, .telling r ∈ w'.jobs → .telling r ∈ w.jobs)
    (messages : ∀ r ∈ w'.messages, r ∈ w.messages) (reloads : ∀ r, .answered r ∈ w'.reloads → .answered r ∈ w.reloads)
    (loads : ∀ o r, w'.allowedLoads.lookup o = some (.answered r) → w.allowedLoads.lookup o = some (.answered r)) :
    w.UnderWay r := by
  rcases under with job | message | reload | ⟨o,found⟩
  · exact .inl (jobs r job)
  · exact .inr (.inl (messages r message))
  · exact .inr (.inr (.inl (reloads r reload)))
  · exact .inr (.inr (.inr ⟨o,loads o r found⟩))

/-- A value that is no answer takes the place of one. -/
theorem answered_insert {loads : HashMap Origin Load} {load : Load} (other : ∀ r, load ≠ .answered r) (o : Origin)
    (r : Read)
    (found : (loads.insert origin load).lookup o = some (.answered r)) : loads.lookup o = some (.answered r) := by
  rw [lookup_insert_eq] at found
  split at found
  · exact absurd (Option.some.inj found) (other r)
  · exact found

theorem telling_append {job : Job} {jobs : List Job} (old : ∀ r, .telling r ≠ job) (r : Read)
    (member : .telling r ∈ jobs ++ [job]) : .telling r ∈ jobs := by
  rcases List.mem_append.mp member with before | now
  · exact before
  · exact absurd (List.mem_singleton.mp now) (old r)

/-- A question starts a load that has no answer yet. -/
theorem underWay_ask (under : (w.isDeviceAllowed origin d).UnderWay r) : w.UnderWay r := by
  unfold World.isDeviceAllowed at under
  split at under
  · exact under
  split at under
  · exact under
  · refine under.old (fun _ m => m) (fun _ m => m) (fun _ m => m) ?_
    intro o r found
    simp only at found
    split at found
    · exact found
    · exact answered_insert (by simp) o r found

/-- A step reads what is granted then, and makes up nothing else. -/
theorem underWay_step (stepped : step w a = some w') (under : w'.UnderWay r) :
    w.UnderWay r ∨ (∃ o, r = w.read o) ∧ w'.grants = w.grants ∧ w'.version = w.version ∧ w'.changedAt = w.changedAt := by
  cases step_cases stepped with
  | pair origin d =>
    exact .inl (under.old (telling_append (by simp)) (fun _ m => m) (fun _ m => m) (fun _ _ found => found))
  | revoke origin devices =>
    exact .inl (under.old (telling_append (by simp)) (fun _ m => m) (fun _ m => m) (fun _ _ found => found))
  | change found =>
    left
    refine under.old ?_ (fun _ m => m) (fun _ m => m) (fun _ _ found => found)
    intro r job
    rcases List.mem_or_eq_of_mem_set job with before | now
    · exact before
    · cases now
  | read found =>
    rcases under with job | other
    · rcases List.mem_or_eq_of_mem_set job with before | now
      · exact .inl (.inl before)
      · cases now
        exact .inr ⟨⟨_,rfl⟩,rfl,rfl,rfl⟩
    · exact .inl (.inr other)
  | tell found =>
    rcases under with job | message | other
    · exact .inl (.inl (List.mem_of_mem_eraseIdx job))
    · rcases List.mem_append.mp message with before | now
      · exact .inl (.inr (.inl before))
      · rw [List.mem_singleton.mp now]
        exact .inl (.inl (List.mem_of_getElem? found))
    · exact .inl (.inr (.inr other))
  | breakOff found =>
    exact .inl (under.old (fun _ m => List.mem_of_mem_eraseIdx m) (fun _ m => m) (fun _ m => m) (fun _ _ found => found))
  | changed found =>
    exact .inl (under.old (fun _ m => m) (fun _ m => List.mem_of_mem_eraseIdx m) (fun _ m => m) (fun _ _ found => found))
  | isDeviceAllowed origin d => exact .inl (underWay_ask under)
  | getAllowedDevices requested =>
    rcases under with job | message | reload | ⟨o,found⟩
    · exact .inl (.inl job)
    · exact .inl (.inr (.inl message))
    · exact .inl (.inr (.inr (.inl reload)))
    · rw [lookup_insert_eq] at found
      split at found
      · cases found
        exact .inr ⟨⟨_,rfl⟩,rfl,rfl,rfl⟩
      · exact .inl (.inr (.inr (.inr ⟨o,found⟩)))
  | loaded answered =>
    exact .inl (under.old (fun _ m => m) (fun _ m => m) (fun _ m => m) (answered_insert (by simp)))
  | failed found load =>
    exact .inl (under.old (fun _ m => m) (fun _ m => m) (fun _ m => m) (answered_insert (by simp)))
  | settle settled =>
    exact .inl (under.old (fun _ m => m) (fun _ m => m) (fun _ m => m) (fun _ _ found => lookup_of_erase found))
  | reload origin =>
    left
    refine under.old (fun _ m => m) (fun _ m => m) ?_ (fun _ _ found => found)
    intro r member
    rcases List.mem_append.mp member with before | now
    · exact before
    · cases List.mem_singleton.mp now
  | readReload requested =>
    rcases under with job | message | reload | load
    · exact .inl (.inl job)
    · exact .inl (.inr (.inl message))
    · rcases List.mem_or_eq_of_mem_set reload with before | now
      · exact .inl (.inr (.inr (.inl before)))
      · cases now
        exact .inr ⟨⟨_,rfl⟩,rfl,rfl,rfl⟩
    · exact .inl (.inr (.inr (.inr load)))
  | reloaded answered =>
    exact .inl (under.old (fun _ m => m) (fun _ m => m) (fun _ m => List.mem_of_mem_eraseIdx m) (fun _ _ found => found))
  | reloadFailed found origin =>
    exact .inl (under.old (fun _ m => m) (fun _ m => m) (fun _ m => List.mem_of_mem_eraseIdx m) (fun _ _ found => found))

def Action.ofBridge : Action → Bool
  | .pair _ _ | .revoke _ _ | .run _ | .breakOff _ | .changed _ => false
  | _ => true

/-- A question changes the bridge's questions, loads and answers alone. -/
theorem ask_frame (w : World) (origin : Origin) (d : DeviceId) : ∃ asked queue answers loads,
    w.isDeviceAllowed origin d =
      { w with asked := asked,queue := queue,answers := answers,allowedLoads := loads } := by
  unfold World.isDeviceAllowed
  split
  · exact ⟨_,_,_,_,rfl⟩
  split
  · exact ⟨_,_,_,_,rfl⟩
  · exact ⟨_,_,_,_,rfl⟩

/-- What the bridge asks for and loads leaves the background's grants and handlers alone, and the messages. -/
theorem bridge_step (ofBridge : a.ofBridge = true) (stepped : step w a = some w') :
    w'.jobs = w.jobs ∧ w'.messages = w.messages ∧ w'.grants = w.grants ∧ w'.ever = w.ever ∧ w'.version = w.version ∧
      w'.changedAt = w.changedAt := by
  cases step_cases stepped with
  | isDeviceAllowed origin d =>
    obtain ⟨asked,queue,answers,loads,same⟩ := ask_frame w origin d
    rw [same]
    exact ⟨rfl,rfl,rfl,rfl,rfl,rfl⟩
  | pair | revoke | change | read | tell | breakOff | changed => cases ofBridge
  | _ => exact ⟨rfl,rfl,rfl,rfl,rfl,rfl⟩

/-- Grants change as a handler goes on with its devices, and not otherwise. -/
theorem grants_step (stepped : step w a = some w') :
    (w'.grants = w.grants ∧ w'.ever = w.ever ∧ w'.version = w.version ∧ w'.changedAt = w.changedAt) ∨
      ∃ n o d devices granted, a = .run n ∧ w.jobs[n]? = some (.changing o (d :: devices) granted) ∧
        w' = { w.change o d granted with jobs := w.jobs.set n (.changing o devices granted) } := by
  cases step_cases stepped with
  | change found => exact .inr ⟨_,_,_,_,_,rfl,found,rfl⟩
  | isDeviceAllowed origin d =>
    obtain ⟨_,_,grants,ever,version,changedAt⟩ := bridge_step rfl stepped
    exact .inl ⟨grants,ever,version,changedAt⟩
  | _ => exact .inl ⟨rfl,rfl,rfl,rfl⟩

def Action.quiet : Action → Bool
  | .changed _ | .isDeviceAllowed _ _ | .loaded _ | .failed _ | .reloaded _ | .reloadFailed _ => false
  | _ => true

/-- What the background does leaves the bridge's maps and answers alone. -/
theorem quiet_step (quiet : a.quiet = true) (stepped : step w a = some w') :
    w'.allowedByOrigin = w.allowedByOrigin ∧ w'.loadedOrigins = w.loadedOrigins ∧ w'.heard = w.heard ∧
      w'.answers = w.answers ∧ takes w a = none := by
  cases step_cases stepped with
  | changed | isDeviceAllowed | loaded | failed | reloaded | reloadFailed => cases quiet
  | _ => exact ⟨rfl,rfl,rfl,rfl,rfl⟩

/-- What the bridge knows changes as it takes a read or a load fails. -/
theorem cache_step (stepped : step w a = some w') :
    (w'.allowedByOrigin = w.allowedByOrigin ∧ w'.loadedOrigins = w.loadedOrigins ∧ w'.heard = w.heard ∧
        takes w a = none) ∨
      (∃ r, takes w a = some r ∧ w.UnderWay r ∧ w'.allowedByOrigin = w.allowedByOrigin.insert r.origin r.deviceIds ∧
        w'.loadedOrigins = insert r.origin w.loadedOrigins ∧ w'.heard = Function.update w.heard r.origin r.version) ∨
      ∃ o, takes w a = none ∧ o ∈ w'.missed ∧ w'.allowedByOrigin = w.allowedByOrigin.insert o ∅ ∧
        w'.loadedOrigins = insert o w.loadedOrigins ∧ w'.heard = w.heard := by
  cases step_cases stepped with
  | changed found => exact .inr (.inl ⟨_,found,.inr (.inl (List.mem_of_getElem? found)),rfl,rfl,rfl⟩)
  | loaded answered => exact .inr (.inl ⟨_,by simp [takes,answered],.inr (.inr (.inr ⟨_,answered⟩)),rfl,rfl,rfl⟩)
  | reloaded answered =>
    exact .inr (.inl ⟨_,by simp [takes,answered],.inr (.inr (.inl (List.mem_of_getElem? answered))),rfl,rfl,rfl⟩)
  | failed found under => exact .inr (.inr ⟨_,rfl,Finset.mem_insert_self _ _,rfl,rfl,rfl⟩)
  | reloadFailed found origin => exact .inr (.inr ⟨origin,rfl,Finset.mem_insert_self _ _,rfl,rfl,rfl⟩)
  | isDeviceAllowed origin d =>
    obtain ⟨asked,queue,answers,loads,same⟩ := ask_frame w origin d
    rw [same]
    exact .inl ⟨rfl,rfl,rfl,rfl⟩
  | _ =>
    obtain ⟨maps,loaded,heard,_,none⟩ := quiet_step rfl stepped
    exact .inl ⟨maps,loaded,heard,none⟩

theorem answers_take {deviceIds : Finset DeviceId} {x : Question × Bool}
    (member : x ∈ (w.take origin deviceIds).answers) :
    x ∈ w.answers ∨ (x.2 = true → x.1.deviceId ∈ (w.take origin deviceIds).allowed x.1.origin) := by
  rcases List.mem_append.mp member with before | now
  · exact .inl before
  · obtain ⟨q,own,rfl⟩ := List.mem_map.mp now
    have here : q.origin = origin := by simpa using (List.mem_filter.mp (List.mem_reverse.mp own)).2
    right
    intro yes
    rw [here]
    exact of_decide_eq_true yes

theorem answers_ask {x : Question × Bool} (member : x ∈ (w.isDeviceAllowed origin d).answers) :
    x ∈ w.answers ∨ (x.2 = true → x.1.deviceId ∈ w.allowed x.1.origin) := by
  unfold World.isDeviceAllowed at member
  split at member
  · rcases List.mem_append.mp member with before | now
    · exact .inl before
    · rw [List.mem_singleton.mp now]
      right
      intro yes
      cases yes
  split at member
  · rcases List.mem_append.mp member with before | now
    · exact .inl before
    · rw [List.mem_singleton.mp now]
      exact .inr of_decide_eq_true
  · exact .inl member

/-- A question is answered by what the bridge knows then. -/
theorem answers_step (stepped : step w a = some w') {x : Question × Bool} (member : x ∈ w'.answers) :
    x ∈ w.answers ∨ (x.2 = true → x.1.deviceId ∈ w'.allowed x.1.origin) := by
  cases step_cases stepped with
  | changed | loaded | failed | reloaded | reloadFailed => exact answers_take member
  | isDeviceAllowed origin d =>
    obtain ⟨asked,queue,answers,loads,same⟩ := ask_frame w origin d
    have known : (w.isDeviceAllowed origin d).allowed = w.allowed := by rw [same]; rfl
    rw [known]
    exact answers_ask member
  | _ =>
    rw [(quiet_step rfl stepped).2.2.2.1] at member
    exact .inl member

structure Sound (w : World) : Prop where
  grants : w.grants ⊆ w.ever
  reads : ∀ r, w.UnderWay r → ∀ d ∈ r.deviceIds, (r.origin,d) ∈ w.ever
  cached : ∀ o, ∀ d ∈ w.allowed o, (o,d) ∈ w.ever
  answered : ∀ x ∈ w.answers, x.2 = true → (x.1.origin,x.1.deviceId) ∈ w.ever

theorem allowed_insert {o : Origin} {deviceIds : Finset DeviceId}
    (maps : w'.allowedByOrigin = w.allowedByOrigin.insert origin deviceIds) :
    w'.allowed o = if o = origin then deviceIds else w.allowed o := by
  rw [World.allowed,maps,lookup_insert_eq]
  split
  · rfl
  · rfl

theorem Sound.step (sound : Sound w) (stepped : step w a = some w') : Sound w' := by
  have grows : w.ever ⊆ w'.ever := by
    rcases grants_step stepped with ⟨_,same,_⟩ | ⟨n,o,d,devices,granted,_,_,rfl⟩
    · rw [same]
    · cases granted
      · exact Finset.Subset.refl _
      · exact Finset.subset_insert _ _
  have grants : w'.grants ⊆ w'.ever := by
    rcases grants_step stepped with ⟨same,same',_⟩ | ⟨n,o,d,devices,granted,_,_,rfl⟩
    · rw [same,same']
      exact sound.grants
    · cases granted
      · exact (Finset.erase_subset _ _).trans sound.grants
      · exact Finset.insert_subset_insert _ sound.grants
  have cached : ∀ o, ∀ d ∈ w'.allowed o, (o,d) ∈ w'.ever := by
    intro o d member
    rcases cache_step stepped with ⟨maps,_⟩ | ⟨r,_,under,maps,_⟩ | ⟨o',_,_,maps,_⟩
    · rw [World.allowed,maps] at member
      exact grows (sound.cached o d member)
    · rw [allowed_insert maps] at member
      split at member
      · next same =>
        rw [same]
        exact grows (sound.reads r under d member)
      · exact grows (sound.cached o d member)
    · rw [allowed_insert maps] at member
      split at member
      · cases member
      · exact grows (sound.cached o d member)
  refine ⟨grants,?_,cached,?_⟩
  · intro r under d member
    rcases underWay_step stepped under with before | ⟨⟨o,rfl⟩,_⟩
    · exact grows (sound.reads r before d member)
    · exact grows (sound.grants (mem_getAllowedDevices.mp member))
  · intro x member yes
    rcases answers_step stepped member with before | now
    · exact grows (sound.answered x before yes)
    · exact cached _ _ (now yes)

/-- The read is older than the last change of its origin, or it is what is granted. -/
def World.Right (w : World) (r : Read) : Prop :=
  r.version ≤ w.version ∧ (w.changedAt r.origin ≤ r.version → r.deviceIds = getAllowedDevices w.grants r.origin)

/-- A handler has still to read the origin, or a read after its last change is on the way to the bridge. -/
def World.Coming (w : World) (o : Origin) : Prop :=
  (∃ devices granted, .changing o devices granted ∈ w.jobs) ∨
    ∃ r, (.telling r ∈ w.jobs ∨ r ∈ w.messages) ∧ r.origin = o ∧ w.changedAt o ≤ r.version

structure Fresh (w : World) : Prop where
  right : ∀ r, w.UnderWay r → w.Right r
  heard : ∀ o, w.heard o ≤ w.version
  changed : ∀ o, w.changedAt o ≤ w.version
  cached : ∀ o ∈ w.loadedOrigins, o ∉ w.missed → w.changedAt o ≤ w.heard o → w.allowed o = getAllowedDevices w.grants o
  covered : ∀ o, o ∉ w.missed → w.changedAt o ≤ w.heard o ∨ w.Coming o

theorem getAllowedDevices_change {o : Origin} (other : o ≠ origin) (granted : Bool) :
    getAllowedDevices (w.change origin d granted).grants o = getAllowedDevices w.grants o := by
  ext d'
  rw [mem_getAllowedDevices,mem_getAllowedDevices]
  cases granted <;> simp [World.change,other]

theorem changedAt_change (o : Origin) (granted : Bool) :
    (w.change origin d granted).changedAt o = if o = origin then w.version + 1 else w.changedAt o := by
  exact Function.update_apply _ _ _ _

theorem missed_step (stepped : step w a = some w') : w.missed ⊆ w'.missed := by
  cases step_cases stepped with
  | breakOff | failed | reloadFailed => exact Finset.subset_insert _ _
  | isDeviceAllowed origin d =>
    obtain ⟨asked,queue,answers,loads,same⟩ := ask_frame w origin d
    rw [same]
  | _ => exact Finset.Subset.refl _

theorem Fresh.right_step (fresh : Fresh w) (stepped : step w a = some w') (under : w'.UnderWay r) : w'.Right r := by
  rcases underWay_step stepped under with before | ⟨⟨o,rfl⟩,grants,version,changedAt⟩
  · obtain ⟨past,right⟩ := fresh.right r before
    rcases grants_step stepped with ⟨grants,_,version,changedAt⟩ | ⟨n,o,d,devices,granted,_,_,rfl⟩
    · rw [World.Right,grants,version,changedAt]
      exact ⟨past,right⟩
    · refine ⟨Nat.le_succ_of_le past,?_⟩
      intro since
      have since : (w.change o d granted).changedAt r.origin ≤ r.version := since
      rw [changedAt_change] at since
      split at since
      · omega
      · next other => exact (right since).trans (getAllowedDevices_change other granted).symm
  · refine ⟨by rw [version]; exact Nat.le_refl _,?_⟩
    intro _
    rw [grants]
    rfl

theorem mem_set_or {α : Type} {xs : List α} {x y : α} {n : Nat} (found : xs[n]? = some y) (member : x ∈ xs) (z : α) :
    x = y ∨ x ∈ xs.set n z := by
  obtain ⟨i,there⟩ := List.mem_iff_getElem?.mp member
  by_cases same : i = n
  · rw [same,found] at there
    exact .inl (Option.some.inj there).symm
  · right
    apply List.mem_of_getElem? (i := i)
    rw [List.getElem?_set_ne (Ne.symm same)]
    exact there

theorem World.Coming.kept {o : Origin} (coming : w.Coming o) (jobs : ∀ job ∈ w.jobs, job.origin = o → job ∈ w'.jobs)
    (messages : ∀ r ∈ w.messages, r.origin = o → r ∈ w'.messages) (changedAt : w'.changedAt o = w.changedAt o) :
        w'.Coming o := by
  rcases coming with ⟨devices,granted,member⟩ | ⟨r,job | message,rfl,since⟩
  · exact .inl ⟨devices,granted,jobs _ member rfl⟩
  · exact .inr ⟨r,.inl (jobs _ job rfl),rfl,changedAt ▸ since⟩
  · exact .inr ⟨r,.inr (messages r message rfl),rfl,changedAt ▸ since⟩

/-- A handler that goes on is nearer to telling the bridge what is granted. -/
theorem coming_run {n : Nat} {o : Origin} (stepped : step w (.run n) = some w') (fresh : Fresh w) (coming : w.Coming o) :
    w'.Coming o := by
  cases step_cases stepped with
  | change found =>
    next origin d devices granted =>
    by_cases same : o = origin
    · subst same
      exact .inl ⟨devices,granted,List.mem_set (List.getElem?_eq_some_iff.mp found).1 _⟩
    · refine coming.kept ?_ (fun _ member _ => member) ?_
      · intro job member own
        rcases mem_set_or found member (.changing origin devices granted) with rfl | kept
        · exact absurd own.symm same
        · exact kept
      · show (w.change origin d granted).changedAt o = w.changedAt o
        rw [changedAt_change,if_neg same]
  | read found =>
    next origin granted =>
    by_cases same : o = origin
    · subst same
      exact .inr ⟨w.read o,.inl (List.mem_set (List.getElem?_eq_some_iff.mp found).1 _),rfl,fresh.changed o⟩
    · refine coming.kept ?_ (fun _ member _ => member) rfl
      intro job member own
      rcases mem_set_or found member (.telling (w.read origin)) with rfl | kept
      · exact absurd own.symm same
      · exact kept
  | tell found =>
    next r =>
    rcases coming with ⟨devices,granted,member⟩ | ⟨r',job | message,own,since⟩
    · rcases mem_eraseIdx_or found member with same | kept
      · cases same
      · exact .inl ⟨devices,granted,kept⟩
    · rcases mem_eraseIdx_or found job with same | kept
      · cases same
        exact .inr ⟨r,.inr (List.mem_append_right _ (List.mem_singleton.mpr rfl)),own,since⟩
      · exact .inr ⟨r',.inl kept,own,since⟩
    · exact .inr ⟨r',.inr (List.mem_append_left _ message),own,since⟩

/-- What comes still comes after a step, unless the bridge takes it or its handler breaks off. -/
theorem coming_step {o : Origin} (stepped : step w a = some w') (fresh : Fresh w) (kept : o ∉ w'.missed)
    (coming : w.Coming o) :
    w'.Coming o ∨ ∃ r, takes w a = some r ∧ r.origin = o ∧ w.changedAt o ≤ r.version := by
  cases step_cases stepped with
  | change | read | tell => exact .inl (coming_run stepped fresh coming)
  | pair | revoke =>
    exact .inl (coming.kept (fun _ member _ => List.mem_append_left _ member) (fun _ member _ => member) rfl)
  | breakOff found =>
    left
    refine coming.kept ?_ (fun _ member _ => member) rfl
    intro job member own
    rcases mem_eraseIdx_or found member with rfl | there
    · exact absurd (Finset.mem_insert.mpr (.inl own.symm)) kept
    · exact there
  | changed found =>
    rcases coming with job | ⟨r,job | message,own,since⟩
    · exact .inl (.inl job)
    · exact .inl (.inr ⟨r,.inl job,own,since⟩)
    · rcases mem_eraseIdx_or found message with rfl | there
      · exact .inr ⟨r,found,own,since⟩
      · exact .inl (.inr ⟨r,.inr there,own,since⟩)
  | _ =>
    obtain ⟨jobs,messages,_,_,_,changedAt⟩ := bridge_step rfl stepped
    left
    rw [World.Coming,jobs,messages,changedAt]
    exact coming

/-- In order, what the bridge heard last of an origin never gets older. -/
theorem heard_step (stepped : step w a = some w') (ordered : inOrder w a = true) (o : Origin) :
    w.heard o ≤ w'.heard o := by
  rcases cache_step stepped with ⟨_,_,heard,_⟩ | ⟨r,taken,_,_,_,heard⟩ | ⟨o',_,_,_,_,heard⟩
  · rw [heard]
  · rw [heard,Function.update_apply]
    split
    · next same =>
      rw [inOrder,taken,Option.all_some,decide_eq_true_eq] at ordered
      rw [same]
      exact ordered
    · exact Nat.le_refl _
  · rw [heard]

theorem Fresh.cached_step (fresh : Fresh w) (stepped : step w a = some w') :
    ∀ o ∈ w'.loadedOrigins, o ∉ w'.missed → w'.changedAt o ≤ w'.heard o →
        w'.allowed o = getAllowedDevices w'.grants o := by
  intro o loaded kept since
  have before := fun missed => kept (missed_step stepped missed)
  rcases grants_step stepped with ⟨grants,_,_,changedAt⟩ | ⟨n,origin,d,devices,granted,rfl,_,rfl⟩
  · rw [grants]
    rw [changedAt] at since
    rcases cache_step stepped with ⟨maps,origins,heard,_⟩ | ⟨r,_,under,maps,origins,heard⟩ |
        ⟨o',_,missed,maps,origins,heard⟩
    · rw [World.allowed,maps]
      rw [origins] at loaded
      rw [heard] at since
      exact fresh.cached o loaded before since
    · rw [allowed_insert maps]
      rw [heard,Function.update_apply] at since
      split at since
      · next same =>
        subst same
        rw [if_pos rfl]
        exact (fresh.right r under).2 since
      · next other =>
        rw [if_neg other]
        rw [origins] at loaded
        exact fresh.cached o (Finset.mem_of_mem_insert_of_ne loaded other) before since
    · have other : o ≠ o' := by
        rintro rfl
        exact kept missed
      rw [allowed_insert maps,if_neg other]
      rw [origins] at loaded
      rw [heard] at since
      exact fresh.cached o (Finset.mem_of_mem_insert_of_ne loaded other) before since
  · -- the origin's own change is after everything that the bridge heard
    have since : (w.change origin d granted).changedAt o ≤ w.heard o := since
    have heard := fresh.heard o
    rw [changedAt_change] at since
    split at since
    · omega
    · next other => exact (fresh.cached o loaded before since).trans (getAllowedDevices_change other granted).symm

theorem Fresh.covered_step (fresh : Fresh w) (stepped : step w a = some w') (ordered : inOrder w a = true) :
    ∀ o, o ∉ w'.missed → w'.changedAt o ≤ w'.heard o ∨ w'.Coming o := by
  intro o kept
  have later := heard_step stepped ordered o
  rcases fresh.covered o (fun missed => kept (missed_step stepped missed)) with since | coming
  · rcases grants_step stepped with ⟨_,_,_,changedAt⟩ | ⟨n,origin,d,devices,granted,_,found,rfl⟩
    · rw [changedAt]
      exact .inl (Nat.le_trans since later)
    · by_cases same : o = origin
      · subst same
        exact .inr (.inl ⟨devices,granted,List.mem_set (List.getElem?_eq_some_iff.mp found).1 _⟩)
      · left
        show (w.change origin d granted).changedAt o ≤ w.heard o
        rw [changedAt_change,if_neg same]
        exact since
  · rcases coming_step stepped fresh kept coming with coming | ⟨r,taken,rfl,since⟩
    · exact .inr coming
    · left
      rcases grants_step stepped with ⟨_,_,_,changedAt⟩ | ⟨n,_,_,_,_,rfl,_,_⟩
      · rcases cache_step stepped with ⟨_,_,_,none⟩ | ⟨r',taken',_,_,_,heard⟩ | ⟨_,none,_⟩
        · rw [none] at taken
          cases taken
        · rw [taken] at taken'
          cases taken'
          rw [changedAt,heard,Function.update_self]
          exact since
        · rw [none] at taken
          cases taken
      · cases taken

theorem Fresh.step (fresh : Fresh w) (stepped : step w a = some w') (ordered : inOrder w a = true) : Fresh w' := by
  have version : w.version ≤ w'.version := by
    rcases grants_step stepped with ⟨_,_,version,_⟩ | ⟨n,o,d,devices,granted,_,_,rfl⟩
    · rw [version]
    · exact Nat.le_succ _
  refine ⟨fun r under => fresh.right_step stepped under,?_,?_,fresh.cached_step stepped,
      fresh.covered_step stepped ordered⟩
  · intro o
    apply Nat.le_trans _ version
    rcases cache_step stepped with ⟨_,_,heard,_⟩ | ⟨r,_,under,_,_,heard⟩ | ⟨_,_,_,_,_,heard⟩
    · rw [heard]
      exact fresh.heard o
    · rw [heard,Function.update_apply]
      split
      · exact (fresh.right r under).1
      · exact fresh.heard o
    · rw [heard]
      exact fresh.heard o
  · intro o
    rcases grants_step stepped with ⟨_,_,version,changedAt⟩ | ⟨n,origin,d,devices,granted,_,_,rfl⟩
    · rw [version,changedAt]
      exact fresh.changed o
    · show (w.change origin d granted).changedAt o ≤ w.version + 1
      have := fresh.changed o
      rw [changedAt_change]
      split <;> omega

end Steps

/-! ### Runs -/

section Runs
variable {grants : Grants} {trace : List Action} {w : World}

/-- A handler that grants comes from a pairing, and has no more devices than before. -/
theorem granting_step {w' : World} {a : Action} {o : Origin} {devices : List DeviceId} (stepped : step w a = some w')
    (member : .changing o devices true ∈ w'.jobs) :
    (∃ before, .changing o before true ∈ w.jobs ∧ ∀ d ∈ devices, d ∈ before) ∨ ∃ d, a = .pair o d ∧ devices = [d] := by
  have still (old : .changing o devices true ∈ w.jobs) : ∃ before, .changing o before true ∈ w.jobs ∧
      ∀ d ∈ devices, d ∈ before :=
    ⟨devices,old,fun _ inside => inside⟩
  cases step_cases stepped with
  | pair origin d =>
    rcases List.mem_append.mp member with old | new
    · exact .inl (still old)
    · cases List.mem_singleton.mp new
      exact .inr ⟨d,rfl,rfl⟩
  | revoke origin others =>
    rcases List.mem_append.mp member with old | new
    · exact .inl (still old)
    · cases List.mem_singleton.mp new
  | change found =>
    rcases List.mem_or_eq_of_mem_set member with old | new
    · exact .inl (still old)
    · cases new
      exact .inl ⟨_,List.mem_of_getElem? found,fun _ inside => List.mem_cons_of_mem _ inside⟩
  | read found =>
    rcases List.mem_or_eq_of_mem_set member with old | new
    · exact .inl (still old)
    · cases new
  | tell | breakOff => exact .inl (still (List.mem_of_mem_eraseIdx member))
  | changed found => exact .inl (still member)
  | _ =>
    rw [(bridge_step rfl stepped).1] at member
    exact .inl (still member)

/-- What was ever granted was granted at the start, or the origin was paired with the device. -/
structure Asked (grants : Grants) (trace : List Action) (w : World) : Prop where
  ever : ∀ o d, (o,d) ∈ w.ever → (o,d) ∈ grants ∨ .pair o d ∈ trace
  jobs : ∀ o devices, .changing o devices true ∈ w.jobs → ∀ d ∈ devices, .pair o d ∈ trace

theorem Asked.step {w' : World} {a : Action} (asked : Asked grants trace w) (stepped : step w a = some w') :
    Asked grants (trace ++ [a]) w' := by
  have ever : ∀ o d, (o,d) ∈ w.ever → (o,d) ∈ grants ∨ .pair o d ∈ trace ++ [a] := by
    intro o d member
    exact (asked.ever o d member).imp_right (List.mem_append_left _)
  refine ⟨?_,?_⟩
  · intro o d member
    rcases grants_step stepped with ⟨_,same,_⟩ | ⟨n,origin,d',devices,granted,_,found,rfl⟩
    · exact ever o d (same ▸ member)
    · cases granted
      · exact ever o d member
      · rcases Finset.mem_insert.mp member with new | old
        · cases new
          exact .inr (List.mem_append_left _ (asked.jobs o _ (List.mem_of_getElem? found) d List.mem_cons_self))
        · exact ever o d old
  · intro o devices member d inside
    rcases granting_step stepped member with ⟨before,there,fewer⟩ | ⟨d',rfl,rfl⟩
    · exact List.mem_append_left _ (asked.jobs o before there d (fewer d inside))
    · rw [List.mem_singleton.mp inside]
      exact List.mem_append_right _ List.mem_cons_self

theorem settles_run (run : exec step (start grants) trace = some w) : Settles w := by
  apply exec_invariant (fun _ _ _ settles stepped => Settles.step settles stepped) _ run
  refine ⟨List.Perm.nil,?_,?_,?_⟩
  · intro q member
    cases member
  · intro o found
    cases (lookup_empty o).symm.trans found
  · intro o r found
    cases (lookup_empty o).symm.trans found

theorem not_underWay_start {r : Read} : ¬ (start grants).UnderWay r := by
  rintro (job | message | reload | ⟨o,found⟩)
  · cases job
  · cases message
  · cases reload
  · cases (lookup_empty o).symm.trans found

theorem allowed_start (o : Origin) : (start grants).allowed o = ∅ := by
  show ((∅ : HashMap Origin (Finset DeviceId)).lookup o).getD ∅ = ∅
  rw [lookup_empty]
  rfl

theorem sound_reached (run : exec step (start grants) trace = some w) : Sound w := by
  apply exec_invariant (fun _ _ _ sound stepped => Sound.step sound stepped) _ run
  refine ⟨Finset.Subset.refl _,fun r under => absurd under not_underWay_start,?_,?_⟩
  · intro o d member
    rw [allowed_start] at member
    cases member
  · intro x member
    cases member

theorem asked_run (run : exec step (start grants) trace = some w) : Asked grants trace w := by
  have all : AllSteps step (fun _ _ _ => True) (start grants) trace := allSteps_of_mem (fun _ _ _ _ => trivial)
  apply exec_history (I := Asked grants) _ _ run all
  · refine ⟨fun _ _ member => .inl member,?_⟩
    intro o devices member
    cases member
  · intro before w a w' _ stepped _ asked
    exact asked.step stepped

/-- Every question whether a device is allowed is answered once or waits for a load that is under way, and the answer is
    yes only for a device that was granted when the bridge began or that its origin was paired with since. -/
theorem questions_settle (run : exec step (start grants) trace = some w) :
    (w.answers.map (fun a => a.1.id) ++ w.queue.map Question.id).Perm (List.range w.asked) ∧
      (∀ q ∈ w.queue, ∃ load, w.allowedLoads.lookup q.origin = some load ∧ load ≠ .settled) ∧
      ∀ q, (q,true) ∈ w.answers → (q.origin,q.deviceId) ∈ grants ∨ .pair q.origin q.deviceId ∈ trace := by
  have settles := settles_run run
  refine ⟨settles.once,fun q member => (settles.waits q member).2,?_⟩
  intro q member
  exact (asked_run run).ever _ _ ((sound_reached run).answered _ member rfl)

def page : Origin := "https://a.example"

/-- A device is paired while its load is under way, and the question that waits is answered by what the tab is told. -/
def pairedWhileLoading : List Action :=
  [.isDeviceAllowed page 7,.getAllowedDevices page,.pair page 7,.run 0,.run 0,.run 0,.changed 0,.isDeviceAllowed page 8]

theorem paired_question_settles : ∃ w, exec step (start ∅) pairedWhileLoading = some w ∧
    w.answers = [(⟨0,page,7⟩,true),(⟨1,page,8⟩,false)] ∧
      ((page,7) ∈ (∅ : Grants) ∨ .pair page 7 ∈ pairedWhileLoading) := by
  obtain ⟨w,run,answered⟩ := Option.map_eq_some_iff.mp (by decide :
    (exec step (start ∅) pairedWhileLoading).map World.answers = some [(⟨0,page,7⟩,true),(⟨1,page,8⟩,false)])
  refine ⟨w,run,answered,(questions_settle run).2.2 ⟨0,page,7⟩ ?_⟩
  rw [answered]
  exact List.mem_cons_self

theorem fresh_run (run : exec step (start grants) trace = some w)
    (ordered : AllSteps step (fun w a _ => inOrder w a = true) (start grants) trace) : Fresh w := by
  apply exec_invariant_under (fun _ _ _ fresh stepped ordered => Fresh.step fresh stepped ordered) _ run ordered
  refine ⟨fun r under => absurd under not_underWay_start,fun _ => Nat.le_refl _,fun _ => Nat.le_refl _,?_,?_⟩
  · intro o loaded
    cases loaded
  · exact fun o _ => .inl (Nat.le_refl _)

/-- Where the bridge takes what was read of an origin in the order in which it was read, then once the handlers are done
    it knows what is granted to every origin of which it knows anything, unless a handler broke off or a load failed. -/
theorem caches_settle (run : exec step (start grants) trace = some w)
    (ordered : AllSteps step (fun w a _ => inOrder w a = true) (start grants) trace) (done : w.jobs = [])
    (told : w.messages = []) {o : Origin} (loaded : o ∈ w.loadedOrigins) (kept : o ∉ w.missed) (d : DeviceId) :
    d ∈ w.allowed o ↔ (o,d) ∈ w.grants := by
  have fresh := fresh_run run ordered
  have since : w.changedAt o ≤ w.heard o := by
    rcases fresh.covered o kept with since | ⟨_,_,job⟩ | ⟨_,job | message,_⟩
    · exact since
    · rw [done] at job
      cases job
    · rw [done] at job
      cases job
    · rw [told] at message
      cases message
  rw [fresh.cached o loaded kept since,mem_getAllowedDevices]

/-- A device is revoked after the bridge has loaded it. -/
def revokedAfterLoad : List Action :=
  [.isDeviceAllowed page 7,.getAllowedDevices page,.loaded page,.revoke page [7],.run 0,.run 0,.run 0,.changed 0]

theorem revoked_device_forgotten : ∃ w, exec step (start {(page,7)}) revokedAfterLoad = some w ∧
    page ∈ w.loadedOrigins ∧ 7 ∉ w.allowed page := by
  obtain ⟨w,run,facts⟩ := Option.map_eq_some_iff.mp (by decide :
    (exec step (start {(page,7)}) revokedAfterLoad).map (fun w => decide (w.jobs = [] ∧ w.messages = [] ∧
      page ∈ w.loadedOrigins ∧ page ∉ w.missed ∧ (page,7) ∉ w.grants)) = some true)
  obtain ⟨done,told,loaded,kept,revoked⟩ := of_decide_eq_true facts
  refine ⟨w,run,loaded,?_⟩
  rw [caches_settle run (allSteps_of_checkAll (by decide)) done told loaded kept]
  exact revoked

/-- An answer that was read before the revocation and comes after what it told leaves the bridge with the device. -/
example : (exec step (start {(page,7)}) [.isDeviceAllowed page 7,.getAllowedDevices page,.revoke page [7],.run 0,
    .run 0,.run 0,
    .changed 0,.loaded page]).map (fun w => (w.jobs,w.messages,w.allowed page,w.grants)) = some ([],[],{7},∅) := by decide

end Runs

end FFWebHid.GrantCaches
