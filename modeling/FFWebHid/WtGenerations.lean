import FFWebHid.Maps
import FFWebHid.Runs

/-! The generations of the WebTransport server: a certificate is good for a while, and a request after that gets a new
endpoint on another port while the old one drains. -/

namespace FFWebHid.WtGenerations
open FFWebHid.Maps FFWebHid.Runs

/-- Where an accept loop stands: before its check of the time, in `accept`, in the wait of a generation that expired, or
    past its end. -/
inductive Phase where
  | checking
  | waiting
  | draining
  | stopped
  deriving DecidableEq,Repr

/-- `WtGeneration` and its accept loop. Times are counted in the clock's ticks; `taken` are the times at which sessions
    were taken from `accept` to be handled. -/
structure WtGeneration where
  port : Nat
  certHashHex : String
  notAfter : Nat
  phase : Phase := .checking
  active : Nat := 0
  taken : List Nat := []
  deriving DecidableEq,Repr

def WtGeneration.expired (g : WtGeneration) (now : Nat) : Bool := g.notAfter ≤ now

inductive SessionPhase where
  | spawned
  | running
  | ended
  deriving DecidableEq,Repr

/-- The task of a session; its `ActiveGuard` is made when it first runs. -/
structure Session where
  generation : Nat
  phase : SessionPhase
  deriving DecidableEq,Repr

/-- `current` is the place of the current generation among all that were made. -/
structure WtState where
  now : Nat := 0
  current : Option Nat := none
  generations : List WtGeneration := []
  sessions : List Session := []
  deriving DecidableEq,Repr

namespace WtState

/-- The generation that `ensure_current` answers without a new one. -/
def unexpired (w : WtState) : Option WtGeneration :=
  match w.current with
  | none => none
  | some i => (w.generations[i]?).filter (fun g => !g.expired w.now)

/-- A socket is bound to a port that no other open socket has. -/
def free (w : WtState) (port : Nat) : Bool := w.generations.all (fun g => g.phase == .stopped || g.port != port)

/-- `ensure_current`, with what making the identity and the endpoint comes to. -/
def ensureCurrent (w : WtState) (validity : Nat) (made : Option (Nat × String)) : WtState × Option (Nat × String) :=
  match w.unexpired with
  | some g => (w,some (g.port,g.certHashHex))
  | none =>
    match made with
    | none => (w,none)
    | some (port,certHashHex) =>
      ({ w with
          current := some w.generations.length
          generations := w.generations ++ [{ port := port,certHashHex := certHashHex,notAfter := w.now + validity }] },
        some (port,certHashHex))

def withGeneration (w : WtState) (i : Nat) (g : WtGeneration) : WtState := { w with generations := w.generations.set i g }

def withSession (w : WtState) (n : Nat) (s : Session) : WtState := { w with sessions := w.sessions.set n s }

/-- The top of `accept_loop`. -/
def check (w : WtState) (i : Nat) (g : WtGeneration) : WtState :=
  if g.expired w.now then
    if g.active = 0 then w.withGeneration i { g with phase := .stopped }
        else w.withGeneration i { g with phase := .draining }
  else w.withGeneration i { g with phase := .waiting }

end WtState

inductive Action where
  /-- The clock is read again. -/
  | clock (now : Nat)
  | ensureCurrent (made : Option (Nat × String))
  | check (i : Nat)
  /-- A session comes in. -/
  | incoming (i : Nat)
  /-- The wait of 100 ms is over. -/
  | timeout (i : Nat)
  /-- The task of a session runs for the first time. -/
  | start (n : Nat)
  /-- The task of a session ends, and its guard is dropped. -/
  | finish (n : Nat)
  deriving DecidableEq,Repr

def step (validity : Nat) (w : WtState) : Action → Option WtState
  | .clock now => some { w with now := now }
  | .ensureCurrent made =>
    if made.all (fun m => w.free m.1) then some (w.ensureCurrent validity made).1 else none
  | .check i =>
    match w.generations[i]? with
    | none => none
    | some g => if g.phase = .checking then some (w.check i g) else none
  | .incoming i =>
    match w.generations[i]? with
    | none => none
    | some g =>
      match g.phase with
      | .waiting =>
        some { w.withGeneration i { g with phase := .checking,taken := w.now :: g.taken } with
          sessions := w.sessions ++ [⟨i,.spawned⟩] }
      | .draining => some (w.withGeneration i { g with phase := .checking })
      | _ => none
  | .timeout i =>
    match w.generations[i]? with
    | none => none
    | some g => if g.phase = .draining then some (w.withGeneration i { g with phase := .checking }) else none
  | .start n =>
    match w.sessions[n]? with
    | none => none
    | some s =>
      match s.phase,w.generations[s.generation]? with
      | .spawned,some g =>
        some ((w.withGeneration s.generation { g with active := g.active + 1 }).withSession n
          { s with phase := .running })
      | _,_ => none
  | .finish n =>
    match w.sessions[n]? with
    | none => none
    | some s =>
      match s.phase,w.generations[s.generation]? with
      | .running,some g =>
        some ((w.withGeneration s.generation { g with active := g.active - 1 }).withSession n { s with phase := .ended })
      | _,_ => none

/-- The clock does not go back. -/
def forward (w : WtState) : Action → Bool
  | .clock now => w.now ≤ now
  | _ => true

def Reachable (validity : Nat) (w : WtState) : Prop :=
  ∃ trace, exec (step validity) {} trace = some w ∧ AllSteps (step validity) (fun w a _ => forward w a = true) {} trace

/-- The sessions a generation took after its certificate had expired. -/
def WtGeneration.late (g : WtGeneration) : Nat := (g.taken.filter (fun t => g.notAfter ≤ t)).length

/-- What holds of a generation by itself. -/
structure Timely (now : Nat) (g : WtGeneration) : Prop where
  past : ∀ t ∈ g.taken, t ≤ now
  late : g.late ≤ 1
  waiting : g.phase = .waiting → g.late = 0
  stopped : g.phase = .stopped → g.notAfter ≤ now

section Generation
variable {now : Nat} {g : WtGeneration}

theorem late_eq_zero (early : ∀ t ∈ g.taken, t < g.notAfter) : g.late = 0 := by
  rw [WtGeneration.late,List.length_eq_zero_iff,List.filter_eq_nil_iff]
  intro t member
  have := early t member
  simp only [decide_eq_true_eq]
  omega

theorem Timely.later (timely : Timely now g) {later : Nat} (after : now ≤ later) : Timely later g := by
  refine ⟨?_,timely.late,timely.waiting,?_⟩
  · intro t member
    exact Nat.le_trans (timely.past t member) after
  · intro stopped
    exact Nat.le_trans (timely.stopped stopped) after

/-- Another phase is timely unless it is the wait or the end. -/
theorem Timely.moved (timely : Timely now g) (phase : Phase) (moved : phase ≠ .waiting) (goes : phase ≠ .stopped) :
    Timely now { g with phase := phase } :=
  ⟨timely.past,timely.late,fun same => absurd same moved,fun same => absurd same goes⟩

theorem Timely.counted (timely : Timely now g) (active : Nat) : Timely now { g with active := active } :=
  ⟨timely.past,timely.late,timely.waiting,timely.stopped⟩

/-- Only a generation that did not expire goes to wait, and all it took before was in time. -/
theorem Timely.waits (timely : Timely now g) (good : ¬ g.notAfter ≤ now) : Timely now { g with phase := .waiting } := by
  have none : g.late = 0 := by
    apply late_eq_zero
    intro t member
    have := timely.past t member
    omega
  refine ⟨timely.past,timely.late,fun _ => none,?_⟩
  intro same
  cases same

theorem Timely.stops (timely : Timely now g) (expired : g.notAfter ≤ now) : Timely now { g with phase := .stopped } := by
  refine ⟨timely.past,timely.late,?_,fun _ => expired⟩
  intro same
  cases same

theorem Timely.takes (timely : Timely now g) (waiting : g.phase = .waiting) :
    Timely now { g with phase := .checking,taken := now :: g.taken } := by
  have none := timely.waiting waiting
  refine ⟨?_,?_,?_,?_⟩
  · intro t member
    rcases List.mem_cons.mp member with rfl | before
    · exact Nat.le_refl _
    · exact timely.past t before
  · simp only [WtGeneration.late] at none ⊢
    rw [List.filter_cons]
    split
    · rw [List.length_cons]
      omega
    · omega
  · intro same
    cases same
  · intro same
    cases same

end Generation

/-- How many sessions of a generation are running. -/
def running (sessions : List Session) (i : Nat) : Nat :=
  sessions.countP (fun s => s.generation == i && s.phase == .running)

structure Ok (w : WtState) : Prop where
  timely : ∀ (i : Nat) g, w.generations[i]? = some g → Timely w.now g
  current : ∀ i, w.current = some i → i < w.generations.length
  older : ∀ (i : Nat) g, w.generations[i]? = some g → w.current ≠ some i → g.notAfter ≤ w.now
  ports : ∀ (i j : Nat) g g', w.generations[i]? = some g → w.generations[j]? = some g' → g.phase ≠ .stopped →
    g'.phase ≠ .stopped → g.port = g'.port → i = j
  sessions : ∀ s ∈ w.sessions, s.generation < w.generations.length
  active : ∀ (i : Nat) g, w.generations[i]? = some g → g.active = running w.sessions i

section Steps
variable {validity : Nat} {w w' : WtState} {i : Nat} {g g' : WtGeneration}

theorem running_set {sessions : List Session} {n : Nat} {s : Session} (s' : Session) (there : sessions[n]? = some s)
    (j : Nat) :
    running (sessions.set n s') j + (if s.generation = j ∧ s.phase = .running then 1 else 0) =
      running sessions j + (if s'.generation = j ∧ s'.phase = .running then 1 else 0) := by
  obtain ⟨inside,same⟩ := List.getElem?_eq_some_iff.mp there
  have split : sessions = sessions.take n ++ s :: sessions.drop (n + 1) := by
    rw [← same,List.getElem_cons_drop,List.take_append_drop]
  have changed : sessions.set n s' = sessions.take n ++ s' :: sessions.drop (n + 1) :=
      List.set_eq_take_append_cons_drop ▸ by simp [inside]
  rw [changed]
  conv => rhs; rw [split]
  simp only [running,List.countP_append,List.countP_cons,Bool.and_eq_true,beq_iff_eq]
  omega

/-- A generation and the sessions change together, and the generation keeps its port and its time. -/
theorem Ok.changed (ok : Ok w) (there : w.generations[i]? = some g) (timely : Timely w.now g') (port : g'.port = g.port)
    (time : g'.notAfter = g.notAfter) (open_ : g'.phase ≠ .stopped → g.phase ≠ .stopped) {sessions : List Session}
    (placed : ∀ s ∈ sessions, s.generation < w.generations.length) (active : g'.active = running sessions i)
    (others : ∀ j, j ≠ i → running sessions j = running w.sessions j) :
    Ok { w.withGeneration i g' with sessions := sessions } := by
  refine ⟨?_,?_,?_,?_,?_,?_⟩
  · intro j h found
    rcases getElem?_set_cases there found with ⟨_,rfl⟩ | ⟨_,old⟩
    · exact timely
    · exact ok.timely j h old
  · intro j current
    simpa [WtState.withGeneration] using ok.current j current
  · intro j h found notCurrent
    rcases getElem?_set_cases there found with ⟨rfl,rfl⟩ | ⟨_,old⟩
    · rw [time]
      exact ok.older j g there notCurrent
    · exact ok.older j h old notCurrent
  · intro j k h h' found found' live live' same
    rcases getElem?_set_cases there found with ⟨rfl,rfl⟩ | ⟨_,old⟩ <;>
      rcases getElem?_set_cases there found' with ⟨rfl,rfl⟩ | ⟨_,old'⟩
    · rfl
    · exact ok.ports j k g h' there old' (open_ live) live' (port ▸ same)
    · exact ok.ports j k h g old there live (open_ live') (port ▸ same)
    · exact ok.ports j k h h' old old' live live' same
  · intro s member
    simpa [WtState.withGeneration] using placed s member
  · intro j h found
    rcases getElem?_set_cases there found with ⟨rfl,rfl⟩ | ⟨other,old⟩
    · exact active
    · rw [ok.active j h old]
      exact (others j other).symm

theorem Ok.moved (ok : Ok w) (there : w.generations[i]? = some g) (timely : Timely w.now g') (port : g'.port = g.port)
    (time : g'.notAfter = g.notAfter) (open_ : g'.phase ≠ .stopped → g.phase ≠ .stopped) (active : g'.active = g.active) :
    Ok (w.withGeneration i g') :=
  ok.changed there timely port time open_ ok.sessions (active.trans (ok.active i g there)) (fun _ _ => rfl)

theorem Ok.check (ok : Ok w) (there : w.generations[i]? = some g) (checking : g.phase = .checking) :
    Ok (w.check i g) := by
  have live : g.phase ≠ .stopped := by simp [checking]
  have timely := ok.timely i g there
  rw [WtState.check,WtGeneration.expired]
  split
  · next expired =>
    have after : g.notAfter ≤ w.now := of_decide_eq_true expired
    split
    · exact ok.moved there (timely.stops after) rfl rfl (fun _ => live) rfl
    · exact ok.moved there (timely.moved .draining (by simp) (by simp)) rfl rfl (fun _ => live) rfl
  · next good => exact ok.moved there (timely.waits (by simpa using good)) rfl rfl (fun _ => live) rfl

/-- Where no generation is answered, every one there is has expired. -/
theorem Ok.expired (ok : Ok w) (none : w.unexpired = none) (there : w.generations[i]? = some g) : g.notAfter ≤ w.now := by
  by_cases current : w.current = some i
  · rw [WtState.unexpired,current] at none
    simp only [there,Option.filter_eq_none_iff,Option.some.injEq,forall_eq',WtGeneration.expired] at none
    simpa using none
  · exact ok.older i g there current

/-- A new generation, once the others have expired. -/
theorem Ok.fresh (ok : Ok w) (expired : ∀ (i : Nat) g, w.generations[i]? = some g → g.notAfter ≤ w.now) {port : Nat}
    (free : w.free port = true) (certHashHex : String) (notAfter : Nat) :
    Ok { w with
      current := some w.generations.length
      generations := w.generations ++ [{ port := port,certHashHex := certHashHex,notAfter := notAfter }] } := by
  have unused : ∀ (j : Nat) h, w.generations[j]? = some h → h.phase ≠ .stopped → h.port ≠ port := by
    intro j h found live
    have other := List.all_eq_true.mp free h (List.mem_of_getElem? found)
    simpa [live] using other
  refine ⟨?_,?_,?_,?_,?_,?_⟩
  · intro j h found
    rcases getElem?_snoc found with old | ⟨_,rfl⟩
    · exact ok.timely j h old
    · refine ⟨?_,?_,?_,?_⟩ <;> simp [WtGeneration.late]
  · intro j current
    cases current
    simp
  · intro j h found notCurrent
    rcases getElem?_snoc found with old | ⟨rfl,_⟩
    · exact expired j h old
    · exact absurd rfl notCurrent
  · intro j k h h' found found' live live' same
    rcases getElem?_snoc found with old | ⟨rfl,rfl⟩ <;> rcases getElem?_snoc found' with old' | ⟨rfl,rfl⟩
    · exact ok.ports j k h h' old old' live live' same
    · exact absurd same (unused j h old live)
    · exact absurd same.symm (unused k h' old' live')
    · rfl
  · intro s member
    have := ok.sessions s member
    rw [List.length_append]
    omega
  · intro j h found
    rcases getElem?_snoc found with old | ⟨rfl,rfl⟩
    · exact ok.active j h old
    · symm
      apply List.countP_eq_zero.mpr
      intro s member
      have := ok.sessions s member
      simp only [Bool.and_eq_true,beq_iff_eq,not_and]
      omega

theorem Ok.ensureCurrent (ok : Ok w) {made : Option (Nat × String)} (free : made.all (fun m => w.free m.1) = true) :
    Ok (w.ensureCurrent validity made).1 := by
  unfold WtState.ensureCurrent
  split
  · exact ok
  · next none =>
    split
    · exact ok
    · exact ok.fresh (fun _ _ there => ok.expired none there) free _ _

theorem Ok.incoming (ok : Ok w) (there : w.generations[i]? = some g) (waiting : g.phase = .waiting) :
    Ok { w.withGeneration i { g with phase := .checking,taken := w.now :: g.taken } with
      sessions := w.sessions ++ [⟨i,.spawned⟩] } := by
  have inside : i < w.generations.length := (List.getElem?_eq_some_iff.mp there).1
  have same : ∀ j, running (w.sessions ++ [⟨i,.spawned⟩]) j = running w.sessions j := by
    intro j
    simp [running]
  apply ok.changed there ((ok.timely i g there).takes waiting) rfl rfl (fun _ => by simp [waiting])
  · intro s member
    rcases List.mem_append.mp member with old | new
    · exact ok.sessions s old
    · rw [List.mem_singleton.mp new]
      exact inside
  · rw [same]
    exact ok.active i g there
  · exact fun j _ => same j

/-- A session goes from one phase to the next, and the guard of its generation counts it. -/
theorem Ok.session (ok : Ok w) {n : Nat} {s : Session} {phase : SessionPhase} (there : w.sessions[n]? = some s)
    (home : w.generations[s.generation]? = some g) {active : Nat}
    (counted : active + (if s.phase = .running then 1 else 0) = g.active + (if phase = .running then 1 else 0)) :
    Ok ((w.withGeneration s.generation { g with active := active }).withSession n { s with phase := phase }) := by
  have change := running_set { s with phase := phase } there
  have member := List.mem_of_getElem? there
  apply ok.changed home ((ok.timely _ g home).counted active) rfl rfl (fun live => live)
  · intro r found
    rcases List.mem_or_eq_of_mem_set found with old | rfl
    · exact ok.sessions r old
    · exact ok.sessions s member
  · have here := change s.generation
    have before := ok.active _ g home
    simp only [true_and] at here
    show active = running (w.sessions.set n { s with phase := phase }) s.generation
    omega
  · intro j other
    have elsewhere := change j
    simp only [Ne.symm other,false_and,if_false] at elsewhere
    exact elsewhere

theorem Ok.clock (ok : Ok w) {now : Nat} (after : w.now ≤ now) : Ok { w with now := now } := by
  refine ⟨?_,ok.current,?_,ok.ports,ok.sessions,ok.active⟩
  · intro j h found
    exact (ok.timely j h found).later after
  · intro j h found notCurrent
    exact Nat.le_trans (ok.older j h found notCurrent) after

theorem Ok.step {a : Action} (ok : Ok w) (stepped : step validity w a = some w') (goes : forward w a = true) : Ok w' := by
  cases a with
  | clock now =>
    cases stepped
    exact ok.clock (of_decide_eq_true goes)
  | ensureCurrent made =>
    simp only [WtGenerations.step,Option.ite_none_right_eq_some,Option.some.injEq] at stepped
    obtain ⟨free,rfl⟩ := stepped
    exact ok.ensureCurrent free
  | check i =>
    simp only [WtGenerations.step] at stepped
    split at stepped
    · cases stepped
    · next g there =>
      simp only [Option.ite_none_right_eq_some,Option.some.injEq] at stepped
      obtain ⟨checking,rfl⟩ := stepped
      exact ok.check there checking
  | incoming i =>
    simp only [WtGenerations.step] at stepped
    split at stepped
    · cases stepped
    · next g there =>
      split at stepped
      · next waiting =>
        cases stepped
        exact ok.incoming there waiting
      · next draining =>
        cases stepped
        exact ok.moved there ((ok.timely i g there).moved .checking (by simp) (by simp)) rfl rfl (fun _ =>
            by simp [draining]) rfl
      · cases stepped
  | timeout i =>
    simp only [WtGenerations.step] at stepped
    split at stepped
    · cases stepped
    · next g there =>
      simp only [Option.ite_none_right_eq_some,Option.some.injEq] at stepped
      obtain ⟨draining,rfl⟩ := stepped
      exact ok.moved there ((ok.timely i g there).moved .checking (by simp) (by simp)) rfl rfl (fun _ =>
          by simp [draining]) rfl
  | start n =>
    simp only [WtGenerations.step] at stepped
    split at stepped
    · cases stepped
    · next s there =>
      split at stepped
      · next g spawned home =>
        cases stepped
        exact ok.session there home (by simp [spawned])
      · cases stepped
  | finish n =>
    simp only [WtGenerations.step] at stepped
    split at stepped
    · cases stepped
    · next s there =>
      split at stepped
      · next g runs home =>
        cases stepped
        -- the session that ends is among those that the guard counts
        have counted : 0 < running w.sessions s.generation :=
          List.countP_pos_iff.mpr ⟨s,List.mem_of_getElem? there,by simp [runs]⟩
        have active := ok.active _ g home
        apply ok.session there home
        simp only [runs,if_true,if_false,reduceCtorEq]
        omega
      · cases stepped

end Steps

/-! ### Runs -/

section Runs
variable {validity : Nat} {w : WtState}

theorem ok_reachable (reachable : Reachable validity w) : Ok w := by
  obtain ⟨trace,executed,goes⟩ := reachable
  have start : Ok {} := by
    refine ⟨?_,?_,?_,?_,?_,?_⟩ <;> simp
  exact exec_invariant_under (fun _ _ _ ok stepped keeps => ok.step stepped keeps) start executed goes

/-- How generations follow each other. -/
structure HandsOver (validity : Nat) (w : WtState) : Prop where
  /-- What a request is told is listened for, by one loop alone. -/
  listened : ∀ made w' port certHashHex, made.all (fun m => w.free m.1) = true →
    w.ensureCurrent validity made = (w',some (port,certHashHex)) →
      ∃ (i : Nat) (g : WtGeneration), w'.generations[i]? = some g ∧ g.port = port ∧ g.certHashHex = certHashHex ∧
        g.phase ≠ .stopped ∧ ∀ (j : Nat) g', w'.generations[j]? = some g' → g'.phase ≠ .stopped → g'.port = port → j = i
  /-- One generation at most is not expired. -/
  one : ∀ (i j : Nat) g g', w.generations[i]? = some g → w.generations[j]? = some g' → w.now < g.notAfter →
      w.now < g'.notAfter → i = j
  /-- After its time a generation takes one session at most, the one it waited for. -/
  late : ∀ g ∈ w.generations, g.late ≤ 1
  /-- A loop that stops has expired, and no session of its generation runs. -/
  drained : ∀ (i : Nat) w' g, step validity w (.check i) = some w' → w'.generations[i]? = some g → g.phase = .stopped →
    g.notAfter ≤ w.now ∧ ∀ s ∈ w.sessions, s.generation = i → s.phase ≠ .running

theorem ensureCurrent_answer {made : Option (Nat × String)} {w' : WtState} {port : Nat} {certHashHex : String} (ok : Ok w)
    (answered : w.ensureCurrent validity made = (w',some (port,certHashHex))) :
    ∃ (i : Nat) (g : WtGeneration), w'.generations[i]? = some g ∧ g.port = port ∧ g.certHashHex = certHashHex ∧
        g.phase ≠ .stopped := by
  unfold WtState.ensureCurrent at answered
  split at answered
  · next g current =>
    cases answered
    rw [WtState.unexpired] at current
    split at current
    · cases current
    · next i _ =>
      obtain ⟨there,good⟩ := Option.filter_eq_some_iff.mp current
      refine ⟨i,g,there,rfl,rfl,?_⟩
      intro stopped
      have expired := (ok.timely i g there).stopped stopped
      simp only [WtGeneration.expired,Bool.not_eq_true',decide_eq_false_iff_not] at good
      exact good expired
  · split at answered
    · cases answered
    · cases answered
      refine ⟨w.generations.length,_,List.getElem?_concat_length,rfl,rfl,?_⟩
      simp

theorem stops_drained {i : Nat} {g g' : WtGeneration} (ok : Ok w) (there : w.generations[i]? = some g)
    (there' : (w.check i g).generations[i]? = some g') (stopped : g'.phase = .stopped) :
    g'.notAfter ≤ w.now ∧ ∀ s ∈ w.sessions, s.generation = i → s.phase ≠ .running := by
  have inside : i < w.generations.length := (List.getElem?_eq_some_iff.mp there).1
  rw [WtState.check,WtGeneration.expired] at there'
  split at there'
  · next expired =>
    have after : g.notAfter ≤ w.now := of_decide_eq_true expired
    split at there'
    · next idle =>
      rw [WtState.withGeneration,List.getElem?_set_self inside] at there'
      cases there'
      refine ⟨after,?_⟩
      have nobody := (ok.active i g there).symm.trans idle
      intro s member home runs
      have quiet := List.countP_eq_zero.mp nobody s member
      simp [home,runs] at quiet
    · rw [WtState.withGeneration,List.getElem?_set_self inside] at there'
      cases there'
      cases stopped
  · rw [WtState.withGeneration,List.getElem?_set_self inside] at there'
    cases there'
    cases stopped

/-- The generations of the server take over from each other while the clock goes on. -/
theorem generations_hand_over (reachable : Reachable validity w) : HandsOver validity w := by
  have ok := ok_reachable reachable
  refine ⟨?_,?_,?_,?_⟩
  · intro made w' port certHashHex free answered
    obtain ⟨i,g,there,samePort,sameHash,live⟩ := ensureCurrent_answer ok answered
    have next : Ok w' := by
      have : Ok (w.ensureCurrent validity made).1 := ok.ensureCurrent free
      rw [answered] at this
      exact this
    refine ⟨i,g,there,samePort,sameHash,live,?_⟩
    intro j g' there' live' samePort'
    exact next.ports j i g' g there' there live' live (samePort'.trans samePort.symm)
  · intro i j g g' there there' good good'
    have current : ∀ (k : Nat) h, w.generations[k]? = some h → w.now < h.notAfter → w.current = some k := by
      intro k h found unexpired
      by_contra other
      have := ok.older k h found other
      omega
    exact Option.some.inj ((current i g there good).symm.trans (current j g' there' good'))
  · intro g member
    obtain ⟨i,_,there⟩ := List.mem_iff_getElem.mp member
    exact (ok.timely i g (there ▸ List.getElem?_eq_getElem _)).late
  · intro i w' g' stepped there' stopped
    simp only [step] at stepped
    split at stepped
    · cases stepped
    · next g there =>
      simp only [Option.ite_none_right_eq_some,Option.some.injEq] at stepped
      obtain ⟨_,rfl⟩ := stepped
      exact stops_drained ok there there' stopped

def handedOver : List Action :=
  [.ensureCurrent (some (4001,"a1")),.check 0,.incoming 0,.start 0,.check 0,.clock 20,.incoming 0,
    .ensureCurrent (some (4002,"b2")),.finish 0,.check 0]

/-- A generation expires while it waits, takes one session more and stops; another one has taken over. -/
theorem hand_over_seen : ∃ w, Reachable 10 w ∧ w.current = some 1 ∧
    (w.generations[0]?).map (fun g => (g.phase,g.late)) = some (.stopped,1) ∧ HandsOver 10 w := by
  obtain ⟨w,executed,facts⟩ := Option.map_eq_some_iff.mp (by decide :
    (exec (step 10) {} handedOver).map (fun w => (w.current,(w.generations[0]?).map (fun g => (g.phase,g.late)))) =
      some (some 1,some (.stopped,1)))
  simp only [Prod.mk.injEq] at facts
  have reachable : Reachable 10 w := ⟨handedOver,executed,allSteps_of_checkAll (by decide)⟩
  exact ⟨w,reachable,facts.1,facts.2,generations_hand_over reachable⟩

end Runs

end FFWebHid.WtGenerations
