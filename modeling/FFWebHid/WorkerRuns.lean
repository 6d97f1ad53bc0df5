import FFWebHid.Runs
import FFWebHid.Types
import FFWebHid.Capabilities
import FFWebHid.Mailboxes
import FFWebHid.Registry
import FFWebHid.Lifecycle
import FFWebHid.Coherence
import FFWebHid.Sections
import FFWebHid.Threads
import FFWebHid.Safety
import FFWebHid.IoAuthority
import FFWebHid.Isolation
import FFWebHid.IoEvents
import FFWebHid.IoWorkers

/-!
What becomes of a command once it is enqueued. The worker checks it when it takes
it, so revoking its capability or advancing the epoch before then keeps it from
running; and every step of the worker brings the answer nearer.
-/
namespace FFWebHid.WorkerRuns
open FFWebHid.Runs FFWebHid.Types FFWebHid.Capabilities FFWebHid.Mailboxes FFWebHid.Registry FFWebHid.Coherence
open FFWebHid.Threads FFWebHid.Safety FFWebHid.IoAuthority FFWebHid.Isolation FFWebHid.IoEvents FFWebHid.IoWorkers

section
variable {daemon : Daemon} {w w' : World}

/-- The authority of a command was revoked before the worker has checked it: its
    capability before the first part of the check, or the epoch before the second. -/
def Revoked (w : World) (l : Lifetime) (command : IoCommand) : Prop :=
  (InFlight w l command ∧ w.mgr.valid command.validity = false) ∨
  ((InFlight w l command ∨ w.worker l = .validated command) ∧ command.epoch < w.shared.epoch l)

@[simp] theorem mem_commandsOf {queue : List Queued} {command : IoCommand} :
    command ∈ commandsOf queue ↔ .command command ∈ queue := by
  unfold commandsOf
  rw [List.mem_filterMap]
  constructor
  · rintro ⟨item,member,same⟩
    cases item with
    | shutdown => cases same
    | command c => cases same; exact member
  · intro member
    exact ⟨_,member,rfl⟩

/-- Epochs only advance. -/
theorem IoChange.epoch {event : Option IoEvent} (change : IoChange w w' event) (l : Lifetime) :
    w.shared.epoch l ≤ w'.shared.epoch l := by
  cases change with
  | silent shared _ _ => exact shared.epoch l
  | enqueues _ _ _ _ pushed _ _ _ =>
    unfold Shared.push at pushed
    split at pushed
    · cases pushed
    · rw [← Option.some.inj pushed]
  | stops _ _ _ _ shared _ _ => rw [shared,foldl_answer]
  | validates _ _ _ _ shared _ _ => rw [shared]
  | captures _ _ _ _ _ _ _ shared _ _ _ => rw [shared]
  | receives _ _ _ _ _ shared _ _ => rw [shared]
  | runs _ _ _ _ shared _ _ => rw [shared]
  | rejects _ _ _ shared _ _ => rw [shared]; exact Nat.le_refl _
  | finishes _ _ _ shared _ _ => rw [shared]; exact Nat.le_refl _

/-- A capability that was cleared stays cleared. -/
private theorem cleared_stays {a : Action} (ok : WorldOk daemon w) (io : IoOk w) (taken : step daemon w a = some w')
    {l : Lifetime} {command : IoCommand} (waits : InFlight w l command) (cleared : w.mgr.valid command.validity = false) :
    w'.mgr.valid command.validity = false := by
  have granted : command.validity < w.mgr.nextFlag := by
    rcases waits with queued | received
    · exact (io.queues.queued l command queued).1
    · have known := io.worker l
      rw [received] at known
      exact known.1
  by_contra set
  rw [Bool.not_eq_false] at set
  have before := ((step_move ok taken).effect.evolves ok.coherent).cleared _ granted set
  rw [show (flags w.mgr).valid command.validity = w.mgr.valid command.validity from rfl,cleared] at before
  cases before

/-- A revoked command stays revoked until it is answered, and is not run. -/
private theorem revoked_step {o o' : Observed} {a : Action} {l : Lifetime} {command : IoCommand}
    (ok : ObservedOk daemon o) (taken : observe daemon o a = some o') (revoked : Revoked o.world l command)
    (unrun : command ∉ o.ledger.ran l) :
    command ∉ o'.ledger.ran l ∧ (Revoked o'.world l command ∨ command ∈ (o'.lane l).answered) := by
  obtain ⟨w',stepped,rfl⟩ := Option.map_eq_some_iff.mp taken
  have change := step_ioChange stepped
  have epoch := IoChange.epoch change l
  obtain ⟨before,mailbox⟩ := ok.ledger.mailbox l
  -- While the command is where it was, or further on in the check, it stays revoked.
  have stays (flight : InFlight o.world l command → InFlight w' l command)
      (validated : o.world.worker l = .validated command → w'.worker l = .validated command) :
      Revoked w' l command := by
    rcases revoked with ⟨waits,cleared⟩ | ⟨waits,advanced⟩
    · exact Or.inl ⟨flight waits,cleared_stays ok.world ok.io stepped waits cleared⟩
    · exact Or.inr ⟨waits.imp flight validated,Nat.lt_of_lt_of_le advanced epoch⟩
  have same (queue : ∀ c, .command c ∈ o.world.shared.queue l → .command c ∈ w'.shared.queue l)
      (worker : w'.worker l = o.world.worker l) : Revoked w' l command :=
    stays (Or.imp (queue command) (fun here => worker.trans here)) (fun here => worker.trans here)
  -- While the worker holds another command, this one is in the queue.
  have queued {pc : WorkerPc} (here : o.world.worker l = pc) (received : pc ≠ .received command)
      (validated : pc ≠ .validated command) : .command command ∈ o.world.shared.queue l := by
    rcases revoked with ⟨waits | waits,_⟩ | ⟨(waits | waits) | waits,_⟩
    · exact waits
    · exact absurd (here.symm.trans waits) received
    · exact waits
    · exact absurd (here.symm.trans waits) received
    · exact absurd (here.symm.trans waits) validated
  have flight (member : .command command ∈ w'.shared.queue l) (waits : o.world.worker l ≠ .validated command) :
      Revoked w' l command := stays (fun _ => Or.inl member) (fun here => absurd here waits)
  have notQueued (holds : (workerOf (o.world.worker l)).held = some command) :
      .command command ∉ o.world.shared.queue l := fun member =>
    mailbox.free (mem_commandsOf.mpr member) holds
  generalize ioEvent o.world a = event at change ⊢
  cases change with
  | silent shared worker _ =>
    refine ⟨unrun,Or.inl (same ?_ (by rw [worker]))⟩
    intro c member
    exact mem_commandsOf.mp (shared.queue l ▸ mem_commandsOf.mpr member)
  | validates l₀ c₀ here set shared worker _ =>
    refine ⟨unrun,Or.inl ?_⟩
    by_cases mine : l = l₀
    · subst mine
      by_cases this : c₀ = command
      · subst this
        rcases revoked with ⟨_,cleared⟩ | ⟨_,advanced⟩
        · rw [cleared] at set; cases set
        · exact Or.inr ⟨Or.inr (by rw [worker]; simp),Nat.lt_of_lt_of_le advanced epoch⟩
      · refine flight ?_ (by rw [here]; intro same; cases same)
        rw [shared]
        exact queued here (by simpa using this) (by simp)
    · exact same (fun c member => by rw [shared]; exact member) (by rw [worker,Function.update_of_ne mine])
  | captures _ _ _ _ _ _ _ shared worker _ _ =>
    exact ⟨unrun,Or.inl (same (fun c member => by rw [shared]; exact member) (by rw [worker]))⟩
  | enqueues _ queue c₀ _ pushed worker _ _ =>
    refine ⟨unrun,Or.inl (same ?_ (by rw [worker]))⟩
    intro c member
    unfold Shared.push at pushed
    split at pushed
    · cases pushed
    · rw [← Option.some.inj pushed]
      by_cases mine : l = queue
      · subst mine
        simp [member]
      · simpa [mine] using member
  | receives l₀ c₀ rest idle first shared worker _ =>
    refine ⟨unrun,Or.inl ?_⟩
    by_cases mine : l = l₀
    · subst mine
      have member := queued idle (by simp) (by simp)
      refine stays (fun _ => ?_) (fun here => by rw [idle] at here; cases here)
      rw [first] at member
      rcases List.mem_cons.mp member with this | later
      · cases this
        exact Or.inr (by rw [worker]; simp)
      · exact Or.inl (by rw [shared]; simpa using later)
    · refine same (fun c member => ?_) (by rw [worker,Function.update_of_ne mine])
      rw [shared]
      simpa [mine] using member
  | runs l₀ c₀ here current shared worker _ =>
    by_cases mine : l = l₀
    · subst mine
      have other : c₀ ≠ command := by
        rintro rfl
        rcases revoked with ⟨waits | waits,_⟩ | ⟨_,advanced⟩
        · exact notQueued (by rw [here]; rfl) waits
        · rw [here] at waits; cases waits
        · omega
      refine ⟨?_,Or.inl (flight ?_ (by rw [here]; simpa using other))⟩
      · simp only [Option.elim_some,Ledger.record,Function.update_self,List.mem_append,List.mem_singleton]
        rintro (old | new)
        · exact unrun old
        · exact other new.symm
      · rw [shared]
        exact queued here (by simp) (by simpa using other)
    · refine ⟨?_,Or.inl (same (fun c member => by rw [shared]; exact member) (by rw [worker,Function.update_of_ne mine]))⟩
      simpa [Ledger.record,mine] using unrun
  | rejects l₀ c₀ here shared worker _ =>
    refine ⟨unrun,?_⟩
    by_cases mine : l = l₀
    · subst mine
      by_cases this : c₀ = command
      · subst this
        exact Or.inr (by simp [Observed.lane,lane,Mailbox.answered,Ledger.record])
      · refine Or.inl (flight ?_ ?_)
        · rw [shared]
          rcases here with here | here
          · exact queued here (by simpa using this) (by simp)
          · exact queued here (by simp) (by simpa using this)
        · rcases here with here | here
          · rw [here]; intro same; cases same
          · rw [here]; simpa using this
    · exact Or.inl (same (fun c member => by rw [shared]; exact member) (by rw [worker,Function.update_of_ne mine]))
  | finishes l₀ c₀ here shared worker _ =>
    refine ⟨unrun,Or.inl ?_⟩
    by_cases mine : l = l₀
    · subst mine
      refine flight ?_ (by rw [here]; intro same; cases same)
      rw [shared]
      exact queued here (by simp) (by simp)
    · exact same (fun c member => by rw [shared]; exact member) (by rw [worker,Function.update_of_ne mine])
  | stops l₀ rest idle first shared worker _ =>
    refine ⟨unrun,?_⟩
    by_cases mine : l = l₀
    · subst mine
      have member := queued idle (by simp) (by simp)
      rw [first] at member
      rcases List.mem_cons.mp member with this | later
      · cases this
      · refine Or.inr ?_
        simp only [Observed.lane,lane,Mailbox.answered,Option.elim_some,Ledger.record,Function.update_self,
          List.map_append,List.map_map,List.mem_append,List.mem_map]
        exact Or.inl ⟨command,mem_commandsOf.mpr later,rfl⟩
    · refine Or.inl (same (fun c member => ?_) (by rw [worker,Function.update_of_ne mine]))
      rw [shared]
      simpa [mine] using member

/-- What a step does to a mailbox. -/
private theorem lane_moves {o o' : Observed} {a : Action} (ok : ObservedOk daemon o)
    (taken : observe daemon o a = some o') (l : Lifetime) : o'.lane l = o.lane l ∨ Step (o.lane l) (o'.lane l) := by
  obtain ⟨w',stepped,rfl⟩ := Option.map_eq_some_iff.mp taken
  exact lane_step ok.ledger (step_ioChange stepped) l

private theorem answered_step {o o' : Observed} {a : Action} {l : Lifetime} {command : IoCommand}
    (ok : ObservedOk daemon o) (taken : observe daemon o a = some o') (answered : command ∈ (o.lane l).answered) :
    command ∈ (o'.lane l).answered := by
  rcases lane_moves ok taken l with same | moved
  · rw [same]; exact answered
  · exact moved.answered answered

/-- A command that was revoked before it was checked is never run. -/
private theorem revoked_never_runs {o o' : Observed} {later : List Action} {l : Lifetime} {command : IoCommand}
    (ok : ObservedOk daemon o) (revoked : Revoked o.world l command)
    (run : exec (observe daemon) o later = some o') : command ∉ o'.ledger.ran l := by
  have unrun : command ∉ o.ledger.ran l := by
    obtain ⟨taken,mailbox⟩ := ok.ledger.mailbox l
    refine mailbox.unrun ?_
    have checks (here : o.world.worker l = .received command ∨ o.world.worker l = .validated command) :
        (lane o.world o.ledger l).worker = .checking command := by
      rcases here with here | here <;> simp [lane,here,workerOf]
    rcases revoked with ⟨waits | waits,_⟩ | ⟨(waits | waits) | waits,_⟩
    · exact Or.inl (mem_commandsOf.mpr waits)
    · exact Or.inr (checks (Or.inl waits))
    · exact Or.inl (mem_commandsOf.mpr waits)
    · exact Or.inr (checks (Or.inl waits))
    · exact Or.inr (checks (Or.inr waits))
  have step (s : Observed) (a : Action) (s' : Observed)
      (holds : ObservedOk daemon s ∧ command ∉ s.ledger.ran l ∧
        (Revoked s.world l command ∨ command ∈ (s.lane l).answered)) (taken : observe daemon s a = some s') :
      ObservedOk daemon s' ∧ command ∉ s'.ledger.ran l ∧
        (Revoked s'.world l command ∨ command ∈ (s'.lane l).answered) := by
    obtain ⟨ok,unrun,revoked | answered⟩ := holds
    · exact ⟨step_observed ok taken,revoked_step ok taken revoked unrun⟩
    · refine ⟨step_observed ok taken,?_,Or.inr (answered_step ok taken answered)⟩
      obtain ⟨before,mailbox⟩ := ok.ledger.mailbox l
      rcases lane_moves ok taken l with same | moved
      · rw [show s'.ledger.ran l = (s'.lane l).ran from rfl,same]; exact unrun
      · exact mailbox.settled moved answered unrun
  exact (exec_invariant step ⟨ok,unrun,Or.inl revoked⟩ run).2.1

/-! ### Pending commands -/

/-- How many steps the worker still has with the command that it holds. -/
def stage : WorkerPc → Nat
  | .received _ => 3
  | .validated _ => 2
  | .running _ => 1
  | _ => 0

/-- How many steps of the worker a pending command waits at most. -/
def rank (w : World) (l : Lifetime) (command : IoCommand) : Nat :=
  stage (w.worker l) + if (workerOf (w.worker l)).held = some command then 0
    else 4 * ((commandsOf (w.shared.queue l)).idxOf command + 1)

def isWorker (l : Lifetime) : Action → Bool
  | .worker l' => l' == l
  | _ => false

theorem rank_pos {l : Lifetime} {command : IoCommand} : 0 < rank w l command := by
  unfold rank
  split
  next holds =>
    have moving : 0 < stage (w.worker l) := by
      cases state : w.worker l <;> simp [state,workerOf,Worker.held,stage] at holds ⊢
    omega
  · omega

/-- Another thread leaves the worker alone and lets no command overtake. -/
private theorem rank_other {o o' : Observed} {a : Action} {l : Lifetime} {command : IoCommand}
    (ok : ObservedOk daemon o) (taken : observe daemon o a = some o') (other : isWorker l a = false)
    (pending : (o.lane l).Pending command) :
    (o'.lane l).Pending command ∧ rank o'.world l command = rank o.world l command := by
  have worker : o'.world.worker l = o.world.worker l := by
    obtain ⟨w',stepped,rfl⟩ := Option.map_eq_some_iff.mp taken
    cases a with
    | client c action =>
      obtain ⟨⟨pc,sh⟩,_,rfl⟩ := Option.map_eq_some_iff.mp stepped
      rfl
    | relay c action =>
      obtain ⟨⟨pc,sh⟩,_,rfl⟩ := Option.map_eq_some_iff.mp stepped
      rfl
    | transport t action =>
      obtain ⟨⟨pc,sh⟩,_,rfl⟩ := Option.map_eq_some_iff.mp stepped
      rfl
    | reader l' action =>
      obtain ⟨config,_,inner⟩ := Option.bind_eq_some_iff.mp stepped
      obtain ⟨⟨pc,sh⟩,_,rfl⟩ := Option.map_eq_some_iff.mp inner
      rfl
    | worker l' =>
      simp only [step] at stepped
      split at stepped
      · obtain ⟨⟨pc,sh⟩,_,rfl⟩ := Option.map_eq_some_iff.mp stepped
        have apart : l ≠ l' := by
          rintro rfl
          simp [isWorker] at other
        exact Function.update_of_ne apart _ _
      · cases stepped
    | hotplug connected info => cases stepped; rfl
  have holds : (o'.lane l).worker = (o.lane l).worker := congrArg workerOf worker
  -- The queue is the same, or grows at its end.
  have queue : (o'.lane l).queue = (o.lane l).queue ∨ ∃ new, (o'.lane l).queue = (o.lane l).queue ++ [new] := by
    rcases lane_moves ok taken l with same | moved
    · exact Or.inl (by rw [same])
    · generalize o'.lane l = next at holds moved
      cases moved with
      | enqueue new _ _ => exact Or.inr ⟨new,rfl⟩
      | receive b rest idle _ => rw [idle] at holds; cases holds
      | start b checked => exact Or.inl rfl
      | reject b checked => exact Or.inl rfl
      | finish b done => exact Or.inl rfl
      | stop idle => rw [idle] at holds; cases holds
  have kept : (o'.lane l).Pending command := by
    rcases pending with queued | held
    · rcases queue with same | ⟨new,grown⟩
      · exact Or.inl (same ▸ queued)
      · exact Or.inl (grown ▸ List.mem_append_left _ queued)
    · exact Or.inr (holds ▸ held)
  refine ⟨kept,?_⟩
  unfold rank
  rw [worker]
  by_cases held : (workerOf (o.world.worker l)).held = some command
  · rw [if_pos held,if_pos held]
  · have queued : command ∈ commandsOf (o.world.shared.queue l) := by
      rcases pending with queued | holds
      · exact queued
      · exact absurd holds held
    have index : (commandsOf (o'.world.shared.queue l)).idxOf command =
        (commandsOf (o.world.shared.queue l)).idxOf command := by
      rcases queue with same | ⟨new,grown⟩
      · exact congrArg (List.idxOf command) same
      · rw [show commandsOf (o'.world.shared.queue l) = commandsOf (o.world.shared.queue l) ++ [new] from grown]
        exact List.idxOf_append_of_mem queued
    rw [if_neg held,if_neg held,index]

/-- The moves of a worker: it takes the first command, stops, or goes on with the
    command that it holds. -/
private theorem worker_moves {l : Lifetime} (taken : step daemon w (.worker l) = some w') :
    (∃ c rest, w.worker l = .idle ∧ commandsOf (w.shared.queue l) = c :: rest ∧ w'.worker l = .received c ∧
      commandsOf (w'.shared.queue l) = rest) ∨
    (w'.worker l = .stopped ∧ commandsOf (w'.shared.queue l) = []) ∨
    (w'.shared.queue l = w.shared.queue l ∧ (workerOf (w'.worker l)).held = (workerOf (w.worker l)).held ∧
      stage (w'.worker l) + 1 = stage (w.worker l)) ∨
    (w'.shared.queue l = w.shared.queue l ∧ w'.worker l = .idle ∧ 0 < stage (w.worker l)) := by
  simp only [step] at taken
  split at taken
  swap
  · cases taken
  obtain ⟨⟨pc,sh⟩,ran,rfl⟩ := Option.map_eq_some_iff.mp taken
  simp only [Function.update_self]
  generalize w.worker l = before at ran ⊢
  cases before with
  | idle =>
    simp only [workerStep] at ran
    split at ran
    · cases ran
    · cases ran
      exact Or.inr (Or.inl ⟨rfl,by simp [commandsOf]⟩)
    next c rest first =>
      cases ran
      exact Or.inl ⟨c,commandsOf rest,rfl,by simp [first,commandsOf],rfl,by simp⟩
  | received c =>
    simp only [workerStep] at ran
    split at ran <;> cases ran
    · exact Or.inr (Or.inr (Or.inl ⟨rfl,rfl,rfl⟩))
    · exact Or.inr (Or.inr (Or.inr ⟨rfl,rfl,by simp [stage]⟩))
  | validated c =>
    simp only [workerStep] at ran
    split at ran <;> cases ran
    · exact Or.inr (Or.inr (Or.inl ⟨rfl,rfl,rfl⟩))
    · exact Or.inr (Or.inr (Or.inr ⟨rfl,rfl,by simp [stage]⟩))
  | running c =>
    cases ran
    exact Or.inr (Or.inr (Or.inr ⟨rfl,rfl,by simp [stage]⟩))
  | stopped => cases ran

/-- The worker brings the answer nearer. -/
private theorem rank_worker {o o' : Observed} {l : Lifetime} {command : IoCommand} (ok : ObservedOk daemon o)
    (taken : observe daemon o (.worker l) = some o') (pending : (o.lane l).Pending command)
    (still : (o'.lane l).Pending command) : rank o'.world l command + 1 ≤ rank o.world l command := by
  obtain ⟨before,mailbox⟩ := ok.ledger.mailbox l
  obtain ⟨w',stepped,rfl⟩ := Option.map_eq_some_iff.mp taken
  unfold rank
  rcases worker_moves stepped with ⟨c,rest,idle,first,received,left⟩ | ⟨stopped,empty⟩ | ⟨queue,held,stages⟩ |
    ⟨queue,idle,moving⟩
  · -- The first command is taken, and all others move up.
    simp only [idle,received,first,left,workerOf,Worker.held,stage,Option.some.injEq]
    by_cases this : c = command
    · subst this
      simp
    · rw [List.idxOf_cons_ne _ this,if_neg this]
      simp only [reduceCtorEq,if_false]
      omega
  · rcases still with queued | held
    · rw [show (Observed.lane _ l).queue = commandsOf (w'.shared.queue l) from rfl,empty] at queued
      cases queued
    · rw [show (Observed.lane _ l).worker = workerOf (w'.worker l) from rfl,stopped] at held
      cases held
  · simp only [queue,held]
    omega
  · have queued : command ∈ commandsOf (o.world.shared.queue l) := by
      rcases still with queued | held
      · exact queue ▸ queued
      · rw [show (Observed.lane _ l).worker = workerOf (w'.worker l) from rfl,idle] at held
        cases held
    have free : (workerOf (o.world.worker l)).held ≠ some command := mailbox.free queued
    rw [if_neg free,idle,queue]
    simp only [stage,workerOf,Worker.held,reduceCtorEq,if_false] at moving ⊢
    omega

/-- A command that is pending is answered within so many steps of its worker, whatever
    the other threads do in between. -/
private theorem answered_within {o o' : Observed} {later : List Action} {l : Lifetime} {command : IoCommand}
    (ok : ObservedOk daemon o) (enqueued : command ∈ o.ledger.enqueued l)
    (pending : (o.lane l).Pending command) (run : exec (observe daemon) o later = some o')
    (enough : rank o.world l command ≤ later.countP (isWorker l)) : command ∈ (o'.lane l).answered := by
  induction later generalizing o with
  | nil =>
    have waits : 0 < rank o.world l command := rank_pos
    simp only [List.countP_nil] at enough
    omega
  | cons a rest ih =>
    obtain ⟨next,taken,remaining⟩ := exec_cons.mp run
    have ok' := step_observed ok taken
    have kept : command ∈ next.ledger.enqueued l := by
      rcases lane_moves ok taken l with same | moved
      · rw [show next.ledger.enqueued l = (next.lane l).enqueued from rfl,same]; exact enqueued
      · exact moved.enqueued enqueued
    obtain ⟨before,mailbox⟩ := ok'.ledger.mailbox l
    rcases mailbox.answered_once kept with ⟨still,_⟩ | ⟨_,once⟩
    · refine ih ok' kept still remaining ?_
      cases worker : isWorker l a with
      | true =>
        have same : a = .worker l := by
          cases a <;> simp [isWorker] at worker
          rw [worker]
        subst same
        have nearer := rank_worker ok taken pending still
        rw [List.countP_cons_of_pos worker] at enough
        omega
      | false =>
        have same := (rank_other ok taken worker pending).2
        rw [List.countP_cons_of_neg (by simp [worker])] at enough
        omega
    · have answered : command ∈ (next.lane l).answered := by
        refine List.count_pos_iff.mp ?_
        exact Nat.lt_of_lt_of_eq Nat.one_pos once.symm
      have step (s : Observed) (a : Action) (s' : Observed)
          (holds : ObservedOk daemon s ∧ command ∈ (s.lane l).answered) (taken : observe daemon s a = some s') :
          ObservedOk daemon s' ∧ command ∈ (s'.lane l).answered :=
        ⟨step_observed holds.1 taken,answered_step holds.1 taken holds.2⟩
      exact (exec_invariant step ⟨ok',answered⟩ remaining).2

/-- The worker of a pending command can take a step. -/
private theorem worker_ready {o : Observed} {l : Lifetime} {command : IoCommand} (ok : ObservedOk daemon o)
    (enqueued : command ∈ o.ledger.enqueued l) (pending : (o.lane l).Pending command) :
    (step daemon o.world (.worker l)).isSome = true := by
  have served := ok.served l (ok.ledger.built l command enqueued)
  simp only [step,served,if_true,Option.isSome_map]
  cases state : o.world.worker l with
  | idle =>
    simp only [workerStep]
    rcases pending with queued | held
    · split
      next empty =>
        simp only [Observed.lane,lane,empty] at queued
        cases queued
      · rfl
      · rfl
    · simp [Observed.lane,lane,state,workerOf,Worker.held] at held
  | stopped =>
    obtain ⟨before,mailbox⟩ := ok.ledger.mailbox l
    rcases pending with queued | held
    · have empty := mailbox.emptied (show workerOf (o.world.worker l) = .stopped by rw [state]; rfl)
      rw [show (o.lane l).queue = (lane o.world o.ledger l).queue from rfl,empty] at queued
      cases queued
    · simp [Observed.lane,lane,state,workerOf,Worker.held] at held
  | received c => simp only [workerStep]; split <;> rfl
  | validated c => simp only [workerStep]; split <;> rfl
  | running c => rfl

/-- A pending command has no answer yet, its worker can take a step, and so many steps
    of the worker bring the answer. -/
structure Awaits (daemon : Daemon) (o : Observed) (l : Lifetime) (command : IoCommand) : Prop where
  pending : (o.lane l).Pending command
  unanswered : (o.lane l).answered.count command = 0
  ready : (step daemon o.world (.worker l)).isSome = true
  within : ∀ later o', exec (observe daemon) o later = some o' →
    rank o.world l command ≤ later.countP (isWorker l) → command ∈ (o'.lane l).answered

/-- In every state that is reached, for the worker of every lifetime: a command that
    was revoked before it was checked is never run; what was run had read its epoch
    from this lifetime; commands are run in the order in which they were enqueued;
    and each one that was enqueued awaits its answer or was answered once, with a
    result exactly when it was run, and for a stopped worker only when it has stopped. -/
theorem io_at_execution {trace : List Action} {o : Observed} (run : exec (observe daemon) {} trace = some o)
    (l : Lifetime) :
    (∀ command, Revoked o.world l command → ∀ later o', exec (observe daemon) o later = some o' →
      command ∉ o'.ledger.ran l) ∧
    (∀ command ∈ o.ledger.ran l, o.ledger.captured command.reply = some l) ∧
    (o.ledger.ran l).Sublist (o.ledger.enqueued l) ∧
    ∀ command ∈ o.ledger.enqueued l,
      (Awaits daemon o l command ∨
        (¬ (o.lane l).Pending command ∧ (o.lane l).answered.count command = 1)) ∧
      (∀ how, (command,how) ∈ o.ledger.answers l → Fits (o.lane l) command how ∧
        o.world.shared.replies command.reply = some (how == .result)) ∧
      ∀ l' other, other ∈ o.ledger.enqueued l' → other.reply = command.reply → l' = l ∧ other = command := by
  have ok := observed_ok (init_observed daemon) run
  obtain ⟨before,mailbox⟩ := ok.ledger.mailbox l
  have ordered : (o.ledger.ran l).Sublist (o.ledger.enqueued l) := mailbox.in_order
  refine ⟨?_,?_,ordered,?_⟩
  · intro command revoked later o' continued
    exact revoked_never_runs ok revoked continued
  · intro command ran
    exact (ok.ledger.logged l command (ordered.subset ran)).2
  · intro command enqueued
    refine ⟨?_,?_,?_⟩
    · rcases mailbox.answered_once enqueued with ⟨pending,unanswered⟩ | ⟨settled,once⟩
      · exact Or.inl ⟨pending,unanswered,worker_ready ok enqueued pending,
          fun later o' continued enough => answered_within ok enqueued pending continued enough⟩
      · exact Or.inr ⟨settled,once⟩
    · intro how answered
      exact ⟨mailbox.fits command how answered,
        (ok.ledger.replies command.reply (how == .result)).mpr ⟨l,command,how,answered,rfl,rfl⟩⟩
    · intro l' other enqueued' same
      have lifetime : l' = l := by
        have first := (ok.ledger.logged l' other enqueued').2
        rw [same,(ok.ledger.logged l command enqueued).2] at first
        exact (Option.some.inj first).symm
      subst lifetime
      exact ⟨rfl,ok.ledger.single l' other command enqueued' enqueued same⟩

end

/-- A client has a send of two bytes in the queue when its device is lost. -/
def lostWhileQueued : List Action :=
  connecting 1 ++ openingFirst 1 tokenA ++ [.client 1 (.report 7 (.output 0 [1,2]))] ++
    List.replicate 4 (.client 1 .advance) ++ [.hotplug false vendorInfo,.relay 1 .take]

/-- The send is never run, and is answered when the worker has taken four steps. -/
theorem io_at_execution_lost : ∃ o command, exec (observe vendorDaemon) {} lostWhileQueued = some o ∧
    o.ledger.enqueued 1 = [command] ∧ Revoked o.world 1 command ∧
    (∀ later o', exec (observe vendorDaemon) o later = some o' → command ∉ o'.ledger.ran 1) ∧
    ∀ later o', exec (observe vendorDaemon) o later = some o' → 4 ≤ later.countP (isWorker 1) →
      command ∈ (o'.lane 1).answered := by
  obtain ⟨o,run⟩ := Option.isSome_iff_exists.mp
    (by decide : (exec (observe vendorDaemon) {} lostWhileQueued).isSome = true)
  have facts : (exec (observe vendorDaemon) {} lostWhileQueued).map (fun o =>
      (o.ledger.enqueued 1,o.world.shared.queue 1,(o.ledger.enqueued 1).map fun c =>
        (o.world.mgr.valid c.validity,rank o.world 1 c))) =
      some ([⟨.output 0 [1,2],0,0,0,.nm 1 7,0⟩],[.command ⟨.output 0 [1,2],0,0,0,.nm 1 7,0⟩],[(false,4)]) := by decide
  rw [run] at facts
  simp only [Option.map_some,Option.some.injEq,Prod.mk.injEq] at facts
  obtain ⟨enqueued,queued,state⟩ := facts
  rw [enqueued] at state
  simp only [List.map_cons,List.map_nil,List.cons.injEq,Prod.mk.injEq,and_true] at state
  have revoked : Revoked o.world 1 ⟨.output 0 [1,2],0,0,0,.nm 1 7,0⟩ :=
    Or.inl ⟨Or.inl (by rw [queued]; exact List.mem_cons_self),state.1⟩
  obtain ⟨never,_,_,each⟩ := io_at_execution run 1
  have member : (⟨.output 0 [1,2],0,0,0,.nm 1 7,0⟩ : IoCommand) ∈ o.ledger.enqueued 1 := by
    rw [enqueued]; exact List.mem_cons_self
  refine ⟨o,_,run,enqueued,revoked,never _ revoked,?_⟩
  intro later o' continued enough
  rcases (each _ member).1 with awaits | ⟨settled,_⟩
  · exact awaits.within later o' continued (by rw [state.2]; exact enough)
  · refine absurd (Or.inl ?_) settled
    show _ ∈ commandsOf (o.world.shared.queue 1)
    rw [queued]; exact List.mem_cons_self

end FFWebHid.WorkerRuns
