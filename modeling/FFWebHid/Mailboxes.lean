import Mathlib.Data.List.Nodup
import Mathlib.Data.List.Count

/-!
A queue with one worker, which takes the items in turn, runs or rejects each, and
answers it; when the worker is stopped, what is left is answered as well. The logs
of what was enqueued, run and answered are kept beside the queue.
-/
namespace FFWebHid.Mailboxes
universe u

/-- How an item was answered: with the result of running it, rejected, or because the
    worker has stopped. -/
inductive Answer where
  | result
  | rejected
  | stopped
  deriving DecidableEq, Repr

inductive Worker (α : Type u) where
  | idle
  | checking (item : α)
  | running (item : α)
  | stopped

/-- The item that a worker has taken and not answered. -/
def Worker.held {α : Type u} : Worker α → Option α
  | .checking a => some a
  | .running a => some a
  | _ => none

structure Mailbox (α : Type u) where
  enqueued : List α := []
  queue : List α := []
  worker : Worker α := .idle
  ran : List α := []
  answers : List (α × Answer) := []

/-- The items that were answered. -/
def Mailbox.answered {α : Type u} (m : Mailbox α) : List α := m.answers.map (·.1)

/-- An item waits in the queue or is held by the worker. -/
def Mailbox.Pending {α : Type u} (m : Mailbox α) (a : α) : Prop := a ∈ m.queue ∨ m.worker.held = some a

/-- One step: an item is enqueued that never was before, or the worker moves. -/
inductive Step {α : Type u} (m : Mailbox α) : Mailbox α → Prop where
  | enqueue (a : α) (new : a ∉ m.enqueued) (live : m.worker ≠ .stopped) :
      Step m { m with enqueued := m.enqueued ++ [a], queue := m.queue ++ [a] }
  | receive (a : α) (rest : List α) (idle : m.worker = .idle) (first : m.queue = a :: rest) :
      Step m { m with queue := rest, worker := .checking a }
  | start (a : α) (checked : m.worker = .checking a) : Step m { m with worker := .running a, ran := m.ran ++ [a] }
  | reject (a : α) (checked : m.worker = .checking a) :
      Step m { m with worker := .idle, answers := (a,.rejected) :: m.answers }
  | finish (a : α) (done : m.worker = .running a) :
      Step m { m with worker := .idle, answers := (a,.result) :: m.answers }
  | stop (idle : m.worker = .idle) :
      Step m { m with
        queue := []
        worker := .stopped
        answers := m.queue.map (fun a => (a,.stopped)) ++ m.answers }

/-- How an item may be answered: with a result when it was run, otherwise not. -/
def Fits {α : Type u} (m : Mailbox α) (a : α) : Answer → Prop
  | .result => a ∈ m.ran
  | .rejected => a ∉ m.ran
  | .stopped => a ∉ m.ran ∧ m.worker = .stopped

/-- `taken` lists what the worker has taken, in order. -/
structure Ok {α : Type u} (m : Mailbox α) (taken : List α) : Prop where
  split : m.enqueued = taken ++ m.queue
  distinct : m.enqueued.Nodup
  ran : m.ran.Sublist taken
  checking : ∀ a, m.worker = .checking a → ∃ before, taken = before ++ [a] ∧ m.ran.Sublist before
  running : ∀ a, m.worker = .running a → a ∈ m.ran
  once : m.answered.Nodup
  answered : ∀ a, a ∈ m.answered ↔ a ∈ taken ∧ m.worker.held ≠ some a
  fits : ∀ a how, (a,how) ∈ m.answers → Fits m a how
  emptied : m.worker = .stopped → m.queue = []

section
variable {α : Type u} {m m' : Mailbox α} {taken : List α}

theorem init_ok : Ok ({} : Mailbox α) [] := by
  refine ⟨rfl,List.nodup_nil,List.Sublist.refl _,?_,?_,List.nodup_nil,?_,?_,fun _ => rfl⟩
  · intro a checks; cases checks
  · intro a runs; cases runs
  · intro a; simp [Mailbox.answered]
  · intro a how member; cases member

private theorem Ok.taken_nodup (ok : Ok m taken) : taken.Nodup := (ok.split ▸ ok.distinct).of_append_left

private theorem Ok.apart (ok : Ok m taken) {a : α} (queued : a ∈ m.queue) : a ∉ taken :=
  fun before => List.disjoint_of_nodup_append (ok.split ▸ ok.distinct) before queued

/-- What the worker holds was taken. -/
theorem Ok.held (ok : Ok m taken) {a : α} (holds : m.worker.held = some a) : a ∈ taken := by
  cases state : m.worker with
  | checking b =>
    rw [state] at holds
    cases holds
    obtain ⟨before,same,_⟩ := ok.checking a state
    rw [same]; simp
  | running b =>
    rw [state] at holds
    cases holds
    exact ok.ran.subset (ok.running a state)
  | idle => rw [state] at holds; cases holds
  | stopped => rw [state] at holds; cases holds

/-- An item that is answered stays answered in the same way. -/
private theorem fits_mono {a : α} {how : Answer} (fits : Fits m a how) (grown : a ∈ m.ran → a ∈ m'.ran)
    (kept : a ∉ m.ran → a ∉ m'.ran) (stopped : m.worker = .stopped → m'.worker = .stopped) : Fits m' a how := by
  cases how with
  | result => exact grown fits
  | rejected => exact kept fits
  | stopped => exact ⟨kept fits.1,stopped fits.2⟩

theorem Ok.step (ok : Ok m taken) (step : Step m m') : ∃ taken', Ok m' taken' := by
  cases step with
  | enqueue a new live =>
    refine ⟨taken,?_,?_,ok.ran,ok.checking,ok.running,ok.once,ok.answered,?_,fun stopped => absurd stopped live⟩
    · rw [ok.split,List.append_assoc]
    · exact List.nodup_append.mpr ⟨ok.distinct,List.nodup_singleton a,by rintro b before c here rfl; simp at here; exact new (here ▸ before)⟩
    · exact fun b how member => fits_mono (ok.fits b how member) id id id
  | receive a rest idle first =>
    have absent : a ∉ taken := ok.apart (by rw [first]; exact List.mem_cons_self)
    refine ⟨taken ++ [a],?_,ok.distinct,ok.ran.trans (List.sublist_append_left _ _),?_,?_,ok.once,?_,?_,nofun⟩
    · rw [ok.split,first]; simp
    · intro b checks
      cases checks
      exact ⟨taken,rfl,ok.ran⟩
    · intro b runs; cases runs
    · intro b
      have before := ok.answered b
      simp only [idle,Worker.held,ne_eq,reduceCtorEq,not_false_eq_true,and_true] at before
      show b ∈ m.answered ↔ b ∈ taken ++ [a] ∧ some a ≠ some b
      rw [before]
      constructor
      · intro known
        refine ⟨List.mem_append_left _ known,?_⟩
        rintro same
        cases same
        exact absent known
      · rintro ⟨known,other⟩
        rcases List.mem_append.mp known with old | new
        · exact old
        · simp only [List.mem_singleton] at new
          exact absurd (congrArg some new.symm) other
    · intro b how member
      refine fits_mono (ok.fits b how member) id id ?_
      intro stopped
      rw [idle] at stopped; cases stopped
  | start a checked =>
    obtain ⟨before,same,sublist⟩ := ok.checking a checked
    refine ⟨taken,ok.split,ok.distinct,?_,?_,?_,ok.once,?_,?_,nofun⟩
    · rw [same]
      exact sublist.append (List.Sublist.refl [a])
    · intro b checks; cases checks
    · intro b runs
      cases runs
      exact List.mem_append_right _ (List.mem_singleton_self _)
    · intro b
      have before := ok.answered b
      rw [checked] at before
      exact before
    · intro b how member
      have answered : b ∈ m.answered := List.mem_map.mpr ⟨(b,how),member,rfl⟩
      have other : b ≠ a := by
        rintro rfl
        exact ((ok.answered b).mp answered).2 (by rw [checked]; rfl)
      refine fits_mono (ok.fits b how member) (List.mem_append_left _) ?_ ?_
      · intro absent present
        rcases List.mem_append.mp present with old | new
        · exact absent old
        · simp only [List.mem_singleton] at new
          exact other new
      · intro stopped
        rw [checked] at stopped; cases stopped
  | reject a checked =>
    obtain ⟨before,same,sublist⟩ := ok.checking a checked
    have fresh : a ∉ before := by
      have nodup := same ▸ ok.taken_nodup
      intro member
      exact List.disjoint_of_nodup_append nodup member (List.mem_singleton_self a)
    have unanswered : a ∉ m.answered := fun member => ((ok.answered a).mp member).2 (by rw [checked]; rfl)
    refine ⟨taken,ok.split,ok.distinct,ok.ran,?_,?_,List.nodup_cons.mpr ⟨unanswered,ok.once⟩,?_,?_,nofun⟩
    · intro b checks; cases checks
    · intro b runs; cases runs
    · intro b
      have known := ok.answered b
      simp only [checked,Worker.held,ne_eq,Option.some.injEq] at known
      show b ∈ a :: m.answered ↔ b ∈ taken ∧ none ≠ some b
      rw [List.mem_cons,known]
      by_cases here : b = a
      · subst here
        simp [same]
      · simp [here,Ne.symm here]
    · intro b how member
      rcases List.mem_cons.mp member with new | old
      · cases new
        exact fun present => fresh (sublist.subset present)
      · refine fits_mono (ok.fits b how old) id id ?_
        intro stopped
        rw [checked] at stopped; cases stopped
  | finish a done =>
    have unanswered : a ∉ m.answered := fun member => ((ok.answered a).mp member).2 (by rw [done]; rfl)
    refine ⟨taken,ok.split,ok.distinct,ok.ran,?_,?_,List.nodup_cons.mpr ⟨unanswered,ok.once⟩,?_,?_,nofun⟩
    · intro b checks; cases checks
    · intro b runs; cases runs
    · intro b
      have known := ok.answered b
      simp only [done,Worker.held,ne_eq,Option.some.injEq] at known
      show b ∈ a :: m.answered ↔ b ∈ taken ∧ none ≠ some b
      rw [List.mem_cons,known]
      by_cases here : b = a
      · subst here
        simp [ok.ran.subset (ok.running b done)]
      · simp [here,Ne.symm here]
    · intro b how member
      rcases List.mem_cons.mp member with new | old
      · cases new
        exact ok.running a done
      · refine fits_mono (ok.fits b how old) id id ?_
        intro stopped
        rw [done] at stopped; cases stopped
  | stop idle =>
    have left : (m.queue.map fun a => (a,Answer.stopped)).map (·.1) = m.queue := by simp [Function.comp_def]
    have known (b : α) : b ∈ m.answered ↔ b ∈ taken := by
      rw [ok.answered b,idle]
      simp [Worker.held]
    refine ⟨m.enqueued,by simp,ok.distinct,?_,?_,?_,?_,?_,?_,fun _ => rfl⟩
    · rw [ok.split]
      exact ok.ran.trans (List.sublist_append_left _ _)
    · intro b checks; cases checks
    · intro b runs; cases runs
    · show (((m.queue.map fun a => (a,Answer.stopped)) ++ m.answers).map (·.1)).Nodup
      rw [List.map_append,left]
      refine List.nodup_append.mpr ⟨(ok.split ▸ ok.distinct).of_append_right,ok.once,?_⟩
      rintro b queued c answered rfl
      exact ok.apart queued ((known b).mp answered)
    · intro b
      show b ∈ ((m.queue.map fun a => (a,Answer.stopped)) ++ m.answers).map (·.1) ↔ b ∈ m.enqueued ∧ none ≠ some b
      rw [List.map_append,left,List.mem_append,ok.split,List.mem_append,show m.answers.map (·.1) = m.answered from rfl,
        known]
      simp [or_comm]
    · intro b how member
      rcases List.mem_append.mp member with new | old
      · obtain ⟨c,queued,same⟩ := List.mem_map.mp new
        cases same
        exact ⟨fun present => ok.apart queued (ok.ran.subset present),rfl⟩
      · exact fits_mono (ok.fits b how old) id id fun _ => rfl

/-- Items are run in the order in which they were enqueued. -/
theorem Ok.in_order (ok : Ok m taken) : m.ran.Sublist m.enqueued := by
  rw [ok.split]
  exact ok.ran.trans (List.sublist_append_left _ _)

/-- An item that was enqueued is pending, or answered once. -/
theorem Ok.answered_once [DecidableEq α] (ok : Ok m taken) {a : α} (enqueued : a ∈ m.enqueued) :
    (m.Pending a ∧ m.answered.count a = 0) ∨ (¬ m.Pending a ∧ m.answered.count a = 1) := by
  rw [ok.split,List.mem_append] at enqueued
  by_cases answered : a ∈ m.answered
  · refine Or.inr ⟨?_,List.count_eq_one_of_mem ok.once answered⟩
    obtain ⟨before,free⟩ := (ok.answered a).mp answered
    rintro (queued | holds)
    · exact ok.apart queued before
    · exact free holds
  · refine Or.inl ⟨?_,List.count_eq_zero_of_not_mem answered⟩
    rcases enqueued with before | queued
    · refine Or.inr ?_
      by_contra free
      exact answered ((ok.answered a).mpr ⟨before,free⟩)
    · exact Or.inl queued

/-- An item that has not been started was not run. -/
theorem Ok.unrun (ok : Ok m taken) {a : α} (waits : a ∈ m.queue ∨ m.worker = .checking a) : a ∉ m.ran := by
  rcases waits with queued | checks
  · exact fun ran => ok.apart queued (ok.ran.subset ran)
  · obtain ⟨before,same,sublist⟩ := ok.checking a checks
    intro ran
    exact List.disjoint_of_nodup_append (same ▸ ok.taken_nodup) (sublist.subset ran) (List.mem_singleton_self a)

/-- The worker does not hold what is in the queue. -/
theorem Ok.free (ok : Ok m taken) {a : α} (queued : a ∈ m.queue) : m.worker.held ≠ some a :=
  fun holds => ok.apart queued (ok.held holds)

/-- What was enqueued stays so, -/
theorem Step.enqueued (step : Step m m') {a : α} (enqueued : a ∈ m.enqueued) : a ∈ m'.enqueued := by
  cases step with
  | enqueue _ _ _ => exact List.mem_append_left _ enqueued
  | _ => exact enqueued

/-- an answer is given once and for all, -/
theorem Step.answered (step : Step m m') {a : α} (answered : a ∈ m.answered) : a ∈ m'.answered := by
  cases step with
  | enqueue _ _ _ => exact answered
  | receive _ _ _ _ => exact answered
  | start _ _ => exact answered
  | reject _ _ => exact List.mem_cons_of_mem _ answered
  | finish _ _ => exact List.mem_cons_of_mem _ answered
  | stop _ =>
    obtain ⟨pair,member,same⟩ := List.mem_map.mp answered
    exact List.mem_map.mpr ⟨pair,List.mem_append_right _ member,same⟩

/-- and what was answered is not run afterwards. -/
theorem Ok.settled (ok : Ok m taken) (step : Step m m') {a : α} (answered : a ∈ m.answered) (unrun : a ∉ m.ran) :
    a ∉ m'.ran := by
  cases step with
  | start b checked =>
    intro ran
    rcases List.mem_append.mp ran with old | new
    · exact unrun old
    · obtain rfl := List.mem_singleton.mp new
      exact ((ok.answered a).mp answered).2 (by rw [checked]; rfl)
  | _ => exact unrun

end
end FFWebHid.Mailboxes
