import Mathlib.Data.List.Perm.Basic
import FFWebHid.Runs

/-!
Work that shares a state and hands over only where it awaits. A call runs up to its first
await and leaves tasks; a task goes on with an answer up to its next one, in any order. A
stretch is judged by what it does to the state and its own tasks, beside whatever others
there are.
-/
namespace FFWebHid.Cooperative
open FFWebHid.Runs

structure World (σ τ : Type) where
  state : σ
  tasks : List τ := []

/-- A call arrives, or the task at a place gets an answer. -/
inductive Event (α β : Type) where
  | call (c : α)
  | resume (k : Nat) (answer : β)

section
variable {σ τ α β : Type} (start : σ → α → Option (σ × List τ)) (go : σ → τ → β → Option (σ × List τ))

def step (w : World σ τ) : Event α β → Option (World σ τ)
  | .call c => (start w.state c).map fun done => ⟨done.1,done.2 ++ w.tasks⟩
  | .resume k answer => (w.tasks[k]?).bind fun task =>
    (go w.state task answer).map fun done => ⟨done.1,done.2 ++ w.tasks.eraseIdx k⟩

/-- A condition on stretches, as one on steps. -/
def Meets (Call : σ → List τ → α → Prop) (Answer : σ → τ → List τ → β → Prop) (w : World σ τ) : Event α β → Prop
  | .call c => Call w.state w.tasks c
  | .resume k answer => ∀ task, w.tasks[k]? = some task → Answer w.state task (w.tasks.eraseIdx k) answer

theorem meets_resume {Call : σ → List τ → α → Prop} {Answer : σ → τ → List τ → β → Prop} {w : World σ τ} {k : Nat}
    {task : τ} {answer : β} (found : w.tasks[k]? = some task)
    (met : Answer w.state task (w.tasks.eraseIdx k) answer) : Meets Call Answer w (.resume k answer) := by
  intro other same
  rw [found] at same
  cases same
  exact met

/-- An invariant of the state and the tasks in any order that every stretch keeps, under
    a condition. -/
structure Stretches (Inv : σ → List τ → Prop) (Call : σ → List τ → α → Prop) (Answer : σ → τ → List τ → β → Prop) :
    Prop where
  perm : ∀ {s tasks tasks'}, tasks.Perm tasks' → Inv s tasks → Inv s tasks'
  call : ∀ {s rest c s' tasks}, Inv s rest → Call s rest c → start s c = some (s',tasks) → Inv s' (tasks ++ rest)
  answer : ∀ {s task rest a s' tasks}, Inv s (task :: rest) → Answer s task rest a →
    go s task a = some (s',tasks) → Inv s' (tasks ++ rest)

variable {start go} {Inv : σ → List τ → Prop} {Call : σ → List τ → α → Prop} {Answer : σ → τ → List τ → β → Prop}

theorem Stretches.step (keep : Stretches start go Inv Call Answer) {w w' : World σ τ} {event : Event α β}
    (inv : Inv w.state w.tasks) (meets : Meets Call Answer w event) (taken : step start go w event = some w') :
    Inv w'.state w'.tasks := by
  cases event with
  | call c =>
    obtain ⟨⟨s',tasks⟩,started,rfl⟩ := Option.map_eq_some_iff.mp taken
    exact keep.call inv meets started
  | resume k a =>
    obtain ⟨task,found,rest⟩ := Option.bind_eq_some_iff.mp taken
    obtain ⟨⟨s',tasks⟩,went,rfl⟩ := Option.map_eq_some_iff.mp rest
    obtain ⟨inside,same⟩ := List.getElem?_eq_some_iff.mp found
    have moved : w.tasks.Perm (task :: w.tasks.eraseIdx k) := by
      rw [← same]
      exact (List.getElem_cons_eraseIdx_perm inside).symm
    exact keep.answer (keep.perm moved inv) (meets task found) went

/-- What every stretch keeps holds in every state of a run whose steps meet the condition. -/
theorem Stretches.run (keep : Stretches start go Inv Call Answer) {w : World σ τ} {trace : List (Event α β)}
    (inv : Inv w.state w.tasks)
    (meets : AllSteps (Cooperative.step start go) (fun w event _ => Meets Call Answer w event) w trace) :
    AllSteps (Cooperative.step start go) (fun _ _ w' => Inv w'.state w'.tasks) w trace := by
  refine allSteps_under (I := fun w => Inv w.state w.tasks) ?_ ?_ inv meets
  · exact fun w event w' inv taken met => keep.step inv met taken
  · exact fun w event w' inv taken met => keep.step inv met taken

end
end FFWebHid.Cooperative
