import Mathlib.Data.List.Induction

/-!
Runs of a labelled transition system whose step function is partial: an action
that is not enabled has no successor. The rules lift what one step preserves to
what a whole run preserves, and what one step guarantees under a condition to
every step of a run that keeps the condition.
-/
namespace FFWebHid.Runs
universe u v
variable {σ : Type u} {α : Type v} (step : σ → α → Option σ)

/-- The state after a list of actions, if each was enabled in its turn. -/
def exec : σ → List α → Option σ
  | s, [] => some s
  | s, a :: rest => (step s a).bind fun next => exec next rest

/-- Every step that a list of actions takes satisfies `P`. -/
def AllSteps (P : σ → α → σ → Prop) : σ → List α → Prop
  | _, [] => True
  | s, a :: rest => ∀ next, step s a = some next → P s a next ∧ AllSteps P next rest

/-- Whether a condition on the state and the action holds at every step that a list
    of actions takes. -/
def checkAll (check : σ → α → Bool) : σ → List α → Bool
  | _, [] => true
  | s, a :: rest => check s a && (step s a).all fun next => checkAll check next rest

variable {step}

theorem allSteps_of_checkAll {check : σ → α → Bool} {s : σ} {trace : List α}
    (checked : checkAll step check s trace = true) : AllSteps step (fun s a _ => check s a = true) s trace := by
  induction trace generalizing s with
  | nil => trivial
  | cons a rest ih =>
    intro next taken
    rw [checkAll,taken,Bool.and_eq_true] at checked
    exact ⟨checked.1,ih checked.2⟩

theorem exec_cons {s s' : σ} {a : α} {rest : List α} :
    exec step s (a :: rest) = some s' ↔ ∃ next, step s a = some next ∧ exec step next rest = some s' := by
  simp [exec,Option.bind_eq_some_iff]

theorem exec_append {s s' : σ} {first second : List α} :
    exec step s (first ++ second) = some s' ↔
      ∃ middle, exec step s first = some middle ∧ exec step middle second = some s' := by
  induction first generalizing s with
  | nil => simp [exec]
  | cons a rest ih =>
    simp only [List.cons_append,exec_cons,ih]
    constructor
    · rintro ⟨next,taken,middle,before,after⟩
      exact ⟨middle,⟨next,taken,before⟩,after⟩
    · rintro ⟨middle,⟨next,taken,before⟩,after⟩
      exact ⟨next,taken,middle,before,after⟩

/-- The steps of a run are gone through one by one. -/
theorem allSteps_cons {P : σ → α → σ → Prop} {s next : σ} {a : α} {rest : List α} (taken : step s a = some next)
    (here : P s a next) (later : AllSteps step P next rest) : AllSteps step P s (a :: rest) := by
  intro other same
  rw [taken] at same
  cases same
  exact ⟨here,later⟩

/-- The induction rule for invariants. -/
theorem exec_invariant {I : σ → Prop} (preserved : ∀ s a s', I s → step s a = some s' → I s')
    {s s' : σ} {trace : List α} (holds : I s) (run : exec step s trace = some s') : I s' := by
  induction trace generalizing s with
  | nil => simp only [exec,Option.some.injEq] at run; exact run ▸ holds
  | cons a rest ih =>
    obtain ⟨next,taken,remaining⟩ := exec_cons.mp run
    exact ih (preserved s a next holds taken) remaining

/-- The induction rule when the step lemma needs the condition that the run keeps. -/
theorem exec_invariant_under {I : σ → Prop} {Keeps : σ → α → σ → Prop}
    (preserved : ∀ s a s', I s → step s a = some s' → Keeps s a s' → I s')
    {s s' : σ} {trace : List α} (holds : I s) (run : exec step s trace = some s')
    (keeps : AllSteps step Keeps s trace) : I s' := by
  induction trace generalizing s with
  | nil => simp only [exec,Option.some.injEq] at run; exact run ▸ holds
  | cons a rest ih =>
    obtain ⟨next,taken,remaining⟩ := exec_cons.mp run
    obtain ⟨here,later⟩ := keeps next taken
    exact ih (preserved s a next holds taken here) remaining later

/-- What an invariant guarantees of every step holds of every step of a run. -/
theorem allSteps_of_invariant {I : σ → Prop} {Q : σ → α → σ → Prop}
    (preserved : ∀ s a s', I s → step s a = some s' → I s')
    (implies : ∀ s a s', I s → step s a = some s' → Q s a s')
    {s : σ} {trace : List α} (holds : I s) : AllSteps step Q s trace := by
  induction trace generalizing s with
  | nil => trivial
  | cons a rest ih =>
    intro next taken
    exact ⟨implies s a next holds taken,ih (preserved s a next holds taken)⟩

/-- Where one step relates two conditions in every state that satisfies an
    invariant, every run relates them. -/
theorem allSteps_mono {I : σ → Prop} {P Q : σ → α → σ → Prop}
    (preserved : ∀ s a s', I s → step s a = some s' → I s')
    (implies : ∀ s a s', I s → step s a = some s' → P s a s' → Q s a s')
    {s : σ} {trace : List α} (holds : I s) (all : AllSteps step P s trace) : AllSteps step Q s trace := by
  induction trace generalizing s with
  | nil => trivial
  | cons a rest ih =>
    intro next taken
    obtain ⟨here,later⟩ := all next taken
    exact ⟨implies s a next holds taken here,ih (preserved s a next holds taken) later⟩

/-- The same when the invariant itself needs the condition that the run keeps. -/
theorem allSteps_under {I : σ → Prop} {P Q : σ → α → σ → Prop}
    (preserved : ∀ s a s', I s → step s a = some s' → P s a s' → I s')
    (implies : ∀ s a s', I s → step s a = some s' → P s a s' → Q s a s')
    {s : σ} {trace : List α} (holds : I s) (all : AllSteps step P s trace) : AllSteps step Q s trace := by
  induction trace generalizing s with
  | nil => trivial
  | cons a rest ih =>
    intro next taken
    obtain ⟨here,later⟩ := all next taken
    exact ⟨implies s a next holds taken here,ih (preserved s a next holds taken here) later⟩

/-- Where an invariant makes two conditions on a step the same, they are the same
    on every run. -/
theorem allSteps_congr {I : σ → Prop} {P Q : σ → α → σ → Prop}
    (preserved : ∀ s a s', I s → step s a = some s' → I s')
    (same : ∀ s a s', I s → step s a = some s' → (P s a s' ↔ Q s a s'))
    {s : σ} {trace : List α} (holds : I s) : AllSteps step P s trace ↔ AllSteps step Q s trace :=
  ⟨allSteps_mono preserved (fun s a s' inv taken => (same s a s' inv taken).mp) holds,
    allSteps_mono preserved (fun s a s' inv taken => (same s a s' inv taken).mpr) holds⟩

/-- What all steps of a run satisfy, the step after a prefix does. -/
theorem AllSteps.at {P : σ → α → σ → Prop} {s middle next : σ} {first rest : List α} {a : α}
    (all : AllSteps step P s (first ++ a :: rest)) (run : exec step s first = some middle)
    (taken : step middle a = some next) : P middle a next := by
  induction first generalizing s with
  | nil =>
    simp only [exec,Option.some.injEq] at run
    subst run
    exact (all next taken).1
  | cons b before ih =>
    obtain ⟨s',stepped,remaining⟩ := exec_cons.mp run
    exact ih (all s' stepped).2 remaining

theorem allSteps_of_mem {P : σ → α → σ → Prop} {s : σ} {trace : List α} (holds : ∀ a ∈ trace, ∀ s s', P s a s') :
    AllSteps step P s trace := by
  induction trace generalizing s with
  | nil => trivial
  | cons a rest ih =>
    exact fun next _ => ⟨holds a List.mem_cons_self s next,ih fun a member => holds a (List.mem_cons_of_mem _ member)⟩

theorem AllSteps.and {P Q : σ → α → σ → Prop} {s : σ} {trace : List α} (first : AllSteps step P s trace)
    (second : AllSteps step Q s trace) : AllSteps step (fun s a s' => P s a s' ∧ Q s a s') s trace := by
  induction trace generalizing s with
  | nil => trivial
  | cons a rest ih =>
    exact fun next taken => ⟨⟨(first next taken).1,(second next taken).1⟩,ih (first next taken).2 (second next taken).2⟩

theorem AllSteps.start {P : σ → α → σ → Prop} {s : σ} {first rest : List α}
    (all : AllSteps step P s (first ++ rest)) : AllSteps step P s first := by
  induction first generalizing s with
  | nil => trivial
  | cons a before ih => exact fun next taken => ⟨(all next taken).1,ih (all next taken).2⟩

theorem AllSteps.rest {P : σ → α → σ → Prop} {s middle : σ} {first rest : List α}
    (all : AllSteps step P s (first ++ rest)) (run : exec step s first = some middle) :
    AllSteps step P middle rest := by
  induction first generalizing s with
  | nil =>
    simp only [exec,Option.some.injEq] at run
    exact run ▸ all
  | cons a before ih =>
    obtain ⟨next,taken,remaining⟩ := exec_cons.mp run
    exact ih (all next taken).2 remaining

/-- The induction rule for what holds of a state together with the actions that led
    to it. -/
theorem exec_history {I : List α → σ → Prop} {Keeps : σ → α → σ → Prop} {s : σ} (start : I [] s)
    (preserved : ∀ before w a w', exec step s before = some w → step w a = some w' → Keeps w a w' → I before w →
      I (before ++ [a]) w')
    {trace : List α} {w : σ} (run : exec step s trace = some w) (keeps : AllSteps step Keeps s trace) : I trace w := by
  induction trace using List.reverseRecOn generalizing w with
  | nil => simp only [exec,Option.some.injEq] at run; exact run ▸ start
  | append_singleton before a ih =>
    obtain ⟨middle,first,last⟩ := exec_append.mp run
    obtain ⟨next,taken,done⟩ := exec_cons.mp last
    simp only [exec,Option.some.injEq] at done
    subst done
    exact preserved before middle a next first taken (keeps.at first taken) (ih first keeps.start)

/-- Where every step of one system is matched by some steps of another, every run is. -/
theorem exec_simulation {τ : Type*} {β : Type*} {other : τ → β → Option τ} {R : σ → τ → Prop}
    (matched : ∀ s t a s', R s t → step s a = some s' → ∃ trace t', exec other t trace = some t' ∧ R s' t')
    {s s' : σ} {t : τ} {trace : List α} (related : R s t) (run : exec step s trace = some s') :
    ∃ trace' t', exec other t trace' = some t' ∧ R s' t' := by
  induction trace generalizing s t with
  | nil =>
    simp only [exec,Option.some.injEq] at run
    exact ⟨[],t,rfl,run ▸ related⟩
  | cons a rest ih =>
    obtain ⟨next,taken,remaining⟩ := exec_cons.mp run
    obtain ⟨first,middle,before,relatedNext⟩ := matched s t a next related taken
    obtain ⟨second,last,after,relatedLast⟩ := ih relatedNext remaining
    exact ⟨first ++ second,last,exec_append.mpr ⟨middle,before,after⟩,relatedLast⟩

end FFWebHid.Runs
