import Mathlib.Tactic.Common

/-! A thread that reads from a source ahead of its consumer: it keeps one result while the channel of capacity one is
full, and stops once it has sent a fatal result. To the consumer it is the source itself. -/

namespace FFWebHid.ReadAhead
universe u v

/-- The source as far as it is read, the result the thread waits to send, the channel, whether the thread has stopped. -/
structure Buffer (ι : Type u) (ρ : Type v) where
  input : ι
  held : Option ρ := none
  queue : Option ρ := none
  ended : Bool := false

variable {ι : Type u} {ρ : Type v} (read : ι → ρ × ι) (fatal : ρ → Bool)

def fetch (b : Buffer ι ρ) : Option (Buffer ι ρ) :=
  if b.ended || b.held.isSome then none
  else some { b with held := some (read b.input).1, input := (read b.input).2 }

def push (b : Buffer ι ρ) : Option (Buffer ι ρ) :=
  match b.held,b.queue with
  | some r, none => some { b with held := none, queue := some r, ended := fatal r }
  | _, _ => none

def take (b : Buffer ι ρ) : Option (ρ × Buffer ι ρ) := b.queue.map (fun r => (r,{ b with queue := none }))

/-- `here` is what `before` becomes once the result, if there is one, is read from it. -/
def After (before : ι) (result : Option ρ) (here : ι) : Prop :=
  match result with
  | none => here = before
  | some r => read before = (r,here)

/-- What the consumer would read from if there were no thread: the channel's result comes first, then the one that
    waits, then what is not read yet. Once the thread has stopped only the channel counts. -/
def View (b : Buffer ι ρ) (source : ι) : Prop :=
  (b.ended = true → b.held = none ∧ ∀ r, b.queue = some r → fatal r = true) ∧
  ∃ middle, After read source b.queue middle ∧ (b.ended = false → After read middle b.held b.input)

theorem view_start (source : ι) : View read fatal { input := source } source :=
  ⟨fun ended => (by cases ended),source,rfl,fun _ => rfl⟩

variable {read fatal}

theorem view_fetch {b b' : Buffer ι ρ} {source : ι} (view : View read fatal b source) (fetched : fetch read b = some b') :
    View read fatal b' source := by
  obtain ⟨_,middle,first,second⟩ := view
  unfold fetch at fetched
  by_cases idle : (b.ended || b.held.isSome) = true
  · rw [if_pos idle] at fetched
    cases fetched
  · rw [if_neg idle] at fetched
    cases fetched
    simp only [Bool.or_eq_true,not_or,Bool.not_eq_true,Option.isSome_eq_false_iff,Option.isNone_iff_eq_none] at idle
    have unread := second idle.1
    rw [idle.2] at unread
    refine ⟨fun ended => ?_,middle,first,fun _ => ?_⟩
    · rw [idle.1] at ended
      cases ended
    · have same : b.input = middle := unread
      simp [After,same]

theorem view_push {b b' : Buffer ι ρ} {source : ι} (view : View read fatal b source) (pushed : push fatal b = some b') :
    View read fatal b' source := by
  obtain ⟨stopped,middle,first,second⟩ := view
  unfold push at pushed
  cases waits : b.held with
  | none => simp [waits] at pushed
  | some r =>
    cases full : b.queue with
    | some other => simp [waits,full] at pushed
    | none =>
      simp only [waits,full,Option.some.injEq] at pushed
      subst pushed
      have running : b.ended = false := by
        by_contra ended
        rw [(stopped (by simpa using ended)).1] at waits
        cases waits
      have unread := second running
      rw [waits] at unread
      rw [full] at first
      have same : middle = source := first
      subst same
      refine ⟨fun ended => ⟨rfl,?_⟩,b.input,unread,fun _ => rfl⟩
      intro r' found
      cases found
      exact ended

/-- What is received is what the source would have given, and the rest is the source after it. -/
theorem view_take {b b' : Buffer ι ρ} {source : ι} {r : ρ} (view : View read fatal b source)
    (taken : take b = some (r,b')) :
    read source = (r,(read source).2) ∧ (fatal r = false → View read fatal b' (read source).2) := by
  obtain ⟨stopped,middle,first,second⟩ := view
  unfold take at taken
  obtain ⟨_,full,same⟩ := Option.map_eq_some_iff.mp taken
  cases same
  rw [full] at first
  have unread : read source = (r,middle) := first
  have rest : (read source).2 = middle := by rw [unread]
  refine ⟨by rw [rest]; exact unread,fun harmless => ⟨fun ended => ?_,middle,?_,second⟩⟩
  · have fatalResult := (stopped ended).2 r full
    rw [harmless] at fatalResult
    cases fatalResult
  · rw [rest]
    rfl

/-- A thread that has not stopped gets its next result into the channel. -/
theorem ready (read : ι → ρ × ι) (fatal : ρ → Bool) {b : Buffer ι ρ} (running : b.ended = false ∨ b.queue.isSome) :
    (∃ r, b.queue = some r) ∨ (∃ b', push fatal b = some b' ∧ b'.queue.isSome) ∨
    ∃ b' b'', fetch read b = some b' ∧ push fatal b' = some b'' ∧ b''.queue.isSome := by
  cases full : b.queue with
  | some r => exact .inl ⟨r,rfl⟩
  | none =>
    right
    have active : b.ended = false := by
      rcases running with active | some
      · exact active
      · simp [full] at some
    cases waits : b.held with
    | some r =>
      left
      exact ⟨{ b with held := none, queue := some r, ended := fatal r },by simp [push,waits,full],rfl⟩
    | none =>
      right
      refine ⟨{ b with held := some (read b.input).1, input := (read b.input).2 },
        { b with held := none, queue := some (read b.input).1, input := (read b.input).2,
                 ended := fatal (read b.input).1 },?_,?_,rfl⟩
      · simp [fetch,active,waits]
      · simp [push,full]

end FFWebHid.ReadAhead
