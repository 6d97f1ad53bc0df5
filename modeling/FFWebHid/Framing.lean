import FFWebHid.LittleEndian

/-!
Byte strings sent one after another, each behind its length, seen from the
receiving end: which of them have arrived whole, and which of those a listener
hears that may hang up after each.
-/
namespace FFWebHid.Framing
open FFWebHid.LittleEndian

/-- The byte strings that the first `arrived` bytes of their stream complete. -/
def completed (width : Nat) : List (List UInt8) → Nat → List (List UInt8)
  | [], _ => []
  | body :: rest, arrived =>
    if width + body.length ≤ arrived then body :: completed width rest (arrived - (width + body.length)) else []

theorem length_stream_cons (width : Nat) (body : List UInt8) (rest : List (List UInt8)) :
    (stream width (body :: rest)).length = width + body.length + (stream width rest).length := by
  rw [stream_cons]
  simp
  omega

/-- What more bytes complete is in addition to what was complete before. -/
theorem completed_add (width : Nat) (bodies : List (List UInt8)) (arrived more : Nat) :
    completed width bodies (arrived + more) = completed width bodies arrived ++
      completed width (bodies.drop (completed width bodies arrived).length)
        (arrived + more - (stream width (completed width bodies arrived)).length) := by
  induction bodies generalizing arrived with
  | nil => rfl
  | cons body rest ih =>
    by_cases there : width + body.length ≤ arrived
    · have still : width + body.length ≤ arrived + more := by omega
      have shift : arrived + more - (width + body.length) = arrived - (width + body.length) + more := by omega
      have later : ∀ n, arrived + more - (width + body.length + n) = arrived - (width + body.length) + more - n := by omega
      have first : completed width (body :: rest) arrived = body :: completed width rest (arrived - (width + body.length)) := if_pos there
      rw [first,completed,if_pos still,shift,ih]
      simp only [List.cons_append,List.length_cons,List.drop_succ_cons,length_stream_cons,later]
    · have first : completed width (body :: rest) arrived = [] := if_neg there
      rw [first]
      simp [stream]

/-! ### Reading the next one -/

section Next
variable {width : Nat} {body : List UInt8} {rest : List (List UInt8)} {input : List UInt8}

/-- The length of the next string can be read as soon as its bytes are there. -/
theorem length_of_next (fits : body.length < 256 ^ width) (begun : input <+: stream width (body :: rest))
    (there : width ≤ input.length) : ofLe (input.take width) = body.length := by
  obtain ⟨tail,whole⟩ := begun
  have head : input.take width = toLe width body.length := by
    rw [← List.take_append_of_le_length there,whole,stream_cons,List.take_left' (length_toLe _ _)]
  rw [head,ofLe_toLe_of_lt fits]

/-- The next string itself, and what is behind it. -/
theorem body_of_next (begun : input <+: stream width (body :: rest)) (there : width + body.length ≤ input.length) :
    (input.drop width).take body.length = body ∧ input.drop (width + body.length) <+: stream width rest := by
  obtain ⟨tail,whole⟩ := begun
  have split : input.drop width ++ tail = body ++ stream width rest := by
    rw [← List.drop_append_of_le_length (by omega),whole,stream_cons,List.drop_left' (length_toLe _ _)]
  have long : body.length ≤ (input.drop width).length := by simp; omega
  constructor
  · rw [← List.take_append_of_le_length long,split,List.take_left]
  · refine ⟨tail,?_⟩
    rw [← List.drop_drop,← List.drop_append_of_le_length long,split,List.drop_left]

end Next

theorem length_completed_le (width : Nat) (bodies : List (List UInt8)) (arrived : Nat) :
    (stream width (completed width bodies arrived)).length ≤ arrived := by
  induction bodies generalizing arrived with
  | nil => exact Nat.zero_le _
  | cons body rest ih =>
    rw [completed]
    split_ifs with there
    · have inner := ih (arrived - (width + body.length))
      rw [length_stream_cons]
      omega
    · exact Nat.zero_le _

theorem stream_completed (width : Nat) (bodies : List (List UInt8)) (arrived : Nat) :
    stream width bodies = stream width (completed width bodies arrived) ++
      stream width (bodies.drop (completed width bodies arrived).length) := by
  induction bodies generalizing arrived with
  | nil => rfl
  | cons body rest ih =>
    rw [completed]
    split_ifs
    · rw [stream_cons,stream_cons,List.length_cons,List.drop_succ_cons,List.append_assoc,List.append_assoc,← ih]
    · rfl

/-- Behind the complete ones the stream of the others begins. -/
theorem behind_completed {width : Nat} {bodies : List (List UInt8)} {input : List UInt8} (begun : input <+: stream width bodies)
    {arrived : Nat} (inside : arrived ≤ input.length) :
    input.drop (stream width (completed width bodies arrived)).length <+:
      stream width (bodies.drop (completed width bodies arrived).length) := by
  obtain ⟨tail,whole⟩ := begun
  have bound := length_completed_le width bodies arrived
  refine ⟨tail,?_⟩
  rw [← List.drop_append_of_le_length (by omega),whole]
  conv_lhs => rw [stream_completed width bodies arrived]
  exact List.drop_left

/-- None of the others is complete. -/
theorem nothing_behind (width : Nat) (bodies : List (List UInt8)) (arrived : Nat) :
    completed width (bodies.drop (completed width bodies arrived).length)
      (arrived - (stream width (completed width bodies arrived)).length) = [] := by
  have twice := completed_add width bodies arrived 0
  exact List.append_right_eq_self.mp twice.symm

variable {σ β : Type}

/-- Tell a listener one thing after another. It hears everything up to the first
    thing it hangs up after; the state is that of a listener still there. -/
def consume (hear : σ → β → Option σ) : σ → List β → List β × Option σ
  | state, [] => ([],some state)
  | state, item :: rest =>
    match hear state item with
    | none => ([item],none)
    | some next => let (heard,left) := consume hear next rest; (item :: heard,left)

variable {hear : σ → β → Option σ}

theorem consume_cons_none {state : σ} {item : β} (hung : hear state item = none) (rest : List β) :
    consume hear state (item :: rest) = ([item],none) := by
  rw [consume,hung]

theorem consume_cons_some {state next : σ} {item : β} (heard : hear state item = some next) (rest : List β) :
    consume hear state (item :: rest) = (item :: (consume hear next rest).1,(consume hear next rest).2) := by
  rw [consume,heard]

theorem consume_append_left {state : σ} {items heard : List β} (hung : consume hear state items = (heard,none))
    (more : List β) : consume hear state (items ++ more) = (heard,none) := by
  induction items generalizing state heard with
  | nil => cases hung
  | cons item rest ih =>
    rw [List.cons_append]
    cases step : hear state item with
    | none =>
      rw [consume_cons_none step] at hung ⊢
      exact hung
    | some next =>
      rw [consume_cons_some step] at hung ⊢
      obtain ⟨rfl,gone⟩ := Prod.mk.inj hung
      have tail := ih (Prod.ext rfl gone)
      rw [tail]

theorem consume_append_right {state next : σ} {items heard : List β} (there : consume hear state items = (heard,some next))
    (more : List β) : consume hear state (items ++ more) = (heard ++ (consume hear next more).1,(consume hear next more).2) := by
  induction items generalizing state heard with
  | nil =>
    obtain ⟨rfl,same⟩ := Prod.mk.inj there
    cases same
    rfl
  | cons item rest ih =>
    rw [List.cons_append]
    cases step : hear state item with
    | none => rw [consume_cons_none step] at there; cases there
    | some after =>
      rw [consume_cons_some step] at there ⊢
      obtain ⟨rfl,same⟩ := Prod.mk.inj there
      have tail := ih (Prod.ext rfl same)
      rw [tail,List.cons_append]

end FFWebHid.Framing
