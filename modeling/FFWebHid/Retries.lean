import Mathlib

/-! Trying again until something succeeds. After a failure comes a wait that doubles each time up to a cap, and no
attempt is made again once the waits have reached a limit. -/

namespace FFWebHid.Retries
universe u v
variable {σ : Type u} {ε : Type v}

/-- The waits between the attempts when all of them fail. -/
def schedule (limit cap : Nat) (capped : 0 < cap) (delay total : Nat) (positive : 0 < delay) : List Nat :=
  if limit ≤ total then []
  else delay :: schedule limit cap capped (min (delay * 2) cap) (total + delay) (by omega)
termination_by limit - total

structure Outcome (σ : Type u) (ε : Type v) where
  result : Except ε σ
  waits : List Nat

/-- `attempt n` is what the attempt of number `n` comes to. -/
def retry (limit cap : Nat) (capped : 0 < cap) (attempt : Nat → Except ε σ) (n delay total : Nat) (positive : 0 < delay) :
    Outcome σ ε :=
  match attempt n with
  | .ok s => ⟨.ok s,[]⟩
  | .error e =>
    if limit ≤ total then ⟨.error e,[]⟩
    else
      let rest := retry limit cap capped attempt (n + 1) (min (delay * 2) cap) (total + delay) (by omega)
      ⟨rest.result,delay :: rest.waits⟩
termination_by limit - total

variable {limit cap : Nat} {capped : 0 < cap} {attempt : Nat → Except ε σ}

theorem schedule_done {delay total : Nat} {positive : 0 < delay} (reached : limit ≤ total) :
    schedule limit cap capped delay total positive = [] := by
  rw [schedule,if_pos reached]

theorem schedule_waits {delay total : Nat} {positive : 0 < delay} (below : ¬ limit ≤ total) :
    schedule limit cap capped delay total positive =
      delay :: schedule limit cap capped (min (delay * 2) cap) (total + delay) (by omega) := by
  rw [schedule,if_neg below]

/-- When all attempts fail, the waits reach the limit. -/
theorem limit_le_schedule (delay total : Nat) (positive : 0 < delay) :
    limit ≤ total + (schedule limit cap capped delay total positive).sum := by
  by_cases reached : limit ≤ total
  · omega
  · have rest := limit_le_schedule (min (delay * 2) cap) (total + delay) (by omega)
    rw [schedule_waits reached,List.sum_cons]
    omega
termination_by limit - total

/-- The attempts before the last one fail, the waits are those of the schedule, and the last attempt is the one that
    succeeds or the one after all waits. -/
theorem retry_spec (n delay total : Nat) (positive : 0 < delay) :
    ∃ k, k ≤ (schedule limit cap capped delay total positive).length ∧
      (retry limit cap capped attempt n delay total positive).waits =
          (schedule limit cap capped delay total positive).take k ∧
      (retry limit cap capped attempt n delay total positive).result = attempt (n + k) ∧
      (∀ j < k, ∃ e, attempt (n + j) = .error e) ∧
      (k = (schedule limit cap capped delay total positive).length ∨ ∃ s, attempt (n + k) = .ok s) := by
  cases came : attempt n with
  | ok s =>
    rw [retry,came]
    refine ⟨0,Nat.zero_le _,rfl,came.symm,?_,.inr ⟨s,came⟩⟩
    intro j before
    omega
  | error e =>
    by_cases reached : limit ≤ total
    · rw [retry,came,schedule_done reached]
      simp only [if_pos reached]
      refine ⟨0,Nat.le_refl _,rfl,came.symm,?_,.inl rfl⟩
      intro j before
      omega
    · obtain ⟨k,within,waits,result,failed,last⟩ :=
        retry_spec (n + 1) (min (delay * 2) cap) (total + delay) (by omega)
      have next (j : Nat) : n + 1 + j = n + (j + 1) := by omega
      rw [next] at result last
      rw [retry,came,schedule_waits reached]
      simp only [if_neg reached]
      refine ⟨k + 1,by simpa using within,?_,result,?_,?_⟩
      · rw [List.take_succ_cons,waits]
      · intro j before
        cases j with
        | zero => exact ⟨e,came⟩
        | succ j =>
          rw [← next]
          exact failed j (by omega)
      · rcases last with all | ok
        · exact .inl (by rw [List.length_cons,all])
        · exact .inr ok
termination_by limit - total

end FFWebHid.Retries
