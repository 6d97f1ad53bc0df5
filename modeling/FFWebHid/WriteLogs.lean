import Mathlib.Data.List.Basic
import Mathlib.Tactic.Common

/-! Logs of assignments to the locations of a store. What a log leaves at a location is its last assignment there, so a
log that was cut short is made good by running all of it again. -/

namespace FFWebHid.WriteLogs
universe u v
variable {κ : Type u} {ν : Type v} [DecidableEq κ]

/-- A store has at each location a value or nothing. -/
abbrev Store (κ : Type u) (ν : Type v) := κ → Option ν

/-- A location and what is put there; nothing deletes it. -/
abbrev Write (κ : Type u) (ν : Type v) := κ × Option ν

def write (s : Store κ ν) (w : Write κ ν) : Store κ ν := fun k => if k = w.1 then w.2 else s k

def apply (log : List (Write κ ν)) (s : Store κ ν) : Store κ ν := log.foldl write s

@[simp] theorem apply_nil (s : Store κ ν) : apply [] s = s := rfl

theorem apply_append (first second : List (Write κ ν)) (s : Store κ ν) :
    apply (first ++ second) s = apply second (apply first s) := List.foldl_append

theorem apply_cons (w : Write κ ν) (log : List (Write κ ν)) (s : Store κ ν) :
    apply (w :: log) s = apply log (write s w) := rfl

/-- A log says nothing about the locations it does not name. -/
theorem apply_other {log : List (Write κ ν)} {k : κ} (unnamed : k ∉ log.map Prod.fst) (s : Store κ ν) :
    apply log s k = s k := by
  induction log generalizing s with
  | nil => rfl
  | cons w log ih =>
    simp only [List.map_cons,List.mem_cons,not_or] at unnamed
    rw [apply_cons,ih unnamed.2,write,if_neg unnamed.1]

/-- What a log leaves at the locations it names does not depend on what was there. -/
theorem apply_named {log : List (Write κ ν)} {k : κ} (named : k ∈ log.map Prod.fst) (s t : Store κ ν) :
    apply log s k = apply log t k := by
  induction log generalizing s t with
  | nil => simp at named
  | cons w log ih =>
    rw [apply_cons,apply_cons]
    by_cases later : k ∈ log.map Prod.fst
    · exact ih later _ _
    · have here : k = w.1 := by simpa [later] using named
      rw [apply_other later,apply_other later,write,write,if_pos here,if_pos here]

/-- Running a log again over what a part of it did. -/
theorem apply_redo {log part : List (Write κ ν)} (named : ∀ w ∈ part, w.1 ∈ log.map Prod.fst) (s : Store κ ν) :
    apply log (apply part s) = apply log s := by
  funext k
  by_cases here : k ∈ log.map Prod.fst
  · exact apply_named here _ _
  · have unnamed : k ∉ part.map Prod.fst := by
      intro found
      obtain ⟨w,member,rfl⟩ := List.mem_map.mp found
      exact here (named w member)
    rw [apply_other here,apply_other here,apply_other unnamed]

/-- Where all assignments to a location put the same there. -/
theorem apply_only {log : List (Write κ ν)} {k : κ} {x : Option ν} (only : ∀ w ∈ log, w.1 = k → w.2 = x)
    (named : k ∈ log.map Prod.fst) (s : Store κ ν) : apply log s k = x := by
  induction log generalizing s with
  | nil => simp at named
  | cons w log ih =>
    rw [apply_cons]
    by_cases later : k ∈ log.map Prod.fst
    · exact ih (fun w' member => only w' (List.mem_cons_of_mem _ member)) later _
    · have here : k = w.1 := by simpa [later] using named
      rw [apply_other later,write,if_pos here]
      exact only w List.mem_cons_self here.symm

end FFWebHid.WriteLogs
