import Mathlib.Algebra.BigOperators.Finprod
import FFWebHid.Maps

/-!
Counting the values of a map that pass a test, and adding up what is owed by threads of
which only finitely many owe anything. Both are described by what one change does.
-/
namespace FFWebHid.Tallies
open FFWebHid.Maps

section
variable {κ : Type*} {ν : Type*}

def tally (p : ν → Bool) (m : HashMap κ ν) : Nat := (values m).countP p

/-- What one value adds. -/
def weigh (p : ν → Bool) (v : Option ν) : Nat := if v.any p then 1 else 0

variable [DecidableEq κ] {p q : ν → Bool} {a b : HashMap κ ν}

theorem tally_congr (same : ∀ k, a.lookup k = b.lookup k) : tally p a = tally p b := by
  have perm : a.entries.Perm b.entries := by
    refine (List.perm_ext_iff_of_nodup a.nodupKeys.nodup b.nodupKeys.nodup).mpr ?_
    rintro ⟨k,v⟩
    rw [← lookup_eq_some,← lookup_eq_some,same]
  exact (perm.map Sigma.snd).countP_eq p

theorem tally_erase (m : HashMap κ ν) (k : κ) : tally p (m.erase k) + weigh p (m.lookup k) = tally p m := by
  cases found : m.lookup k with
  | none =>
    have absent : k ∉ m := fun there => by
      obtain ⟨v,present⟩ := mem_iff_lookup.mp there
      rw [found] at present
      cases present
    have same : tally p (m.erase k) = tally p m := tally_congr fun other => by
      rw [lookup_erase_eq]
      split_ifs with equal
      · rw [equal,found]
      · rfl
    rw [same]
    rfl
  | some v =>
    obtain ⟨v',before,rest,_,entries,erased⟩ := List.exists_of_kerase (AList.mem_keys.mp (mem_iff_lookup.mpr ⟨v,found⟩))
    have there : (⟨k,v'⟩ : Sigma fun _ : κ => ν) ∈ m.entries := by rw [entries]; simp
    obtain rfl : v' = v := Option.some.inj ((lookup_eq_some.mpr there).symm.trans found)
    have left : (m.erase k).entries = before ++ rest := erased
    simp only [tally,values,left,entries,List.map_append,List.map_cons,List.countP_append,List.countP_cons,weigh,
      Option.any_some]
    omega

/-- One value may change. -/
theorem tally_change {k : κ} (same : ∀ other, other ≠ k → b.lookup other = a.lookup other) :
    tally p b + weigh p (a.lookup k) = tally p a + weigh p (b.lookup k) := by
  have others : tally p (b.erase k) = tally p (a.erase k) := tally_congr fun other => by
    rw [lookup_erase_eq,lookup_erase_eq]
    split_ifs with equal
    · rfl
    · exact same other equal
  have first := tally_erase (p := p) a k
  have second := tally_erase (p := p) b k
  omega

/-- Only the values that pass a test are kept. -/
theorem tally_filter (kept : ∀ k, b.lookup k = (a.lookup k).filter q) :
    tally p b + tally (fun v => !q v && p v) a = tally p a := by
  have same : tally p b = tally p (retain a fun _ v => q v) := tally_congr fun k => by rw [kept,lookup_retain]
  rw [same]
  simp only [tally,values,retain,List.countP_map,List.countP_filter]
  induction a.entries with
  | nil => rfl
  | cons entry rest ih =>
    simp only [List.countP_cons,Function.comp_apply] at ih ⊢
    by_cases passes : q entry.2 = true <;> by_cases counts : p entry.2 = true <;> simp [passes,counts] <;> omega

end

/-! ### What threads owe -/

section
variable {ι : Type*} [DecidableEq ι] {f : ι → Nat}

theorem support_update (finite : (Function.support f).Finite) (i : ι) (n : Nat) :
    (Function.support (Function.update f i n)).Finite := by
  refine (finite.insert i).subset fun j owes => ?_
  by_cases same : j = i
  · exact Or.inl same
  · refine Or.inr ?_
    rwa [Function.mem_support,Function.update_of_ne same] at owes

theorem finsum_update (finite : (Function.support f).Finite) (i : ι) (n : Nat) :
    finsum (Function.update f i n) + f i = finsum f + n := by
  let everyone := insert i finite.toFinset
  have old : Function.support f ⊆ everyone := fun j owes => by simp [everyone,Function.mem_support.mp owes]
  have new : Function.support (Function.update f i n) ⊆ everyone := fun j owes => by
    by_cases same : j = i
    · simp [everyone,same]
    · rw [Function.mem_support,Function.update_of_ne same] at owes
      simp [everyone,owes]
  have member : i ∈ everyone := Finset.mem_insert_self ..
  rw [finsum_eq_sum_of_support_subset _ old,finsum_eq_sum_of_support_subset _ new,Finset.sum_update_of_mem member,
    Finset.sum_eq_add_sum_sdiff_singleton_of_mem member f]
  omega

end
end FFWebHid.Tallies
