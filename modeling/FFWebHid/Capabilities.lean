import Mathlib.Logic.Basic
import Mathlib.Data.Nat.Basic

/-!
Revocable capabilities. A table holds at most one flag in each slot; flags are
shared cells that holders keep after the slot has changed. A flag is set when it
is granted and cleared when its slot is emptied, and it is never set again: a
set flag is still held where it was granted.
-/
namespace FFWebHid.Capabilities
universe u
variable {Slot : Type u}

structure Table (Slot : Type u) where
  held : Slot → Option Nat
  valid : Nat → Bool
  next : Nat

/-- Every held flag is set and was granted, and no two slots hold the same one. -/
structure Ok (T : Table Slot) : Prop where
  granted : ∀ s f, T.held s = some f → f < T.next
  set : ∀ s f, T.held s = some f → T.valid f = true
  distinct : ∀ s s' f, T.held s = some f → T.held s' = some f → s = s'

/-- `T'` is `T` with the slots of `p` emptied and their flags cleared. -/
structure Revokes (p : Slot → Prop) (T T' : Table Slot) : Prop where
  next : T'.next = T.next
  kept : ∀ s, ¬ p s → T'.held s = T.held s
  emptied : ∀ s, p s → T'.held s = none
  cleared : ∀ f, T'.valid f = true ↔ T.valid f = true ∧ ¬ ∃ s, p s ∧ T.held s = some f

/-- `T'` is `T` with a fresh flag in a slot. -/
structure Grants (s : Slot) (T T' : Table Slot) : Prop where
  next : T'.next = T.next + 1
  here : T'.held s = some T.next
  kept : ∀ s', s' ≠ s → T'.held s' = T.held s'
  flags : ∀ f, f ≠ T.next → T'.valid f = T.valid f
  set : T'.valid T.next = true

/-- What every sequence of grants and revocations does: flags are never set
    again, and a flag that is still set is where it was. -/
structure Evolves (T T' : Table Slot) : Prop where
  next : T.next ≤ T'.next
  cleared : ∀ f, f < T.next → T'.valid f = true → T.valid f = true
  stays : ∀ s f, T.held s = some f → T'.valid f = true → T'.held s = some f

theorem Evolves.refl (T : Table Slot) : Evolves T T := ⟨Nat.le_refl _,fun _ _ h => h,fun _ _ h _ => h⟩

theorem Evolves.of_eq {T T' : Table Slot} (held : T'.held = T.held) (valid : T'.valid = T.valid)
    (next : T'.next = T.next) : Evolves T T' :=
  ⟨Nat.le_of_eq next.symm,fun _ _ h => valid ▸ h,fun _ _ h _ => held ▸ h⟩

theorem Evolves.trans {T₁ T₂ T₃ : Table Slot} (granted : ∀ s f, T₁.held s = some f → f < T₁.next)
    (first : Evolves T₁ T₂) (second : Evolves T₂ T₃) : Evolves T₁ T₃ := by
  refine ⟨Nat.le_trans first.next second.next,?_,?_⟩
  · intro f old set
    exact first.cleared f old (second.cleared f (Nat.lt_of_lt_of_le old first.next) set)
  · intro s f held set
    have before := second.cleared f (Nat.lt_of_lt_of_le (granted s f held) first.next) set
    exact second.stays s f (first.stays s f held before) set

theorem Revokes.ok {p : Slot → Prop} {T T' : Table Slot} (revokes : Revokes p T T') (ok : Ok T) : Ok T' := by
  have inherited (s : Slot) (f : Nat) (held : T'.held s = some f) : ¬ p s ∧ T.held s = some f := by
    by_cases hit : p s
    · rw [revokes.emptied s hit] at held; cases held
    · exact ⟨hit,revokes.kept s hit ▸ held⟩
  refine ⟨?_,?_,?_⟩
  · intro s f held
    rw [revokes.next]
    exact ok.granted s f (inherited s f held).2
  · intro s f held
    obtain ⟨miss,old⟩ := inherited s f held
    refine (revokes.cleared f).mpr ⟨ok.set s f old,?_⟩
    rintro ⟨other,hit,same⟩
    exact miss (ok.distinct other s f same old ▸ hit)
  · intro s s' f held held'
    exact ok.distinct s s' f (inherited s f held).2 (inherited s' f held').2

theorem Revokes.evolves {p : Slot → Prop} {T T' : Table Slot} (revokes : Revokes p T T') : Evolves T T' := by
  refine ⟨Nat.le_of_eq revokes.next.symm,fun f _ set => ((revokes.cleared f).mp set).1,?_⟩
  intro s f held set
  have miss : ¬ p s := fun hit => ((revokes.cleared f).mp set).2 ⟨s,hit,held⟩
  rw [revokes.kept s miss]; exact held

theorem Grants.ok {s : Slot} {T T' : Table Slot} (grants : Grants s T T') (ok : Ok T) : Ok T' := by
  have inherited (s' : Slot) (f : Nat) (held : T'.held s' = some f) :
      (s' = s ∧ f = T.next) ∨ (s' ≠ s ∧ T.held s' = some f ∧ f < T.next) := by
    by_cases same : s' = s
    · subst same; rw [grants.here] at held; exact Or.inl ⟨rfl,(Option.some.inj held).symm⟩
    · rw [grants.kept s' same] at held; exact Or.inr ⟨same,held,ok.granted s' f held⟩
  refine ⟨?_,?_,?_⟩
  · intro s' f held
    rw [grants.next]
    rcases inherited s' f held with ⟨_,rfl⟩ | ⟨_,_,old⟩ <;> omega
  · intro s' f held
    rcases inherited s' f held with ⟨_,rfl⟩ | ⟨_,before,old⟩
    · exact grants.set
    · rw [grants.flags f (by omega)]; exact ok.set s' f before
  · intro a b f first second
    rcases inherited a f first with ⟨rfl,rfl⟩ | ⟨other,heldA,old⟩
    · rcases inherited b _ second with ⟨rfl,_⟩ | ⟨_,_,old⟩
      · rfl
      · omega
    · rcases inherited b f second with ⟨rfl,fresh⟩ | ⟨_,heldB,_⟩
      · omega
      · exact ok.distinct a b f heldA heldB

theorem Grants.evolves {s : Slot} {T T' : Table Slot} (grants : Grants s T T')
    (empty : T.held s = none) : Evolves T T' := by
  refine ⟨by rw [grants.next]; omega,?_,?_⟩
  · intro f old set
    rw [grants.flags f (by omega)] at set; exact set
  · intro s' f held _
    rw [grants.kept s' (by rintro rfl; rw [empty] at held; cases held)]; exact held

end FFWebHid.Capabilities
