import Mathlib.Logic.Relation

/-!
Values that name a parent by key in a map. A value descends when every link of the
way up to a root passes; since a value reads its parent only through the map, maps
that agree on the parents of a closed set of values agree on its descent.
-/
namespace FFWebHid.Lineages
universe u v
variable {κ : Type u} {ν : Type v}

/-- The way up from a value ends at a root and every link on it passes. -/
inductive Descends (get : κ → Option ν) (up : ν → Option κ) (passes : ν → ν → Prop) : ν → Prop
  | root {v : ν} (top : up v = none) : Descends get up passes v
  | child {v p : ν} {k : κ} (named : up v = some k) (found : get k = some p)
      (parent : Descends get up passes p) (link : passes p v) : Descends get up passes v

variable {get get' : κ → Option ν} {up : ν → Option κ} {passes : ν → ν → Prop}

theorem descends_root {v : ν} (top : up v = none) : Descends get up passes v := .root top

theorem descends_below {v p : ν} {k : κ} (named : up v = some k) (found : get k = some p) :
    Descends get up passes v ↔ Descends get up passes p ∧ passes p v := by
  constructor
  · intro descends
    cases descends with
    | root top => rw [named] at top; cases top
    | @child _ p' k' named' found' parent link =>
      obtain rfl : k' = k := Option.some.inj (named'.symm.trans named)
      obtain rfl : p' = p := Option.some.inj (found'.symm.trans found)
      exact ⟨parent,link⟩
  · rintro ⟨parent,link⟩; exact .child named found parent link

/-- Two values with the same parent whose links pass alike descend alike. -/
theorem descends_alike {v v' : ν} (same : up v' = up v) (alike : ∀ p, passes p v → passes p v')
    (descends : Descends get up passes v) : Descends get up passes v' := by
  cases descends with
  | root top => exact .root (same.trans top)
  | child named found parent link => exact .child (same.trans named) found parent (alike _ link)

/-- A map that finds the parents of a set of values where they were leaves their
    descent alone; the set is closed under links that pass. -/
theorem descends_mono {R : ν → Prop}
    (closed : ∀ v, R v → ∀ k, up v = some k → ∀ p, get k = some p → passes p v → R p)
    (kept : ∀ v, R v → ∀ k, up v = some k → get' k = get k) {v : ν} (member : R v)
    (descends : Descends get up passes v) : Descends get' up passes v := by
  induction descends with
  | root top => exact .root top
  | @child v p k named found parent link ih =>
    exact .child named ((kept v member k named).trans found) (ih (closed v member k named p found link)) link

theorem descends_congr {R : ν → Prop}
    (closed : ∀ v, R v → ∀ k, up v = some k → ∀ p, get k = some p → passes p v → R p)
    (kept : ∀ v, R v → ∀ k, up v = some k → get' k = get k) {v : ν} (member : R v) :
    Descends get up passes v ↔ Descends get' up passes v := by
  refine ⟨descends_mono closed kept member,descends_mono ?_ (fun v m k named => (kept v m k named).symm) member⟩
  intro v m k named p found link
  exact closed v m k named p ((kept v m k named).symm.trans found) link

/-- What a value hands up to its parent reaches all of its ancestors. -/
theorem ancestors_of_parents {P : ν → Prop} {parent : ν → ν → Prop} (step : ∀ p v, parent p v → P v → P p) {a v : ν}
    (above : Relation.TransGen parent a v) (holds : P v) : P a := by
  induction above with
  | single link => exact step _ _ link holds
  | tail _ link ih => exact ih (step _ _ link holds)

end FFWebHid.Lineages
