import Mathlib.Data.List.AList

/-!
Finite maps with one value per key, and the operations on whole maps that hash
maps offer: the values, keeping the entries that pass a test, and removing a
list of keys. Every operation is described by its effect on `lookup`.
-/
namespace FFWebHid.Maps
universe u v

/-- A finite map; the entries carry the proof that no key occurs twice. -/
abbrev HashMap (κ : Type u) (ν : Type v) := AList (fun _ : κ => ν)

/-- A property that each step of a fold turns on or leaves alone holds afterwards
    when it held before or some element turned it on. -/
theorem foldl_iff {μ : Type u} {β : Type v} (g : μ → β → μ) (P : μ → Prop) (Q : β → Prop)
    (step : ∀ m b, P (g m b) ↔ P m ∨ Q b) (xs : List β) (m : μ) :
    P (xs.foldl g m) ↔ P m ∨ ∃ x ∈ xs, Q x := by
  induction xs generalizing m with
  | nil => simp
  | cons x rest ih => rw [List.foldl_cons,ih,step]; simp [or_assoc]

section
variable {κ : Type u} {ν : Type v} [DecidableEq κ]

/-- What is in a list stays there when something else is removed. -/
theorem mem_eraseIdx_or {α : Type u} {xs : List α} {x y : α} {k : Nat} (found : xs[k]? = some y) (member : x ∈ xs) :
    x = y ∨ x ∈ xs.eraseIdx k := by
  obtain ⟨i,there⟩ := List.mem_iff_getElem?.mp member
  by_cases same : i = k
  · rw [same,found] at there
    exact .inl (Option.some.inj there).symm
  · exact .inr (List.mem_eraseIdx_iff_getElem?.mpr ⟨i,same,there⟩)

/-- An element of a list with one more is an old one or the last. -/
theorem getElem?_snoc {α : Type u} {xs : List α} {x y : α} {k : Nat} (found : (xs ++ [x])[k]? = some y) :
    xs[k]? = some y ∨ k = xs.length ∧ y = x := by
  by_cases inside : k < xs.length
  · rw [List.getElem?_append_left inside] at found
    exact .inl found
  · have last := (List.getElem?_eq_some_iff.mp found).1
    rw [List.length_append,List.length_singleton] at last
    obtain rfl : k = xs.length := by omega
    rw [List.getElem?_concat_length] at found
    exact .inr ⟨rfl,(Option.some.inj found).symm⟩

/-- An element of a list with one that was replaced is the new one or stands elsewhere. -/
theorem getElem?_set_cases {α : Type u} {xs : List α} {x y z : α} {i k : Nat} (there : xs[i]? = some x)
    (found : (xs.set i y)[k]? = some z) : k = i ∧ z = y ∨ k ≠ i ∧ xs[k]? = some z := by
  by_cases same : k = i
  · subst same
    rw [List.getElem?_set_self (List.getElem?_eq_some_iff.mp there).1] at found
    exact .inl ⟨rfl,(Option.some.inj found).symm⟩
  · rw [List.getElem?_set_ne (Ne.symm same)] at found
    exact .inr ⟨same,found⟩

def values (m : HashMap κ ν) : List ν := m.entries.map Sigma.snd

def retain (m : HashMap κ ν) (keep : κ → ν → Bool) : HashMap κ ν :=
  ⟨m.entries.filter fun entry => keep entry.1 entry.2,m.nodupKeys.sublist List.filter_sublist⟩

def eraseAll (m : HashMap κ ν) (keys : List κ) : HashMap κ ν := keys.foldl (fun m k => m.erase k) m

/-- Recompute every value from its key and the old value. -/
def mapValues (m : HashMap κ ν) (f : κ → ν → ν) : HashMap κ ν :=
  ⟨m.entries.map fun entry => ⟨entry.1,f entry.1 entry.2⟩,by
    have keys : (m.entries.map fun entry => (⟨entry.1,f entry.1 entry.2⟩ : Sigma fun _ : κ => ν)).keys =
        m.entries.keys := by simp [List.keys]
    rw [List.NodupKeys,keys]; exact m.nodupKeys⟩

/-- Change the value of a key that is present. -/
def modify (m : HashMap κ ν) (key : κ) (f : ν → ν) : HashMap κ ν :=
  match m.lookup key with
  | none => m
  | some value => m.insert key (f value)

theorem lookup_empty (k : κ) : (∅ : HashMap κ ν).lookup k = none := AList.lookup_empty k

theorem lookup_eq_some {m : HashMap κ ν} {k : κ} {v : ν} : m.lookup k = some v ↔ ⟨k,v⟩ ∈ m.entries :=
  AList.mem_lookup_iff

theorem lookup_insert_eq (m : HashMap κ ν) (k : κ) (v : ν) (other : κ) :
    (m.insert k v).lookup other = if other = k then some v else m.lookup other := by
  by_cases same : other = k
  · subst same; simp
  · simp [same,AList.lookup_insert_ne same]

theorem lookup_erase_eq (m : HashMap κ ν) (k other : κ) :
    (m.erase k).lookup other = if other = k then none else m.lookup other := by
  by_cases same : other = k
  · subst same; simp
  · simp [same,AList.lookup_erase_ne same]

theorem lookup_retain (m : HashMap κ ν) (keep : κ → ν → Bool) (k : κ) :
    (retain m keep).lookup k = (m.lookup k).filter (keep k) := by
  apply Option.ext
  intro v
  rw [lookup_eq_some,Option.filter_eq_some_iff,lookup_eq_some]
  exact List.mem_filter

theorem lookup_of_erase {m : HashMap κ ν} {k k' : κ} {v : ν} (found : (m.erase k).lookup k' = some v) :
    m.lookup k' = some v := by
  rw [lookup_erase_eq] at found
  split_ifs at found
  exact found

theorem lookup_of_retain {m : HashMap κ ν} {keep : κ → ν → Bool} {k : κ} {v : ν}
    (found : (retain m keep).lookup k = some v) : m.lookup k = some v := by
  rw [lookup_retain,Option.filter_eq_some_iff] at found
  exact found.1

theorem lookup_eraseAll (keys : List κ) (m : HashMap κ ν) (k : κ) :
    (eraseAll m keys).lookup k = if k ∈ keys then none else m.lookup k := by
  induction keys generalizing m with
  | nil => simp [eraseAll]
  | cons first rest ih =>
    rw [show eraseAll m (first :: rest) = eraseAll (m.erase first) rest from rfl,ih,lookup_erase_eq]
    by_cases same : k = first <;> simp [same]

theorem lookup_modify (m : HashMap κ ν) (k : κ) (f : ν → ν) (other : κ) :
    (modify m k f).lookup other = if other = k then (m.lookup k).map f else m.lookup other := by
  unfold modify
  cases found : m.lookup k with
  | none =>
    by_cases same : other = k
    · subst same; simp [found]
    · simp [same]
  | some v => simp [lookup_insert_eq]

theorem lookup_mapValues (m : HashMap κ ν) (f : κ → ν → ν) (k : κ) :
    (mapValues m f).lookup k = (m.lookup k).map (f k) := by
  apply Option.ext
  intro v
  rw [lookup_eq_some,Option.map_eq_some_iff]
  simp only [mapValues,List.mem_map,lookup_eq_some]
  constructor
  · rintro ⟨⟨k',w⟩,member,same⟩
    cases same
    exact ⟨w,member,rfl⟩
  · rintro ⟨w,member,rfl⟩
    exact ⟨⟨k,w⟩,member,rfl⟩

theorem mem_values {m : HashMap κ ν} {v : ν} : v ∈ values m ↔ ∃ k, m.lookup k = some v := by
  simp only [values,List.mem_map,lookup_eq_some]
  constructor
  · rintro ⟨⟨k,w⟩,member,rfl⟩; exact ⟨k,member⟩
  · rintro ⟨k,member⟩; exact ⟨⟨k,v⟩,member,rfl⟩

theorem mem_iff_lookup {m : HashMap κ ν} {k : κ} : k ∈ m ↔ ∃ v, m.lookup k = some v := by
  rw [← AList.lookup_isSome,Option.isSome_iff_exists]

theorem mem_keys_iff_lookup {m : HashMap κ ν} {k : κ} : k ∈ m.keys ↔ ∃ v, m.lookup k = some v := by
  rw [← AList.mem_keys,mem_iff_lookup]

end
end FFWebHid.Maps
