import Mathlib.Data.List.Infix
import Mathlib.Data.List.Nodup
import Mathlib.Data.List.Sublists

/-!
The forest that a list of chains describes. Its nodes are the non-empty prefixes of
the chains, and what lies below a node follows it in the chains, each once and in
the order in which the chains name it first.
-/
namespace FFWebHid.ChainForests
universe u

section Paths
variable {α : Type u}

/-- Some chain begins with the path. -/
def Seen (chains : List (List α)) (path : List α) : Prop := ∃ chain ∈ chains, path <+: chain

theorem Seen.shorter {chains : List (List α)} {path longer : List α} (seen : Seen chains longer) (begins : path <+: longer) :
    Seen chains path := by
  obtain ⟨chain,inside,upTo⟩ := seen
  exact ⟨chain,inside,begins.trans upTo⟩

theorem seen_append {first second : List (List α)} {path : List α} :
    Seen (first ++ second) path ↔ Seen first path ∨ Seen second path := by
  simp only [Seen,List.mem_append,or_and_right,exists_or]

theorem seen_singleton {chain path : List α} : Seen [chain] path ↔ path <+: chain := by
  simp [Seen]

/-- The beginnings of the chains, listed. -/
theorem mem_flatMap_inits {chains : List (List α)} {path : List α} :
    path ∈ chains.flatMap List.inits ↔ Seen chains path := by
  simp only [List.mem_flatMap,List.mem_inits,Seen]

/-- No chain goes on for longer after the path. -/
def Within (chains : List (List α)) (depth : Nat) (path : List α) : Prop :=
  ∀ rest, Seen chains (path ++ rest) → rest.length ≤ depth

theorem Within.below {chains : List (List α)} {depth : Nat} {path : List α} (within : Within chains (depth + 1) path)
    (x : α) : Within chains depth (path ++ [x]) := by
  intro rest seen
  rw [List.append_assoc] at seen
  exact Nat.le_of_succ_le_succ (within (x :: rest) seen)

theorem within_flatten (chains : List (List α)) : Within chains chains.flatten.length [] := by
  rintro rest ⟨chain,inside,begins⟩
  rw [List.nil_append] at begins
  exact begins.length_le.trans (List.sublist_flatten_of_mem inside).length_le

variable [DecidableEq α]

instance (chains : List (List α)) (path : List α) : Decidable (Seen chains path) :=
  inferInstanceAs (Decidable (∃ chain ∈ chains, path <+: chain))

/-- What follows the path in a chain that begins with it. -/
def next? (path chain : List α) : Option α := if path <+: chain then chain[path.length]? else none

theorem next?_eq_some {path chain : List α} {x : α} : next? path chain = some x ↔ path ++ [x] <+: chain := by
  unfold next?
  split
  · rename_i begins
    obtain ⟨rest,rfl⟩ := begins
    rw [List.getElem?_append_right (Nat.le_refl _),Nat.sub_self,List.prefix_append_right_inj]
    cases rest with
    | nil => simp
    | cons y rest => simp [List.cons_prefix_cons,eq_comm]
  · rename_i apart
    refine iff_of_false (by rintro ⟨⟩) fun begins => apart ((List.prefix_append path [x]).trans begins)

/-- What follows the path in the chains, in first-seen order. -/
def nextIn (chains : List (List α)) (path : List α) : List α := (chains.filterMap (next? path)).eraseDups

theorem mem_nextIn {chains : List (List α)} {path : List α} {x : α} : x ∈ nextIn chains path ↔ Seen chains (path ++ [x]) := by
  simp only [nextIn,List.mem_eraseDups,List.mem_filterMap,next?_eq_some,Seen]

theorem eraseDups_concat (xs : List α) (x : α) :
    (xs ++ [x]).eraseDups = xs.eraseDups ++ if x ∈ xs then [] else [x] := by
  rw [List.eraseDups_append]
  split
  · rename_i there
    rw [List.removeAll,List.filter_cons_of_neg (by simpa using there)]
    rfl
  · rename_i absent
    rw [List.removeAll,List.filter_cons_of_pos (by simpa using absent)]
    rfl

theorem nodup_eraseDups (xs : List α) : xs.eraseDups.Nodup := by
  induction xs using List.reverseRecOn with
  | nil => exact List.nodup_nil
  | append_singleton xs x ih =>
    rw [eraseDups_concat]
    split
    · rwa [List.append_nil]
    · rename_i absent
      refine List.nodup_append.mpr ⟨ih,List.nodup_singleton x,?_⟩
      rintro y inside z single rfl
      rw [List.mem_singleton] at single
      exact absent (single ▸ List.mem_eraseDups.mp inside)

theorem nodup_nextIn (chains : List (List α)) (path : List α) : (nextIn chains path).Nodup := nodup_eraseDups _

/-- One more chain. -/
theorem nextIn_concat (chains : List (List α)) (chain path : List α) :
    nextIn (chains ++ [chain]) path = nextIn chains path ++
      match next? path chain with
      | some x => if x ∈ nextIn chains path then [] else [x]
      | none => [] := by
  unfold nextIn
  rw [List.filterMap_append]
  cases found : next? path chain with
  | none => simp [found]
  | some x =>
    have last : [chain].filterMap (next? path) = [x] := by simp [found]
    rw [last,eraseDups_concat]
    simp only [List.mem_eraseDups]

theorem nextIn_of_apart {chains : List (List α)} {chain path : List α} (apart : next? path chain = none) :
    nextIn (chains ++ [chain]) path = nextIn chains path := by
  rw [nextIn_concat,apart,List.append_nil]

/-- A longer chain follows other paths as the shorter one does. -/
theorem next?_concat {done path : List α} {x : α} (other : path ≠ done) :
    next? path (done ++ [x]) = next? path done := by
  refine Option.ext fun y => ?_
  rw [next?_eq_some,next?_eq_some,List.prefix_concat_iff]
  refine or_iff_right fun same => other ?_
  exact (List.append_inj' same rfl).1

/-- A chain in place of the part of it that was there before. -/
theorem nextIn_longer (chains : List (List α)) (done path : List α) (x : α) :
    nextIn (chains ++ [done ++ [x]]) path =
      if path = done ∧ ¬ Seen chains (done ++ [x]) then nextIn (chains ++ [done]) path ++ [x]
      else nextIn (chains ++ [done]) path := by
  by_cases same : path = done
  · subst same
    have ends : next? path path = none := by simp [next?]
    have follows : next? path (path ++ [x]) = some x := next?_eq_some.mpr (List.prefix_refl _)
    rw [nextIn_of_apart ends,nextIn_concat,follows]
    simp only [mem_nextIn,true_and]
    by_cases seen : Seen chains (path ++ [x])
    · simp [seen]
    · simp [seen]
  · rw [if_neg fun both => same both.1,nextIn_concat,nextIn_concat,next?_concat same]

end Paths

/-! ### The forest -/

inductive Tree (α : Type u) where
  | node (value : α) (below : List (Tree α))

section Shapes
variable {α : Type u}

mutual
/-- The nodes of a tree in preorder, each by the values on the way to it. -/
def Tree.paths (above : List α) : Tree α → List (List α)
  | .node x below => (above ++ [x]) :: pathsIn (above ++ [x]) below
/-- The nodes of a forest. -/
def pathsIn (above : List α) : List (Tree α) → List (List α)
  | [] => []
  | t :: rest => t.paths above ++ pathsIn above rest
end

theorem pathsIn_eq (above : List α) (forest : List (Tree α)) : pathsIn above forest = forest.flatMap (·.paths above) := by
  induction forest with
  | nil => rfl
  | cons t rest ih => rw [pathsIn,ih,List.flatMap_cons]

variable [DecidableEq α]

/-- What the chains have below a path, to some depth. -/
def shape (chains : List (List α)) : Nat → List α → List (Tree α)
  | 0, _ => []
  | depth + 1, path => (nextIn chains path).map fun x => .node x (shape chains depth (path ++ [x]))

theorem shape_within {chains : List (List α)} {depth more : Nat} {path : List α} (within : Within chains depth path)
    (also : Within chains more path) : shape chains depth path = shape chains more path := by
  have empty {path : List α} (short : Within chains 0 path) : nextIn chains path = [] :=
    List.eq_nil_iff_forall_not_mem.mpr fun x inside => Nat.not_succ_le_zero 0 (short [x] (mem_nextIn.mp inside))
  induction depth generalizing more path with
  | zero =>
    cases more with
    | zero => rfl
    | succ more => rw [shape,shape,empty within,List.map_nil]
  | succ depth ih =>
    cases more with
    | zero => rw [shape,shape,empty also,List.map_nil]
    | succ more =>
      rw [shape,shape]
      exact List.map_congr_left fun x _ => by rw [ih (within.below x) (also.below x)]

theorem mem_pathsIn_shape {chains : List (List α)} {depth : Nat} {above path : List α} :
    path ∈ pathsIn above (shape chains depth above) ↔
      ∃ rest, rest ≠ [] ∧ rest.length ≤ depth ∧ path = above ++ rest ∧ Seen chains path := by
  induction depth generalizing above path with
  | zero =>
    refine iff_of_false (by simp [shape,pathsIn]) ?_
    rintro ⟨rest,filled,short,-⟩
    exact filled (List.length_eq_zero_iff.mp (Nat.le_zero.mp short))
  | succ depth ih =>
    rw [shape,pathsIn_eq,List.flatMap_map,List.mem_flatMap]
    simp only [mem_nextIn,Tree.paths,List.mem_cons,ih]
    constructor
    · rintro ⟨x,seen,rfl | ⟨rest,-,short,rfl,there⟩⟩
      · exact ⟨[x],by simp,by simp,rfl,seen⟩
      · exact ⟨x :: rest,by simp,Nat.succ_le_succ short,by simp,there⟩
    · rintro ⟨rest,filled,short,rfl,seen⟩
      cases rest with
      | nil => exact absurd rfl filled
      | cons x rest =>
        rw [List.append_cons] at seen ⊢
        refine ⟨x,seen.shorter (List.prefix_append _ _),?_⟩
        cases rest with
        | nil => exact .inl (List.append_nil _)
        | cons y rest => exact .inr ⟨y :: rest,by simp,Nat.le_of_succ_le_succ short,rfl,seen⟩

theorem nodup_pathsIn_shape (chains : List (List α)) (depth : Nat) (above : List α) :
    (pathsIn above (shape chains depth above)).Nodup := by
  induction depth generalizing above with
  | zero => exact List.nodup_nil
  | succ depth ih =>
    have begins {path : List α} {x : α}
        (inside : path ∈ (above ++ [x]) :: pathsIn (above ++ [x]) (shape chains depth (above ++ [x]))) :
        above ++ [x] <+: path := by
      rcases List.mem_cons.mp inside with rfl | lower
      · exact List.prefix_refl _
      · obtain ⟨rest,-,-,rfl,-⟩ := mem_pathsIn_shape.mp lower
        exact List.prefix_append _ _
    rw [pathsIn_eq,shape,List.flatMap_map,List.nodup_flatMap]
    refine ⟨fun x _ => ?_,(nodup_nextIn chains above).imp fun {x y} differ path left right => ?_⟩
    · rw [Tree.paths]
      refine List.nodup_cons.mpr ⟨fun inside => ?_,ih _⟩
      obtain ⟨rest,filled,-,same,-⟩ := mem_pathsIn_shape.mp inside
      exact filled (List.self_eq_append_right.mp same)
    · have both := List.prefix_of_prefix_length_le (begins left) (begins right) (by simp)
      rw [List.prefix_append_right_inj] at both
      exact differ (by simpa using both)

/-- The forest of the chains; none is longer than all of them together. -/
def forestOf (chains : List (List α)) : List (Tree α) := shape chains chains.flatten.length []

/-- The nodes of the forest are the prefixes of the chains. -/
theorem mem_forestOf {chains : List (List α)} {path : List α} :
    path ∈ pathsIn [] (forestOf chains) ↔ path ≠ [] ∧ Seen chains path := by
  unfold forestOf
  rw [mem_pathsIn_shape]
  constructor
  · rintro ⟨rest,filled,-,rfl,seen⟩
    exact ⟨filled,seen⟩
  · exact fun ⟨filled,seen⟩ => ⟨path,filled,within_flatten chains path seen,rfl,seen⟩

theorem nodup_forestOf (chains : List (List α)) : (pathsIn [] (forestOf chains)).Nodup :=
  nodup_pathsIn_shape chains _ []

end Shapes
end FFWebHid.ChainForests
