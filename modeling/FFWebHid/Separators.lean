import Mathlib.Data.List.Basic

/-!
Lists cut at separators: the words between separators, and a list that is cut at two
separators, one after the other.
-/
namespace FFWebHid.Separators

variable {α β γ : Type*}

/-- The pieces between the elements that `p` picks, without the empty ones. -/
def wordsBy (p : α → Bool) (t : List α) : List (List α) := (t.splitOnP p).filter fun w => !w.isEmpty

theorem wordsBy_nil (p : α → Bool) : wordsBy p [] = [] := by
  simp [wordsBy]

theorem wordsBy_append_cons {p : α → Bool} {c : α} (separates : p c = true) (x y : List α) :
    wordsBy p (x ++ c :: y) = wordsBy p x ++ wordsBy p y := by
  rw [wordsBy,List.splitOnP_append_cons x y separates,List.filter_append]
  rfl

theorem wordsBy_cons {p : α → Bool} {c : α} (separates : p c = true) (t : List α) :
    wordsBy p (c :: t) = wordsBy p t := by
  have split := wordsBy_append_cons separates [] t
  rwa [wordsBy_nil] at split

theorem wordsBy_of_free {p : α → Bool} {t : List α} (some : t ≠ []) (free : ∀ c ∈ t, p c = false) :
    wordsBy p t = [t] := by
  rw [wordsBy,List.splitOnP_eq_singleton free]
  simpa using some

theorem wordsBy_all {p : α → Bool} {t : List α} (all : ∀ c ∈ t, p c = true) : wordsBy p t = [] := by
  induction t with
  | nil => exact wordsBy_nil p
  | cons c t ih =>
    rw [wordsBy_cons (all c List.mem_cons_self)]
    exact ih fun d inside => all d (List.mem_cons_of_mem c inside)

/-- Separators at the end make no word. -/
theorem wordsBy_append_all {p : α → Bool} (x : List α) {y : List α} (all : ∀ c ∈ y, p c = true) :
    wordsBy p (x ++ y) = wordsBy p x := by
  cases y with
  | nil => rw [List.append_nil]
  | cons c y =>
    rw [wordsBy_append_cons (all c List.mem_cons_self),
      wordsBy_all fun d inside => all d (List.mem_cons_of_mem c inside),List.append_nil]

/-- Nor do separators at the beginning. -/
theorem wordsBy_all_append {p : α → Bool} {x : List α} (all : ∀ c ∈ x, p c = true) (y : List α) :
    wordsBy p (x ++ y) = wordsBy p y := by
  induction x with
  | nil => rfl
  | cons c x ih =>
    rw [List.cons_append,wordsBy_cons (all c List.mem_cons_self)]
    exact ih fun d inside => all d (List.mem_cons_of_mem c inside)

theorem wordsBy_congr {p q : α → Bool} {t : List α} (same : ∀ c ∈ t, p c = q c) : wordsBy p t = wordsBy q t := by
  suffices pieces : t.splitOnP p = t.splitOnP q by rw [wordsBy,wordsBy,pieces]
  induction t with
  | nil => rfl
  | cons c t ih =>
    rw [List.splitOnP_cons_eq_if_modifyHead,List.splitOnP_cons_eq_if_modifyHead,same c List.mem_cons_self,
      ih fun d inside => same d (List.mem_cons_of_mem c inside)]

/-- An element that is no separator belongs to the word that follows it. -/
theorem wordsBy_cons_cons {p : α → Bool} {c d : α} (own : p c = false) (next : p d = false) (t : List α) :
    wordsBy p (c :: d :: t) = (wordsBy p (d :: t)).modifyHead (c :: ·) := by
  obtain ⟨first,others,pieces⟩ := List.exists_cons_of_ne_nil (List.splitOnP_ne_nil p t)
  rw [wordsBy,wordsBy,List.splitOnP_cons_eq_if_modifyHead,List.splitOnP_cons_eq_if_modifyHead,own,next,pieces]
  rfl

theorem mem_splitOnP {p : α → Bool} {t w : List α} (piece : w ∈ t.splitOnP p) : ∀ c ∈ w, p c = false ∧ c ∈ t := by
  induction t generalizing w with
  | nil =>
    rw [List.splitOnP_nil,List.mem_singleton] at piece
    simp [piece]
  | cons d t ih =>
    rw [List.splitOnP_cons_eq_if_modifyHead] at piece
    obtain ⟨first,others,pieces⟩ := List.exists_cons_of_ne_nil (List.splitOnP_ne_nil p t)
    rw [pieces] at ih piece
    cases separates : p d with
    | true =>
      rw [if_pos separates,List.mem_cons] at piece
      rcases piece with rfl | piece
      · simp
      · exact fun c inside => ⟨(ih piece c inside).1,List.mem_cons_of_mem d (ih piece c inside).2⟩
    | false =>
      rw [if_neg (by simp [separates]),List.modifyHead_cons,List.mem_cons] at piece
      rcases piece with rfl | piece
      · intro c inside
        rcases List.mem_cons.mp inside with rfl | inside
        · exact ⟨separates,List.mem_cons_self⟩
        · have known := ih List.mem_cons_self c inside
          exact ⟨known.1,List.mem_cons_of_mem d known.2⟩
      · have known := ih (List.mem_cons_of_mem first piece)
        exact fun c inside => ⟨(known c inside).1,List.mem_cons_of_mem d (known c inside).2⟩

/-- A word is not empty and has no separator. -/
theorem mem_wordsBy {p : α → Bool} {t w : List α} (word : w ∈ wordsBy p t) :
    w ≠ [] ∧ ∀ c ∈ w, p c = false ∧ c ∈ t := by
  obtain ⟨piece,some⟩ := List.mem_filter.mp word
  exact ⟨by simpa using some,mem_splitOnP piece⟩

/-- Words that were joined are read back. -/
theorem wordsBy_intercalate {p : α → Bool} {c : α} (separates : p c = true) {ws : List (List α)}
    (words : ∀ w ∈ ws, w ≠ [] ∧ ∀ d ∈ w, p d = false) : wordsBy p ([c].intercalate ws) = ws := by
  induction ws with
  | nil => exact wordsBy_nil p
  | cons w ws ih =>
    have first := words w List.mem_cons_self
    have others := ih fun v inside => words v (List.mem_cons_of_mem w inside)
    cases ws with
    | nil => rw [List.intercalate_singleton,wordsBy_of_free first.1 first.2]
    | cons v vs =>
      rw [List.intercalate_cons_cons,List.append_assoc,List.singleton_append,wordsBy_append_cons separates,others,
        wordsBy_of_free first.1 first.2,List.singleton_append]

/-! ### Two separators -/

theorem splitOn_cons_eq [DecidableEq α] (a c : α) (t : List α) :
    (c :: t).splitOn a = if c = a then [] :: t.splitOn a else (t.splitOn a).modifyHead (c :: ·) := by
  simp only [List.splitOn_cons_eq_if_modifyHead,beq_iff_eq]

/-- What has no separator goes in front of the first piece. -/
theorem splitOn_append_left [DecidableEq α] {a : α} {x : List α} (free : a ∉ x) (t : List α) :
    (x ++ t).splitOn a = (t.splitOn a).modifyHead (x ++ ·) := by
  induction x with
  | nil =>
    rw [List.nil_append]
    cases t.splitOn a <;> rfl
  | cons c x ih =>
    rw [List.mem_cons,not_or] at free
    rw [List.cons_append,splitOn_cons_eq,if_neg (Ne.symm free.1),ih free.2]
    cases t.splitOn a <;> rfl

/-- What has no separator goes behind the last piece. -/
theorem splitOn_append_right [DecidableEq α] {a : α} (t : List α) {x : List α} (free : a ∉ x) :
    (t ++ x).splitOn a = (t.splitOn a).modify ((t.splitOn a).length - 1) (· ++ x) := by
  induction t with
  | nil => simp [List.splitOn_eq_singleton free]
  | cons c t ih =>
    obtain ⟨h,tl,cut⟩ := List.exists_cons_of_ne_nil (List.splitOn_ne_nil a t)
    rw [List.cons_append,splitOn_cons_eq,splitOn_cons_eq,ih,cut]
    by_cases isA : c = a
    · rw [if_pos isA,if_pos isA]
      rfl
    · rw [if_neg isA,if_neg isA]
      cases tl <;> rfl

/-- A row of pieces in front of some groups: its last piece joins the first of them. -/
def regroupRow : List β → List (List β) → List (List β)
  | [],groups => groups
  | [p],groups => groups.modifyHead (p :: ·)
  | p :: q :: row,groups => [p] :: regroupRow (q :: row) groups

/-- Rows of pieces as groups: a new group begins between two pieces of a row. -/
def regroup (rows : List (List β)) : List (List β) := rows.foldr regroupRow [[]]

theorem regroupRow_modifyHead (f : β → β) {row : List β} (some : row ≠ []) (groups : List (List β)) :
    regroupRow (row.modifyHead f) groups = (regroupRow row groups).modifyHead (List.modifyHead f) := by
  match row,some with
  | [p],_ => cases groups <;> rfl
  | p :: q :: row,_ => rfl

/-- Cutting at `a` and the pieces at `b` is cutting at `b` and the pieces at `a`, in groups. -/
theorem splitOn_map_splitOn [DecidableEq α] {a b : α} (other : a ≠ b) (t : List α) :
    (t.splitOn a).map (List.splitOn b) = regroup ((t.splitOn b).map (List.splitOn a)) := by
  induction t with
  | nil => rfl
  | cons c t ih =>
    obtain ⟨h,tl,atA⟩ := List.exists_cons_of_ne_nil (List.splitOn_ne_nil a t)
    obtain ⟨h',tl',atB⟩ := List.exists_cons_of_ne_nil (List.splitOn_ne_nil b t)
    rw [atA,atB,List.map_cons,List.map_cons] at ih
    rw [splitOn_cons_eq a,splitOn_cons_eq b,atA,atB]
    by_cases isA : c = a
    · obtain ⟨q,row,cut⟩ := List.exists_cons_of_ne_nil (List.splitOn_ne_nil a h')
      rw [if_pos isA,if_neg (isA ▸ other),List.map_cons,List.map_cons,ih,List.modifyHead_cons,List.map_cons,splitOn_cons_eq a,
        if_pos isA,cut]
      rfl
    · rw [if_neg isA,List.modifyHead_cons,List.map_cons,splitOn_cons_eq b]
      by_cases isB : c = b
      · rw [if_pos isB,if_pos isB,List.map_cons,List.map_cons]
        change _ = (regroup (List.splitOn a h' :: tl'.map (List.splitOn a))).modifyHead ([] :: ·)
        rw [← ih]
        rfl
      · rw [if_neg isB,if_neg isB,List.modifyHead_cons,List.map_cons,splitOn_cons_eq a,if_neg isA]
        change _ = regroupRow _ (regroup (tl'.map (List.splitOn a)))
        rw [regroupRow_modifyHead _ (List.splitOn_ne_nil a h')]
        change _ = (regroup (List.splitOn a h' :: tl'.map (List.splitOn a))).modifyHead _
        rw [← ih]
        rfl

theorem forall_modify {P : β → Prop} {f : β → β} {l : List β} (own : ∀ p ∈ l, P p) (changed : ∀ p ∈ l, P (f p)) (i : Nat) :
    ∀ p ∈ l.modify i f, P p := by
  induction l generalizing i with
  | nil => cases i <;> exact own
  | cons p l ih =>
    have rest : ∀ q ∈ l, P q := fun q inside => own q (List.mem_cons_of_mem p inside)
    cases i with
    | zero =>
      rw [List.modify_zero_cons]
      exact List.forall_mem_cons.mpr ⟨changed p List.mem_cons_self,rest⟩
    | succ i =>
      rw [List.modify_succ_cons]
      exact List.forall_mem_cons.mpr ⟨own p List.mem_cons_self,
        ih rest (fun q inside => changed q (List.mem_cons_of_mem p inside)) i⟩

/-- A change of one piece, seen through a map. -/
theorem map_modify_of {f : β → γ} {g : β → β} {h : γ → γ} {l : List β} (same : ∀ p ∈ l, f (g p) = h (f p)) (i : Nat) :
    (l.modify i g).map f = (l.map f).modify i h := by
  induction l generalizing i with
  | nil => cases i <;> rfl
  | cons p l ih =>
    cases i with
    | zero => simp [same p List.mem_cons_self]
    | succ i => simp [ih fun q inside => same q (List.mem_cons_of_mem p inside)]

theorem regroup_map (f : β → γ) (rows : List (List β)) :
    regroup (rows.map (List.map f)) = (regroup rows).map (List.map f) := by
  have rowMap (row : List β) (groups : List (List β)) :
      regroupRow (row.map f) (groups.map (List.map f)) = (regroupRow row groups).map (List.map f) := by
    induction row,groups using regroupRow.induct with
    | case1 => rfl
    | case2 p groups => cases groups <;> rfl
    | case3 p q row groups ih => exact congrArg ([f p] :: ·) ih
  induction rows with
  | nil => rfl
  | cons row rows ih =>
    change regroupRow (row.map f) (regroup (rows.map (List.map f))) = _
    rw [ih,rowMap]
    rfl

/-- Where the last piece of a row comes to stand: the group, and the place in it. -/
def place : List (List β) → Nat → Nat × Nat
  | [],_ => (0,0)
  | row :: _,0 => (row.length - 1,0)
  | row :: rest,i + 1 => (row.length - 1 + (place rest i).1,if (place rest i).1 = 0 then (place rest i).2 + 1 else (place rest i).2)

/-- A change of the last piece of a row is a change at its place. -/
theorem regroup_modify (f : β → β) {rows : List (List β)} (full : ∀ row ∈ rows, row ≠ []) {i : Nat} (inside : i < rows.length) :
    regroup (rows.modify i fun row => row.modify (row.length - 1) f)
      = (regroup rows).modify (place rows i).1 fun group => group.modify (place rows i).2 f := by
  have last (row : List β) (some : row ≠ []) (groups : List (List β)) :
      regroupRow (row.modify (row.length - 1) f) groups
        = (regroupRow row groups).modify (row.length - 1) fun group => group.modify 0 f := by
    induction row,groups using regroupRow.induct with
    | case1 => exact absurd rfl some
    | case2 p groups => cases groups <;> rfl
    | case3 p q row groups ih =>
      have rest := ih (List.cons_ne_nil q row)
      simp only [List.length_cons,Nat.add_sub_cancel,List.modify_succ_cons] at rest ⊢
      rw [regroupRow,List.modify_succ_cons,← rest]
      cases row <;> rfl
  have behind (k j : Nat) (row : List β) (some : row ≠ []) (groups : List (List β)) :
      regroupRow row (groups.modify k fun group => group.modify j f)
        = (regroupRow row groups).modify (row.length - 1 + k) fun group => group.modify (if k = 0 then j + 1 else j) f := by
    induction row,groups using regroupRow.induct with
    | case1 => exact absurd rfl some
    | case2 p groups =>
      cases groups with
      | nil => cases k <;> rfl
      | cons group groups =>
        cases k with
        | zero => rfl
        | succ k => simp [regroupRow]
    | case3 p q row groups ih =>
      have shifted : (p :: q :: row).length - 1 + k = (q :: row).length - 1 + k + 1 := by
        simp only [List.length_cons]
        omega
      rw [shifted]
      exact congrArg ([p] :: ·) (ih (List.cons_ne_nil q row))
  induction rows generalizing i with
  | nil => cases inside
  | cons row rows ih =>
    have own := full row List.mem_cons_self
    cases i with
    | zero => exact last row own (regroup rows)
    | succ i =>
      have rest := ih (fun other among => full other (List.mem_cons_of_mem row among)) (Nat.lt_of_succ_lt_succ inside)
      rw [List.modify_succ_cons]
      change regroupRow row (regroup (rows.modify i _)) = _
      rw [rest,behind _ _ row own]
      rfl

end FFWebHid.Separators
