import FFWebHid.Descriptor

/-!
What the collection tree lists. Every node that the builder makes hangs on a
root, so the tree lists just the reports that were put into nodes, and these
are the fields of each report that share their innermost collection.
-/
namespace FFWebHid.CollectionTrees
open FFWebHid.Types FFWebHid.Maps FFWebHid.Descriptor CollectionTreeBuilder

/-- The reports of one direction in a node. -/
def reportsOf (n : ColNode) : ReportType → List Report
  | .input => n.inputReports
  | .output => n.outputReports
  | .feature => n.featureReports

/-- A node hangs on a root, at some depth. -/
inductive Placed (b : CollectionTreeBuilder) : Nat → Nat → Prop where
  | root {id : Nat} : id ∈ b.rootIds → Placed b 0 id
  | child {depth parent id : Nat} {n : ColNode} : Placed b depth parent → b.nodes.lookup parent = some n →
      id ∈ n.children → Placed b (depth + 1) id

/-- Every node hangs on a root, at a depth below the number of nodes. -/
def Rooted (b : CollectionTreeBuilder) : Prop :=
  ∀ id ∈ b.nodes, ∃ depth < b.nodes.entries.length, Placed b depth id

/-- Some node has the report. -/
def Holds (b : CollectionTreeBuilder) (rt : ReportType) (x : Report) : Prop :=
  ∃ id n, b.nodes.lookup id = some n ∧ x ∈ reportsOf n rt

/-- Roots and children stay. -/
structure Extends (b later : CollectionTreeBuilder) : Prop where
  roots {id : Nat} : id ∈ b.rootIds → id ∈ later.rootIds
  children {id : Nat} {n : ColNode} : b.nodes.lookup id = some n →
    ∃ n', later.nodes.lookup id = some n' ∧ ∀ c ∈ n.children, c ∈ n'.children

theorem Placed.mono {b later : CollectionTreeBuilder} (extended : Extends b later) {depth id : Nat}
    (placed : Placed b depth id) : Placed later depth id := by
  induction placed with
  | root found => exact .root (extended.roots found)
  | child _ found inside ih =>
    obtain ⟨n',there,kept⟩ := extended.children found
    exact .child ih there (kept _ inside)

theorem length_insert {m : HashMap Nat ColNode} {id : Nat} {n : ColNode} (absent : id ∉ m) :
    (m.insert id n).entries.length = m.entries.length + 1 := by
  rw [AList.entries_insert_of_notMem absent,List.length_cons]

theorem length_modify (m : HashMap Nat ColNode) (id : Nat) (f : ColNode → ColNode) :
    (modify m id f).entries.length = m.entries.length := by
  unfold Maps.modify
  cases found : m.lookup id with
  | none => rfl
  | some n =>
    have present : id ∈ m.keys := mem_keys_iff_lookup.mpr ⟨n,found⟩
    have keys := congrArg List.length (AList.keys_insert (b := f n) (a := id) m)
    have some := List.length_pos_of_mem present
    rw [List.length_cons,List.length_erase_of_mem present] at keys
    simp only [AList.keys,List.keys,List.length_map] at keys some
    show (m.insert id (f n)).entries.length = _
    omega

theorem mem_modify {m : HashMap Nat ColNode} {id other : Nat} {f : ColNode → ColNode} :
    other ∈ modify m id f ↔ other ∈ m := by
  rw [mem_iff_lookup,mem_iff_lookup,lookup_modify]
  by_cases same : other = id
  · subst same
    simp
  · simp [same]

/-- A change to one node that leaves its children in place. -/
theorem extends_modify (b : CollectionTreeBuilder) (id : Nat) {f : ColNode → ColNode}
    (kept : ∀ n, ∀ c ∈ n.children, c ∈ (f n).children) : Extends b { b with nodes := modify b.nodes id f } where
  roots found := found
  children {other n} found := by
    rw [lookup_modify]
    by_cases same : other = id
    · subst same
      rw [if_pos rfl,found]
      exact ⟨f n,rfl,kept n⟩
    · rw [if_neg same]
      exact ⟨n,found,fun _ inside => inside⟩

theorem rooted_modify {b : CollectionTreeBuilder} (rooted : Rooted b) (id : Nat) {f : ColNode → ColNode}
    (kept : ∀ n, ∀ c ∈ n.children, c ∈ (f n).children) : Rooted { b with nodes := modify b.nodes id f } := by
  intro other found
  obtain ⟨depth,short,placed⟩ := rooted other (mem_modify.mp found)
  refine ⟨depth,?_,placed.mono (extends_modify b id kept)⟩
  show depth < (modify b.nodes id f).entries.length
  rwa [length_modify]

theorem rooted_insert {b : CollectionTreeBuilder} (rooted : Rooted b) {id : Nat} (absent : id ∉ b.nodes) (n : ColNode)
    (placed : ∃ depth ≤ b.nodes.entries.length, Placed b depth id) :
    Rooted { b with nodes := b.nodes.insert id n } := by
  have extended : Extends b { b with nodes := b.nodes.insert id n } := by
    refine ⟨fun found => found,?_⟩
    intro other old found
    refine ⟨old,?_,fun _ inside => inside⟩
    have differs : other ≠ id := by
      rintro rfl
      exact absent (mem_iff_lookup.mpr ⟨old,found⟩)
    rw [lookup_insert_eq,if_neg differs,found]
  intro other found
  show ∃ depth < (b.nodes.insert id n).entries.length, _
  rw [length_insert absent]
  rcases (AList.mem_insert _).mp found with rfl | there
  · obtain ⟨depth,short,hangs⟩ := placed
    exact ⟨depth,Nat.lt_succ_of_le short,hangs.mono extended⟩
  · obtain ⟨depth,short,hangs⟩ := rooted other there
    exact ⟨depth,Nat.lt_succ_of_lt short,hangs.mono extended⟩

/-- A new root. -/
theorem rooted_root {b : CollectionTreeBuilder} (rooted : Rooted b) (id : Nat) :
    Rooted { b with rootIds := b.rootIds ++ [id] } := by
  have extended : Extends b { b with rootIds := b.rootIds ++ [id] } :=
    ⟨fun there => List.mem_append_left _ there,fun there => ⟨_,there,fun _ inside => inside⟩⟩
  intro other found
  obtain ⟨depth,short,placed⟩ := rooted other found
  exact ⟨depth,short,placed.mono extended⟩

/-- A collection as a child of another one, if it is not yet. -/
def withChild (id : Nat) (n : ColNode) : ColNode :=
  if id ∈ n.children then n else { n with children := n.children ++ [id] }

theorem children_withChild (id : Nat) (n : ColNode) (c : Nat) : c ∈ (withChild id n).children ↔ c ∈ n.children ∨ c = id := by
  unfold withChild
  split
  · rename_i there
    constructor
    · exact .inl
    · rintro (kept | rfl)
      · exact kept
      · exact there
  · simp

/-- The node of a new collection. -/
def nodeOf (col : HidCollection) : ColNode :=
  { collectionType := col.collectionType
    usagePage := col.usages.head?.map (·.usagePage)
    usage := col.usages.head?.map (·.usageId) }

/-- A new collection below its predecessor in the chain, or as a root. -/
def hang (b : CollectionTreeBuilder) (parent : Option HidCollection) (col : HidCollection) : CollectionTreeBuilder :=
  match parent with
  | none => { rootIds := b.rootIds ++ [col.id],nodes := b.nodes.insert col.id (nodeOf col) }
  | some p => { b with nodes := (Maps.modify b.nodes p.id (withChild col.id)).insert col.id (nodeOf col) }

theorem ensureFrom_cons (b : CollectionTreeBuilder) (parent : Option HidCollection) (col : HidCollection)
    (rest : List HidCollection) :
    ensureFrom b parent (col :: rest) = ensureFrom (if col.id ∈ b.nodes then b else hang b parent col) (some col) rest := by
  conv_lhs => unfold ensureFrom
  split
  · rfl
  · cases parent <;> rfl

/-- The predecessor in the chain has a node. -/
def Known (b : CollectionTreeBuilder) (parent : Option HidCollection) : Prop := ∀ p, parent = some p → p.id ∈ b.nodes

theorem rooted_hang {b : CollectionTreeBuilder} (rooted : Rooted b) {parent : Option HidCollection}
    (known : Known b parent) {col : HidCollection} (absent : col.id ∉ b.nodes) : Rooted (hang b parent col) := by
  cases parent with
  | none =>
    refine rooted_insert (rooted_root rooted col.id) absent (nodeOf col) ⟨0,Nat.zero_le _,.root ?_⟩
    exact List.mem_append_right _ (List.mem_singleton_self _)
  | some p =>
    have kept (n : ColNode) (c : Nat) (inside : c ∈ n.children) : c ∈ (withChild col.id n).children :=
      (children_withChild col.id n c).mpr (.inl inside)
    obtain ⟨n,found⟩ := mem_iff_lookup.mp (known p rfl)
    obtain ⟨depth,short,placed⟩ := rooted p.id (known p rfl)
    refine rooted_insert (rooted_modify rooted p.id kept) (mt mem_modify.mp absent) (nodeOf col) ⟨depth + 1,?_,?_⟩
    · show depth + 1 ≤ (Maps.modify b.nodes p.id (withChild col.id)).entries.length
      rwa [length_modify]
    · have linked : (Maps.modify b.nodes p.id (withChild col.id)).lookup p.id = some (withChild col.id n) := by
        rw [lookup_modify,if_pos rfl,found]
        rfl
      exact .child (placed.mono (extends_modify b p.id kept)) linked ((children_withChild _ _ _).mpr (.inr rfl))

theorem mem_hang {b : CollectionTreeBuilder} {parent : Option HidCollection} {col : HidCollection} {id : Nat} :
    id ∈ (hang b parent col).nodes ↔ id = col.id ∨ id ∈ b.nodes := by
  cases parent with
  | none => exact AList.mem_insert _
  | some p =>
    refine (AList.mem_insert _).trans ?_
    rw [mem_modify]

theorem mem_ensureFrom {b : CollectionTreeBuilder} {parent : Option HidCollection} {chain : List HidCollection}
    {id : Nat} : id ∈ (ensureFrom b parent chain).nodes ↔ id ∈ b.nodes ∨ ∃ col ∈ chain, col.id = id := by
  induction chain generalizing b parent with
  | nil => simp [ensureFrom]
  | cons col rest ih =>
    rw [ensureFrom_cons,ih,List.exists_mem_cons_iff]
    split
    · rename_i there
      grind
    · rw [mem_hang]
      grind

theorem rooted_ensureFrom {b : CollectionTreeBuilder} (rooted : Rooted b) {parent : Option HidCollection}
    (known : Known b parent) (chain : List HidCollection) : Rooted (ensureFrom b parent chain) := by
  induction chain generalizing b parent with
  | nil => exact rooted
  | cons col rest ih =>
    rw [ensureFrom_cons]
    split
    · rename_i there
      exact ih rooted (by rintro p ⟨⟩; exact there)
    · rename_i absent
      exact ih (rooted_hang rooted known absent) (by rintro p ⟨⟩; exact mem_hang.mpr (.inl rfl))

/-- A change to one node adds a report, if the node is there, and drops none. -/
theorem holds_modify (b : CollectionTreeBuilder) (id : Nat) {f : ColNode → ColNode} {rt : ReportType}
    {P : Report → Prop} (changed : ∀ n x, x ∈ reportsOf (f n) rt ↔ x ∈ reportsOf n rt ∨ P x) (x : Report) :
    Holds { b with nodes := Maps.modify b.nodes id f } rt x ↔ Holds b rt x ∨ id ∈ b.nodes ∧ P x := by
  constructor
  · rintro ⟨other,n,found,inside⟩
    change (Maps.modify b.nodes id f).lookup other = some n at found
    rw [lookup_modify] at found
    by_cases same : other = id
    · rw [if_pos same] at found
      obtain ⟨old,there,rfl⟩ := Option.map_eq_some_iff.mp found
      rcases (changed old x).mp inside with kept | new
      · exact .inl ⟨id,old,there,kept⟩
      · exact .inr ⟨mem_iff_lookup.mpr ⟨old,there⟩,new⟩
    · rw [if_neg same] at found
      exact .inl ⟨other,n,found,inside⟩
  · have at_id {n : ColNode} (found : b.nodes.lookup id = some n) (inside : x ∈ reportsOf (f n) rt) :
        Holds { b with nodes := Maps.modify b.nodes id f } rt x := by
      refine ⟨id,f n,?_,inside⟩
      show (Maps.modify b.nodes id f).lookup id = _
      rw [lookup_modify,if_pos rfl,found]
      rfl
    rintro (⟨other,n,found,inside⟩ | ⟨present,new⟩)
    · by_cases same : other = id
      · subst same
        exact at_id found ((changed n x).mpr (.inl inside))
      · refine ⟨other,n,?_,inside⟩
        show (Maps.modify b.nodes id f).lookup other = _
        rw [lookup_modify,if_neg same,found]
    · obtain ⟨n,found⟩ := mem_iff_lookup.mp present
      exact at_id found ((changed n x).mpr (.inr new))

theorem holds_insert {b : CollectionTreeBuilder} {id : Nat} (absent : id ∉ b.nodes) {n : ColNode} {rt : ReportType}
    (none : reportsOf n rt = []) (roots : List Nat) (x : Report) :
    Holds { rootIds := roots,nodes := b.nodes.insert id n } rt x ↔ Holds b rt x := by
  constructor
  · rintro ⟨other,found,there,inside⟩
    change (b.nodes.insert id n).lookup other = some found at there
    rw [lookup_insert_eq] at there
    split at there
    · cases there
      rw [none] at inside
      cases inside
    · exact ⟨other,found,there,inside⟩
  · rintro ⟨other,found,there,inside⟩
    refine ⟨other,found,?_,inside⟩
    have differs : other ≠ id := by
      rintro rfl
      exact absent (mem_iff_lookup.mpr ⟨found,there⟩)
    show (b.nodes.insert id n).lookup other = some found
    rw [lookup_insert_eq,if_neg differs,there]

theorem reportsOf_nodeOf (col : HidCollection) (rt : ReportType) : reportsOf (nodeOf col) rt = [] := by
  cases rt <;> rfl

theorem reportsOf_withChild (id : Nat) (n : ColNode) (rt : ReportType) :
    reportsOf (withChild id n) rt = reportsOf n rt := by
  unfold withChild
  split
  · rfl
  · cases rt <;> rfl

theorem holds_hang {b : CollectionTreeBuilder} {parent : Option HidCollection} {col : HidCollection}
    (absent : col.id ∉ b.nodes) (rt : ReportType) (x : Report) : Holds (hang b parent col) rt x ↔ Holds b rt x := by
  cases parent with
  | none => exact holds_insert absent (reportsOf_nodeOf col rt) _ x
  | some p =>
    refine (holds_insert (b := { b with nodes := Maps.modify b.nodes p.id (withChild col.id) })
      (mt mem_modify.mp absent) (reportsOf_nodeOf col rt) _ x).trans ?_
    have kept (n : ColNode) (x : Report) : x ∈ reportsOf (withChild col.id n) rt ↔ x ∈ reportsOf n rt ∨ False := by
      rw [reportsOf_withChild,or_false]
    rw [holds_modify b p.id kept,and_false,or_false]

theorem holds_ensureFrom (b : CollectionTreeBuilder) (parent : Option HidCollection) (chain : List HidCollection)
    (rt : ReportType) (x : Report) : Holds (ensureFrom b parent chain) rt x ↔ Holds b rt x := by
  induction chain generalizing b parent with
  | nil => rw [ensureFrom]
  | cons col rest ih =>
    rw [ensureFrom_cons,ih]
    split
    · rfl
    · rename_i absent
      exact holds_hang absent rt x

/-- The innermost collection of a field, by its chain. -/
def homeOf (placed : HidField × List HidCollection) : Option Nat := placed.2.getLast?.map (·.id)

/-- The fields whose innermost collection is a certain one, in their order. -/
def fieldsIn (fields : List (HidField × List HidCollection)) (key : Nat) : List HidField :=
  (fields.filter (homeOf · = some key)).map (·.1)

theorem fieldsIn_append (done : List (HidField × List HidCollection)) (next : HidField × List HidCollection)
    (key : Nat) :
    fieldsIn (done ++ [next]) key = fieldsIn done key ++ if homeOf next = some key then [next.1] else [] := by
  unfold fieldsIn
  rw [List.filter_append,List.map_append]
  by_cases home : homeOf next = some key
  · simp [home]
  · simp [home]

theorem mem_addToBucket (buckets : List (Nat × List HidField)) (home : Nat) (field : HidField) (key : Nat)
    (fields : List HidField) :
    (key,fields) ∈ addToBucket buckets home field ↔ (key ≠ home ∧ (key,fields) ∈ buckets) ∨
      (key = home ∧ ((∃ old, (home,old) ∈ buckets ∧ fields = old ++ [field]) ∨
        (∀ old, (home,old) ∉ buckets) ∧ fields = [field])) := by
  unfold addToBucket
  by_cases present : buckets.any (·.1 == home)
  · obtain ⟨⟨k,old⟩,there,same⟩ := List.any_eq_true.mp present
    obtain rfl : k = home := by simpa using same
    rw [if_pos present]
    simp only [List.mem_map,Prod.exists]
    constructor
    · rintro ⟨k',old',found,made⟩
      split at made
      · rename_i hit
        subst hit
        cases made
        exact .inr ⟨rfl,.inl ⟨old',found,rfl⟩⟩
      · rename_i other
        cases made
        exact .inl ⟨other,found⟩
    · rintro (⟨other,found⟩ | ⟨rfl,⟨old',found,rfl⟩ | ⟨absent,-⟩⟩)
      · exact ⟨key,fields,found,by rw [if_neg other]⟩
      · exact ⟨key,old',found,by rw [if_pos rfl]⟩
      · exact absurd there (absent old)
  · have absent : ∀ old, (home,old) ∉ buckets := by
      intro old there
      exact present (List.any_eq_true.mpr ⟨_,there,beq_self_eq_true home⟩)
    rw [if_neg present,List.mem_append,List.mem_singleton,Prod.mk.injEq]
    constructor
    · rintro (there | ⟨rfl,rfl⟩)
      · refine .inl ⟨?_,there⟩
        rintro rfl
        exact absent _ there
      · exact .inr ⟨rfl,.inr ⟨absent,rfl⟩⟩
    · rintro (⟨-,there⟩ | ⟨rfl,⟨old,there,-⟩ | ⟨-,rfl⟩⟩)
      · exact .inl there
      · exact absurd there (absent old)
      · exact .inr ⟨rfl,rfl⟩

/-- What the fields of a report leave behind: their collections in the tree, and a bucket
    for each collection that is the innermost of some field. -/
structure Entered (b : CollectionTreeBuilder) (done : List (HidField × List HidCollection))
    (acc : CollectionTreeBuilder × List (Nat × List HidField)) : Prop where
  rooted : Rooted acc.1
  holds (rt : ReportType) (x : Report) : Holds acc.1 rt x ↔ Holds b rt x
  homes : ∀ placed ∈ done, ∀ key, homeOf placed = some key → key ∈ acc.1.nodes
  filed (key : Nat) (fields : List HidField) : (key,fields) ∈ acc.2 ↔ fields = fieldsIn done key ∧ fields ≠ []

theorem Entered.addField {b : CollectionTreeBuilder} {done : List (HidField × List HidCollection)}
    {acc : CollectionTreeBuilder × List (Nat × List HidField)} (entered : Entered b done acc)
    (next : HidField × List HidCollection) : Entered b (done ++ [next]) (addField acc next) := by
  unfold CollectionTreeBuilder.addField
  cases found : next.2.getLast? with
  | none =>
    have home : homeOf next = none := by rw [homeOf,found]; rfl
    refine ⟨entered.rooted,entered.holds,?_,?_⟩
    · intro placed inside key there
      rcases List.mem_append.mp inside with old | new
      · exact entered.homes placed old key there
      · rw [List.mem_singleton.mp new,home] at there
        cases there
    · intro key fields
      rw [fieldsIn_append,home]
      simpa using entered.filed key fields
  | some last =>
    have home : homeOf next = some last.id := by rw [homeOf,found]; rfl
    refine ⟨rooted_ensureFrom entered.rooted (by rintro p ⟨⟩) _,?_,?_,?_⟩
    · intro rt x
      exact (holds_ensureFrom _ _ _ rt x).trans (entered.holds rt x)
    · intro placed inside key there
      refine mem_ensureFrom.mpr ?_
      rcases List.mem_append.mp inside with old | new
      · exact .inl (entered.homes placed old key there)
      · rw [List.mem_singleton.mp new,home] at there
        cases there
        exact .inr ⟨last,List.mem_of_getLast? found,rfl⟩
    · intro key fields
      have filed := entered.filed
      rw [mem_addToBucket,fieldsIn_append,home]
      simp only [Option.some.injEq]
      by_cases same : key = last.id
      · subst same
        simp only [ne_eq,not_true_eq_false,false_and,true_and,false_or,if_true,filed]
        by_cases empty : fieldsIn done last.id = []
        · simp +contextual [empty]
        · simp +contextual [empty]
      · simp [same,Ne.symm same,filed]

/-- A bucket has fields, and its collection has a node. -/
theorem Entered.present {b : CollectionTreeBuilder} {done : List (HidField × List HidCollection)}
    {acc : CollectionTreeBuilder × List (Nat × List HidField)} (entered : Entered b done acc) :
    ∀ bucket ∈ acc.2, bucket.1 ∈ acc.1.nodes ∧ bucket.2 ≠ [] := by
  rintro ⟨key,fields⟩ inside
  obtain ⟨same,some⟩ := (entered.filed key fields).mp inside
  refine ⟨?_,some⟩
  rw [same] at some
  obtain ⟨field,there⟩ := List.exists_mem_of_ne_nil _ some
  obtain ⟨placed,kept,-⟩ := List.mem_map.mp there
  exact entered.homes placed (List.mem_filter.mp kept).1 key (by simpa using (List.mem_filter.mp kept).2)

theorem entered_foldl {b : CollectionTreeBuilder} {done : List (HidField × List HidCollection)}
    {acc : CollectionTreeBuilder × List (Nat × List HidField)} (entered : Entered b done acc)
    (fields : List (HidField × List HidCollection)) : Entered b (done ++ fields) (fields.foldl addField acc) := by
  induction fields generalizing done acc with
  | nil => rwa [List.append_nil]
  | cons next rest ih =>
    rw [List.foldl_cons,← List.append_cons done next rest |>.symm]
    exact ih (entered.addField next)

/-! ### The reports of a descriptor -/

/-- The fields of a report with the chains that they take. -/
def chained (report : HidReport) : List (HidField × List HidCollection) := resolveChains [] report.fields

theorem entered_chained {b : CollectionTreeBuilder} (rooted : Rooted b) (report : HidReport) :
    Entered b (chained report) ((chained report).foldl addField (b,[])) := by
  have start : Entered b [] (b,[]) := ⟨rooted,fun _ _ => Iff.rfl,by simp,by simp [fieldsIn]⟩
  have entered := entered_foldl start (chained report)
  rwa [List.nil_append] at entered

theorem chained_fields (before fields : List HidField) : (resolveChains before fields).map (·.1) = fields := by
  induction fields generalizing before with
  | nil => rfl
  | cons field rest ih => rw [resolveChains,List.map_cons,ih]

theorem fieldsIn_sublist (report : HidReport) (key : Nat) : (fieldsIn (chained report) key).Sublist report.fields := by
  have part := (List.filter_sublist (p := (homeOf · = some key)) (l := chained report)).map (·.1)
  rwa [chained,chained_fields] at part

/-- A report of the tree: the fields of a descriptor's report that share an innermost collection. -/
def Listed (report : HidReport) (x : Report) : Prop :=
  ∃ key, fieldsIn (chained report) key ≠ [] ∧ x = ⟨report.rid,convertFieldsAggregate (fieldsIn (chained report) key)⟩

theorem convertFrom_ne_nil (run : Option VariableRun) (fields : List HidField) (some : run.isSome ∨ fields ≠ []) :
    convertFrom run fields ≠ [] := by
  induction fields generalizing run with
  | nil =>
    obtain open_ | empty := some
    · obtain ⟨r,rfl⟩ := Option.isSome_iff_exists.mp open_
      simp [convertFrom]
    · exact absurd rfl empty
  | cons field rest ih =>
    rcases field with v | a | c
    · cases run with
      | none => exact ih _ (.inl rfl)
      | some r =>
        rw [convertFrom]
        split
        · exact ih _ (.inl rfl)
        · exact List.cons_ne_nil _ _
    · simp [convertFrom]
    · simp [convertFrom]

theorem children_addReport (n : ColNode) (report : Report) (rt : ReportType) :
    (ColNode.addReport n report rt).children = n.children := by
  cases rt <;> rfl

theorem mem_addReport (n : ColNode) (report : Report) (dir rt : ReportType) (x : Report) :
    x ∈ reportsOf (ColNode.addReport n report dir) rt ↔ x ∈ reportsOf n rt ∨ dir = rt ∧ x = report := by
  cases dir <;> cases rt <;> simp [reportsOf,ColNode.addReport]

/-- The bucket of a collection that has a node becomes a report of that node. -/
theorem addBucket_spec {b : CollectionTreeBuilder} (rooted : Rooted b) (report : HidReport) (dir : ReportType)
    {bucket : Nat × List HidField} (present : bucket.1 ∈ b.nodes) (some : bucket.2 ≠ []) :
    Rooted (addBucket report dir b bucket) ∧ (∀ id, id ∈ (addBucket report dir b bucket).nodes ↔ id ∈ b.nodes) ∧
      ∀ rt x, Holds (addBucket report dir b bucket) rt x ↔
        Holds b rt x ∨ dir = rt ∧ x = ⟨report.rid,convertFieldsAggregate bucket.2⟩ := by
  have items : convertFieldsAggregate bucket.2 ≠ [] := convertFrom_ne_nil none bucket.2 (.inr some)
  unfold addBucket
  dsimp only
  rw [if_neg items]
  refine ⟨rooted_modify rooted _ ?_,fun id => mem_modify,?_⟩
  · intro n c inside
    rwa [children_addReport]
  · intro rt x
    refine (holds_modify b bucket.1 (fun n x => mem_addReport n _ dir rt x) x).trans ?_
    rw [and_iff_right present]

theorem foldl_addBucket {b : CollectionTreeBuilder} (rooted : Rooted b) (report : HidReport) (dir : ReportType)
    {buckets : List (Nat × List HidField)} (present : ∀ bucket ∈ buckets, bucket.1 ∈ b.nodes ∧ bucket.2 ≠ []) :
    Rooted (buckets.foldl (addBucket report dir) b) ∧
      ∀ rt x, Holds (buckets.foldl (addBucket report dir) b) rt x ↔
        Holds b rt x ∨ dir = rt ∧ ∃ bucket ∈ buckets, x = ⟨report.rid,convertFieldsAggregate bucket.2⟩ := by
  induction buckets generalizing b with
  | nil => simp [rooted]
  | cons bucket rest ih =>
    obtain ⟨there,some⟩ := present bucket (by simp)
    obtain ⟨kept,same,holds⟩ := addBucket_spec rooted report dir there some
    obtain ⟨after,found⟩ := ih kept (fun next inside =>
      ⟨(same _).mpr (present next (List.mem_cons_of_mem _ inside)).1,
        (present next (List.mem_cons_of_mem _ inside)).2⟩)
    refine ⟨after,fun rt x => ?_⟩
    rw [List.foldl_cons,found,holds,List.exists_mem_cons_iff]
    grind

/-- A report of the descriptor adds its parts to the tree, one for each innermost collection. -/
theorem addReport_spec {b : CollectionTreeBuilder} (rooted : Rooted b) (dir : ReportType) (report : HidReport) :
    Rooted (addReport dir b report) ∧
      ∀ rt x, Holds (addReport dir b report) rt x ↔ Holds b rt x ∨ dir = rt ∧ Listed report x := by
  have entered := entered_chained rooted report
  obtain ⟨after,holds⟩ := foldl_addBucket entered.rooted report dir entered.present
  refine ⟨after,fun rt x => ?_⟩
  refine (holds rt x).trans ?_
  rw [entered.holds]
  refine or_congr_right (and_congr_right fun _ => ?_)
  constructor
  · rintro ⟨⟨key,fields⟩,inside,rfl⟩
    obtain ⟨rfl,some⟩ := (entered.filed key fields).mp inside
    exact ⟨key,some,rfl⟩
  · rintro ⟨key,some,rfl⟩
    exact ⟨(key,_),(entered.filed key _).mpr ⟨rfl,some⟩,rfl⟩

theorem foldl_addReport {b : CollectionTreeBuilder} (rooted : Rooted b) (dir : ReportType) (reports : List HidReport) :
    Rooted (reports.foldl (addReport dir) b) ∧
      ∀ rt x, Holds (reports.foldl (addReport dir) b) rt x ↔
        Holds b rt x ∨ dir = rt ∧ ∃ report ∈ reports, Listed report x := by
  induction reports generalizing b with
  | nil => simp [rooted]
  | cons report rest ih =>
    obtain ⟨kept,holds⟩ := addReport_spec rooted dir report
    obtain ⟨after,found⟩ := ih kept
    refine ⟨after,fun rt x => ?_⟩
    rw [List.foldl_cons,found,holds,List.exists_mem_cons_iff]
    grind

theorem mem_listedReports {rt : ReportType} {x : Report} {cs : List Collection} :
    x ∈ listedReports rt cs ↔ ∃ c ∈ cs, x ∈ c.listed rt := by
  induction cs with
  | nil => simp [listedReports]
  | cons first rest ih => rw [listedReports,List.mem_append,ih,List.exists_mem_cons_iff]

theorem mem_listed {rt : ReportType} {x : Report} {c : Collection} :
    x ∈ c.listed rt ↔ x ∈ c.reports rt ∨ ∃ child ∈ c.children, x ∈ child.listed rt := by
  obtain ⟨ct,up,u,children,i,o,f⟩ := c
  rw [Collection.listed,List.mem_append,mem_listedReports]

/-- What a node lists: its own reports, and those of its children. -/
theorem buildNode_listed {b : CollectionTreeBuilder} {id : Nat} {n : ColNode} (found : b.nodes.lookup id = some n)
    (depth : Nat) (rt : ReportType) (x : Report) :
    ∃ c, b.buildNode (depth + 1) id = some c ∧
      (x ∈ c.listed rt ↔ x ∈ reportsOf n rt ∨
        ∃ child ∈ n.children, ∃ below, b.buildNode depth child = some below ∧ x ∈ below.listed rt) := by
  refine ⟨_,by rw [buildNode,found]; rfl,?_⟩
  rw [mem_listed]
  simp only [List.mem_filterMap]
  refine or_congr ?_ ?_
  · cases rt <;> rfl
  · constructor
    · rintro ⟨below,⟨child,inside,built⟩,listed⟩
      exact ⟨child,inside,below,built,listed⟩
    · rintro ⟨child,inside,below,built,listed⟩
      exact ⟨below,⟨child,inside,built⟩,listed⟩

theorem holds_of_buildNode {b : CollectionTreeBuilder} {rt : ReportType} {x : Report} {depth id : Nat} {c : Collection}
    (built : b.buildNode depth id = some c) (listed : x ∈ c.listed rt) : Holds b rt x := by
  induction depth generalizing id c with
  | zero => cases built
  | succ depth ih =>
    cases found : b.nodes.lookup id with
    | none =>
      rw [buildNode,found] at built
      cases built
    | some n =>
      obtain ⟨c',same,reads⟩ := buildNode_listed found depth rt x
      obtain rfl : c = c' := Option.some.inj (built.symm.trans same)
      rcases reads.mp listed with own | ⟨child,-,below,made,there⟩
      · exact ⟨id,n,found,own⟩
      · exact ih made there

/-- What a node lists, the roots list that much further up. -/
theorem listed_of_placed {b : CollectionTreeBuilder} {rt : ReportType} {x : Report} {depth id : Nat}
    (placed : Placed b depth id) {rest : Nat} {c : Collection} (built : b.buildNode rest id = some c)
    (listed : x ∈ c.listed rt) : x ∈ listedReports rt (b.rootIds.filterMap (b.buildNode (rest + depth))) := by
  induction placed generalizing rest c with
  | root found => exact mem_listedReports.mpr ⟨c,List.mem_filterMap.mpr ⟨_,found,built⟩,listed⟩
  | child above found inside ih =>
    obtain ⟨up,made,reads⟩ := buildNode_listed found rest rt x
    have later := ih made (reads.mpr (.inr ⟨_,inside,c,built,listed⟩))
    rwa [Nat.add_right_comm] at later

/-- The tree lists what its nodes have. -/
theorem listed_build {b : CollectionTreeBuilder} (rooted : Rooted b) (rt : ReportType) (x : Report) :
    x ∈ listedReports rt b.build ↔ Holds b rt x := by
  have forest : x ∈ listedReports rt (b.rootIds.filterMap (b.buildNode b.nodes.entries.length)) ↔ Holds b rt x := by
    constructor
    · intro listed
      obtain ⟨c,inside,there⟩ := mem_listedReports.mp listed
      obtain ⟨id,-,built⟩ := List.mem_filterMap.mp inside
      exact holds_of_buildNode built there
    · rintro ⟨id,n,found,inside⟩
      obtain ⟨depth,short,placed⟩ := rooted id (mem_iff_lookup.mpr ⟨n,found⟩)
      obtain ⟨rest,whole⟩ := Nat.exists_eq_add_of_lt short
      obtain ⟨c,built,reads⟩ := buildNode_listed found rest rt x
      have listed := listed_of_placed placed built (reads.mpr (.inl inside))
      rwa [show rest + 1 + depth = b.nodes.entries.length by omega] at listed
  rw [build]
  split
  · rename_i empty
    rw [empty] at forest
    rw [← forest]
    cases rt <;> simp [listedReports,Collection.listed,Collection.reports]
  · exact forest

/-- The tree of a descriptor lists, for every report, the fields of each innermost
    collection as a report of their own. -/
theorem listed_collectionsOf (rdesc : ReportDescriptor) (rt : ReportType) (x : Report) :
    x ∈ listedReports rt (collectionsOf rdesc) ↔ ∃ report ∈ rdesc.reports rt, Listed report x := by
  have empty : Rooted {} := by
    intro id found
    exact absurd found (AList.notMem_empty id)
  have none (rt : ReportType) (x : Report) : ¬ Holds {} rt x := by
    rintro ⟨id,n,found,-⟩
    change (∅ : HashMap Nat ColNode).lookup id = some n at found
    rw [lookup_empty] at found
    cases found
  obtain ⟨inputs,heldInputs⟩ := foldl_addReport empty .input rdesc.inputReports
  obtain ⟨outputs,heldOutputs⟩ := foldl_addReport inputs .output rdesc.outputReports
  obtain ⟨features,heldFeatures⟩ := foldl_addReport outputs .feature rdesc.featureReports
  unfold collectionsOf
  rw [listed_build features,heldFeatures,heldOutputs,heldInputs]
  cases rt <;> simp [ReportDescriptor.reports,none]

end FFWebHid.CollectionTrees
