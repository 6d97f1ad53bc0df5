import FFWebHid.ChainForests
import FFWebHid.CollectionTrees

/-!
The collection tree loses nothing. When every identifier stands for one collection
in one place, the tree is the forest of the chains of all fields, and each field is
in one report of the node of its innermost collection.
-/
namespace FFWebHid.LosslessTrees
open FFWebHid.Types FFWebHid.Maps FFWebHid.Descriptor FFWebHid.CollectionTrees FFWebHid.ChainForests
open CollectionTreeBuilder

/-- An identifier stands for one collection, in one place. -/
def Nested (chains : List (List HidCollection)) : Prop :=
  ∀ above col above' col', Seen chains (above ++ [col]) → Seen chains (above' ++ [col']) → col.id = col'.id →
    above = above' ∧ col = col'

theorem Nested.mono {chains more : List (List HidCollection)} (nested : Nested more)
    (within : ∀ path, Seen chains path → Seen more path) : Nested chains :=
  fun above col above' col' here there => nested above col above' col' (within _ here) (within _ there)

/-- Nested chains, by the beginnings of the chains. -/
theorem nested_iff (chains : List (List HidCollection)) : Nested chains ↔
    ∀ path ∈ chains.flatMap List.inits, ∀ other ∈ chains.flatMap List.inits,
      path ≠ [] → path.getLast?.map (·.id) = other.getLast?.map (·.id) → path = other := by
  simp only [mem_flatMap_inits]
  constructor
  · intro nested path seen other seen' filled same
    obtain ⟨above,col,rfl⟩ := (List.eq_nil_or_concat' path).resolve_left filled
    rw [List.getLast?_concat] at same
    rcases List.eq_nil_or_concat' other with rfl | ⟨above',col',rfl⟩
    · cases same
    · rw [List.getLast?_concat] at same
      obtain ⟨rfl,rfl⟩ := nested above col above' col' seen seen' (Option.some.inj same)
      rfl
  · intro unique above col above' col' seen seen' same
    have equal := unique _ seen _ seen' (by simp) (by simp [same])
    exact ⟨(List.append_inj' equal rfl).1,List.singleton_inj.mp (List.append_inj' equal rfl).2⟩

instance (chains : List (List HidCollection)) : Decidable (Nested chains) := decidable_of_iff _ (nested_iff chains).symm

/-- The node of a collection, with what follows it in the chains as its children. -/
def nodeAt (chains : List (List HidCollection)) (reports : Nat → ReportType → List Report) (above : List HidCollection)
    (col : HidCollection) : ColNode :=
  { nodeOf col with
    children := (nextIn chains (above ++ [col])).map (·.id)
    inputReports := reports col.id .input
    outputReports := reports col.id .output
    featureReports := reports col.id .feature }

/-- The builder has the nodes of the chains and their reports, and no others. -/
structure Built (chains : List (List HidCollection)) (reports : Nat → ReportType → List Report)
    (b : CollectionTreeBuilder) : Prop where
  roots : b.rootIds = (nextIn chains []).map (·.id)
  nodes : ∀ above col, Seen chains (above ++ [col]) → b.nodes.lookup col.id = some (nodeAt chains reports above col)
  only : ∀ id ∈ b.nodes, ∃ above col, Seen chains (above ++ [col]) ∧ col.id = id
  unused : ∀ id, id ∉ b.nodes → ∀ rt, reports id rt = []

theorem Built.mem {chains : List (List HidCollection)} {reports : Nat → ReportType → List Report}
    {b : CollectionTreeBuilder} (built : Built chains reports b) {above : List HidCollection} {col : HidCollection}
    (seen : Seen chains (above ++ [col])) : col.id ∈ b.nodes := mem_iff_lookup.mpr ⟨_,built.nodes above col seen⟩

/-- Chains that describe the same forest. -/
theorem Built.congr {chains others : List (List HidCollection)} {reports : Nat → ReportType → List Report}
    {b : CollectionTreeBuilder} (built : Built chains reports b) (next : ∀ path, nextIn others path = nextIn chains path)
    (seen : ∀ above col, Seen others (above ++ [col]) ↔ Seen chains (above ++ [col])) : Built others reports b where
  roots := (next []) ▸ built.roots
  nodes above col found := by
    rw [built.nodes above col ((seen above col).mp found)]
    simp only [nodeAt,next]
  only id inside := by
    obtain ⟨above,col,found,same⟩ := built.only id inside
    exact ⟨above,col,(seen above col).mpr found,same⟩
  unused := built.unused

theorem seen_longer {chains : List (List HidCollection)} {done path : List HidCollection} {col : HidCollection} :
    Seen (chains ++ [done ++ [col]]) path ↔ path = done ++ [col] ∨ Seen (chains ++ [done]) path := by
  rw [seen_append,seen_singleton,seen_append,seen_singleton,List.prefix_concat_iff]
  tauto

theorem lookup_hang (b : CollectionTreeBuilder) (parent : Option HidCollection) (col : HidCollection) (id : Nat) :
    (hang b parent col).nodes.lookup id =
      if id = col.id then some (nodeOf col)
      else if parent.map (·.id) = some id then (b.nodes.lookup id).map (withChild col.id) else b.nodes.lookup id := by
  cases parent with
  | none => exact lookup_insert_eq _ _ _ _
  | some p =>
    refine (lookup_insert_eq _ _ _ _).trans ?_
    rw [lookup_modify]
    by_cases own : id = p.id
    · subst own
      simp
    · have apart : some p.id ≠ some id := fun same => own (Option.some.inj same).symm
      rw [Option.map_some,if_neg own,if_neg apart]

theorem rootIds_hang (b : CollectionTreeBuilder) (parent : Option HidCollection) (col : HidCollection) :
    (hang b parent col).rootIds = if parent = none then b.rootIds ++ [col.id] else b.rootIds := by
  cases parent <;> rfl

/-- The first new collection of a chain. -/
theorem Built.hang {chains : List (List HidCollection)} {reports : Nat → ReportType → List Report}
    {b : CollectionTreeBuilder} {done : List HidCollection} {col : HidCollection} (built : Built (chains ++ [done]) reports b)
    (nested : Nested (chains ++ [done ++ [col]])) (absent : col.id ∉ b.nodes) :
    Built (chains ++ [done ++ [col]]) reports (hang b done.getLast? col) := by
  have unseen : ¬ Seen (chains ++ [done]) (done ++ [col]) := fun seen => absent (built.mem seen)
  have next (path : List HidCollection) : nextIn (chains ++ [done ++ [col]]) path =
      if path = done then nextIn (chains ++ [done]) path ++ [col] else nextIn (chains ++ [done]) path := by
    have before : ¬ Seen chains (done ++ [col]) := fun seen => unseen (seen_append.mpr (.inl seen))
    rw [nextIn_longer]
    simp only [before,not_false_eq_true,and_true]
  have here : Seen (chains ++ [done ++ [col]]) (done ++ [col]) := seen_longer.mpr (.inl rfl)
  have fresh : nodeAt (chains ++ [done ++ [col]]) reports done col = nodeOf col := by
    have nothing : nextIn (chains ++ [done ++ [col]]) (done ++ [col]) = [] := by
      rw [next,if_neg (by simp)]
      refine List.eq_nil_iff_forall_not_mem.mpr fun x inside => unseen ?_
      exact (mem_nextIn.mp inside).shorter (List.prefix_append _ _)
    simp only [nodeAt,nothing,built.unused col.id absent]
    rfl
  refine ⟨?_,?_,?_,?_⟩
  · rw [rootIds_hang,next,built.roots]
    by_cases top : done = []
    · simp [top]
    · rw [if_neg (mt List.getLast?_eq_none_iff.mp top),if_neg (Ne.symm top)]
  · intro above c seen
    rw [lookup_hang]
    rcases seen_longer.mp seen with same | old
    · obtain ⟨rfl,last⟩ := List.append_inj' same rfl
      obtain rfl := List.singleton_inj.mp last
      rw [if_pos rfl,fresh]
    · have known := built.mem old
      have other : c.id ≠ col.id := fun same => absent (same ▸ known)
      rw [if_neg other,built.nodes above c old]
      by_cases parent : above ++ [c] = done
      · have children : col.id ∉ (nextIn (chains ++ [done]) done).map (·.id) := by
          intro inside
          obtain ⟨x,follows,same⟩ := List.mem_map.mp inside
          exact absent (same ▸ built.mem (mem_nextIn.mp follows))
        subst parent
        rw [List.getLast?_concat,Option.map_some,if_pos rfl]
        simp only [nodeAt,next,if_true,Option.map_some,withChild,children,if_false,List.map_append,List.map_cons,
          List.map_nil]
      · have apart : done.getLast?.map (·.id) ≠ some c.id := by
          intro last
          obtain ⟨p,ends,same⟩ := Option.map_eq_some_iff.mp last
          obtain ⟨d,rfl⟩ := List.getLast?_eq_some_iff.mp ends
          obtain ⟨rfl,rfl⟩ := nested d p above c (here.shorter (List.prefix_append _ _)) seen same
          exact parent rfl
        rw [if_neg apart]
        simp only [nodeAt,next,if_neg parent]
  · intro id inside
    rcases mem_hang.mp inside with rfl | old
    · exact ⟨done,col,here,rfl⟩
    · obtain ⟨above,c,found,same⟩ := built.only id old
      exact ⟨above,c,seen_longer.mpr (.inr found),same⟩
  · intro id missing
    exact built.unused id fun there => missing (mem_hang.mpr (.inr there))

/-- A collection that is there already is where the chain has it. -/
theorem Built.present {chains : List (List HidCollection)} {reports : Nat → ReportType → List Report}
    {b : CollectionTreeBuilder} {done : List HidCollection} {col : HidCollection} (built : Built (chains ++ [done]) reports b)
    (nested : Nested (chains ++ [done ++ [col]])) (present : col.id ∈ b.nodes) :
    Built (chains ++ [done ++ [col]]) reports b := by
  obtain ⟨above,c,found,same⟩ := built.only col.id present
  have seen : Seen (chains ++ [done]) (done ++ [col]) := by
    obtain ⟨rfl,rfl⟩ := nested above c done col (seen_longer.mpr (.inr found)) (seen_longer.mpr (.inl rfl)) same
    exact found
  refine built.congr (fun path => ?_) fun above c => ?_
  · have before : Seen chains (done ++ [col]) := by
      rcases seen_append.mp seen with old | new
      · exact old
      · have long := (seen_singleton.mp new).length_le
        rw [List.length_append,List.length_singleton] at long
        omega
    rw [nextIn_longer,if_neg fun both => both.2 before]
  · rw [seen_longer]
    refine or_iff_right_of_imp ?_
    rintro equal
    rwa [equal]

theorem Built.ensureFrom {chains : List (List HidCollection)} {reports : Nat → ReportType → List Report}
    {b : CollectionTreeBuilder} {done : List HidCollection} (built : Built (chains ++ [done]) reports b)
    (rest : List HidCollection) (nested : Nested (chains ++ [done ++ rest])) :
    Built (chains ++ [done ++ rest]) reports (ensureFrom b done.getLast? rest) := by
  induction rest generalizing b done with
  | nil =>
    rw [List.append_nil,CollectionTreeBuilder.ensureFrom]
    exact built
  | cons col rest ih =>
    rw [List.append_cons done col rest] at nested ⊢
    have first : Nested (chains ++ [done ++ [col]]) := by
      refine nested.mono fun path seen => ?_
      rcases seen_append.mp seen with old | new
      · exact seen_append.mpr (.inl old)
      · exact seen_append.mpr (.inr (seen_singleton.mpr ((seen_singleton.mp new).trans (List.prefix_append _ _))))
    rw [ensureFrom_cons]
    have last : some col = (done ++ [col]).getLast? := (List.getLast?_concat).symm
    rw [last]
    refine ih ?_ nested
    split
    · rename_i present
      exact built.present first present
    · rename_i absent
      exact built.hang first absent

/-- A chain without collections changes nothing. -/
theorem Built.empty {chains : List (List HidCollection)} {reports : Nat → ReportType → List Report}
    {b : CollectionTreeBuilder} (built : Built chains reports b) : Built (chains ++ [[]]) reports b := by
  refine built.congr (fun path => nextIn_of_apart ?_) fun above c => ?_
  · cases path <;> rfl
  · rw [seen_append,seen_singleton]
    simp

/-- A field enters its chain. -/
theorem Built.addField {chains : List (List HidCollection)} {reports : Nat → ReportType → List Report}
    {acc : CollectionTreeBuilder × List (Nat × List HidField)} (built : Built chains reports acc.1)
    (next : HidField × List HidCollection) (nested : Nested (chains ++ [next.2])) :
    Built (chains ++ [next.2]) reports (addField acc next).1 := by
  unfold CollectionTreeBuilder.addField
  cases found : next.2.getLast? with
  | none =>
    rw [List.getLast?_eq_none_iff.mp found]
    exact built.empty
  | some last => exact built.empty.ensureFrom next.2 nested

theorem seen_mono {chains more : List (List HidCollection)} {path : List HidCollection} (seen : Seen chains path) :
    Seen (chains ++ more) path := seen_append.mpr (.inl seen)

theorem Built.fields {chains : List (List HidCollection)} {reports : Nat → ReportType → List Report}
    (acc : CollectionTreeBuilder × List (Nat × List HidField)) (built : Built chains reports acc.1)
    (fields : List (HidField × List HidCollection)) (nested : Nested (chains ++ fields.map (·.2))) :
    Built (chains ++ fields.map (·.2)) reports (fields.foldl CollectionTreeBuilder.addField acc).1 := by
  induction fields generalizing chains acc with
  | nil => rwa [List.map_nil,List.append_nil]
  | cons next rest ih =>
    rw [List.map_cons,List.append_cons chains next.2] at nested ⊢
    exact ih _ (built.addField next (nested.mono fun _ => seen_mono)) nested

/-- One more report in one node. -/
def withReport (reports : Nat → ReportType → List Report) (key : Nat) (dir : ReportType) (x : Report) :
    Nat → ReportType → List Report :=
  fun id rt => reports id rt ++ if id = key ∧ rt = dir then [x] else []

/-- The items of a bucket as a report. -/
def reportOf (report : HidReport) (fields : List HidField) : Report := ⟨report.rid,convertFieldsAggregate fields⟩

theorem nodeAt_withReport (chains : List (List HidCollection)) (reports : Nat → ReportType → List Report)
    (above : List HidCollection) (col : HidCollection) (key : Nat) (dir : ReportType) (x : Report) :
    nodeAt chains (withReport reports key dir x) above col =
      if col.id = key then ColNode.addReport (nodeAt chains reports above col) x dir else nodeAt chains reports above col := by
  by_cases same : col.id = key
  · cases dir <;> simp [nodeAt,withReport,same,ColNode.addReport]
  · simp [nodeAt,withReport,same]

theorem Built.addBucket {chains : List (List HidCollection)} {reports : Nat → ReportType → List Report}
    {b : CollectionTreeBuilder} (built : Built chains reports b) (report : HidReport) (dir : ReportType)
    {bucket : Nat × List HidField} (present : bucket.1 ∈ b.nodes) (filled : bucket.2 ≠ []) :
    Built chains (withReport reports bucket.1 dir (reportOf report bucket.2)) (addBucket report dir b bucket) := by
  have items : convertFieldsAggregate bucket.2 ≠ [] := convertFrom_ne_nil none bucket.2 (.inr filled)
  unfold CollectionTreeBuilder.addBucket
  dsimp only
  rw [if_neg items]
  refine ⟨built.roots,?_,fun id inside => built.only id (mem_modify.mp inside),?_⟩
  · intro above col seen
    rw [lookup_modify,nodeAt_withReport]
    split
    · rename_i same
      rw [← same,built.nodes above col seen]
      rfl
    · exact built.nodes above col seen
  · intro id missing rt
    have absent : id ∉ b.nodes := mt mem_modify.mpr missing
    have other : id ≠ bucket.1 := by
      rintro rfl
      exact absent present
    rw [withReport,built.unused id absent rt,if_neg fun both => other both.1]
    rfl

/-- The reports that a list of buckets adds. -/
def withBuckets (reports : Nat → ReportType → List Report) (report : HidReport) (dir : ReportType)
    (buckets : List (Nat × List HidField)) : Nat → ReportType → List Report :=
  fun id rt => reports id rt ++
    if rt = dir then (buckets.filter (·.1 = id)).map fun bucket => reportOf report bucket.2 else []

theorem Built.buckets {chains : List (List HidCollection)} {reports : Nat → ReportType → List Report}
    {b : CollectionTreeBuilder} (built : Built chains reports b) (report : HidReport) (dir : ReportType)
    {buckets : List (Nat × List HidField)} (present : ∀ bucket ∈ buckets, bucket.1 ∈ b.nodes ∧ bucket.2 ≠ []) :
    Built chains (withBuckets reports report dir buckets) (buckets.foldl (CollectionTreeBuilder.addBucket report dir) b) := by
  induction buckets generalizing b reports with
  | nil =>
    have same : withBuckets reports report dir [] = reports := by
      funext id rt
      simp [withBuckets]
    rwa [same]
  | cons bucket rest ih =>
    obtain ⟨there,filled⟩ := present bucket List.mem_cons_self
    have first := built.addBucket report dir there filled
    have kept (id : Nat) (inside : id ∈ b.nodes) : id ∈ (CollectionTreeBuilder.addBucket report dir b bucket).nodes := by
      obtain ⟨above,col,seen,rfl⟩ := built.only id inside
      exact first.mem seen
    have whole := ih first fun next inside =>
      ⟨kept _ (present next (List.mem_cons_of_mem _ inside)).1,(present next (List.mem_cons_of_mem _ inside)).2⟩
    have same : withBuckets (withReport reports bucket.1 dir (reportOf report bucket.2)) report dir rest
        = withBuckets reports report dir (bucket :: rest) := by
      funext id rt
      unfold withBuckets withReport
      by_cases way : rt = dir
      · by_cases own : bucket.1 = id
        · simp [way,own]
        · simp [way,own,Ne.symm own]
      · simp [way]
    rwa [same] at whole

theorem keys_addToBucket (buckets : List (Nat × List HidField)) (key : Nat) (field : HidField) :
    (addToBucket buckets key field).map (·.1) =
      if key ∈ buckets.map (·.1) then buckets.map (·.1) else buckets.map (·.1) ++ [key] := by
  unfold addToBucket
  have known : buckets.any (·.1 == key) = true ↔ key ∈ buckets.map (·.1) := by simp
  by_cases inside : key ∈ buckets.map (·.1)
  · rw [if_pos inside,if_pos (known.mpr inside),List.map_map]
    refine List.map_congr_left fun bucket _ => ?_
    simp only [Function.comp_apply]
    split <;> rfl
  · rw [if_neg inside,if_neg (mt known.mp inside),List.map_append]
    rfl

theorem nodup_buckets (acc : CollectionTreeBuilder × List (Nat × List HidField)) (nodup : (acc.2.map (·.1)).Nodup)
    (fields : List (HidField × List HidCollection)) :
    ((fields.foldl CollectionTreeBuilder.addField acc).2.map (·.1)).Nodup := by
  induction fields generalizing acc with
  | nil => exact nodup
  | cons next rest ih =>
    refine ih _ ?_
    unfold CollectionTreeBuilder.addField
    cases next.2.getLast? with
    | none => exact nodup
    | some last =>
      rw [keys_addToBucket]
      split
      · exact nodup
      · rename_i absent
        refine List.nodup_append.mpr ⟨nodup,List.nodup_singleton _,?_⟩
        rintro key inside other single rfl
        exact absent (List.mem_singleton.mp single ▸ inside)

/-- The part of a report in one collection, if it has fields there. -/
def partOf (report : HidReport) (key : Nat) : Option Report :=
  if fieldsIn (chained report) key = [] then none else some (reportOf report (fieldsIn (chained report) key))

theorem eq_singleton {α : Type} {xs : List α} {x : α} (nodup : xs.Nodup) (there : x ∈ xs) (only : ∀ y ∈ xs, y = x) :
    xs = [x] := by
  rcases xs with _ | ⟨first,_ | ⟨second,rest⟩⟩
  · cases there
  · rw [only first (by simp)]
  · have same := (only first (by simp)).trans (only second (by simp)).symm
    exact absurd (by simp [same]) (List.nodup_cons.mp nodup).1

/-- The buckets of a report, collection by collection. -/
theorem filter_buckets {b : CollectionTreeBuilder} (rooted : Rooted b) (report : HidReport) (key : Nat) :
    (((chained report).foldl CollectionTreeBuilder.addField (b,[])).2.filter (·.1 = key)).map
        (fun bucket => reportOf report bucket.2) = (partOf report key).toList := by
  have filed := (entered_chained rooted report).filed
  have keys := nodup_buckets (b,[]) List.nodup_nil (chained report)
  have only : ∀ bucket ∈ ((chained report).foldl CollectionTreeBuilder.addField (b,[])).2.filter (·.1 = key),
      bucket = (key,fieldsIn (chained report) key) ∧ fieldsIn (chained report) key ≠ [] := by
    rintro ⟨home,fields⟩ inside
    obtain ⟨there,rfl⟩ : _ ∧ home = key := by simpa using List.mem_filter.mp inside
    obtain ⟨rfl,filled⟩ := (filed home fields).mp there
    exact ⟨rfl,filled⟩
  unfold partOf
  by_cases none : fieldsIn (chained report) key = []
  · rw [if_pos none,List.eq_nil_iff_forall_not_mem.mpr fun bucket inside => (only bucket inside).2 none]
    rfl
  · have there : (key,fieldsIn (chained report) key) ∈
        ((chained report).foldl CollectionTreeBuilder.addField (b,[])).2.filter (·.1 = key) :=
      List.mem_filter.mpr ⟨(filed key _).mpr ⟨rfl,none⟩,by simp⟩
    rw [if_neg none,eq_singleton ((List.Nodup.of_map _ keys).filter _) there fun bucket inside => (only bucket inside).1]
    rfl

/-- The chains that the fields of a report take. -/
def chainsOf (report : HidReport) : List (List HidCollection) := (chained report).map (·.2)

theorem Built.addReport {chains : List (List HidCollection)} {reports : Nat → ReportType → List Report}
    {b : CollectionTreeBuilder} (rooted : Rooted b) (built : Built chains reports b) (dir : ReportType)
    (report : HidReport) (nested : Nested (chains ++ chainsOf report)) :
    Built (chains ++ chainsOf report)
      (fun id rt => reports id rt ++ if rt = dir then (partOf report id).toList else [])
      (addReport dir b report) := by
  have fields := Built.fields (b,[]) built (chained report) nested
  have whole := fields.buckets report dir (entered_chained rooted report).present
  have same : withBuckets reports report dir ((chained report).foldl CollectionTreeBuilder.addField (b,[])).2
      = fun id rt => reports id rt ++ if rt = dir then (partOf report id).toList else [] := by
    funext id rt
    rw [withBuckets,filter_buckets rooted]
  rw [same] at whole
  exact whole

theorem Built.reports {chains : List (List HidCollection)} {reports : Nat → ReportType → List Report}
    {b : CollectionTreeBuilder} (rooted : Rooted b) (built : Built chains reports b) (dir : ReportType)
    (more : List HidReport) (nested : Nested (chains ++ more.flatMap chainsOf)) :
    Built (chains ++ more.flatMap chainsOf)
      (fun id rt => reports id rt ++ if rt = dir then more.filterMap (partOf · id) else [])
      (more.foldl (CollectionTreeBuilder.addReport dir) b) := by
  induction more generalizing chains reports b with
  | nil =>
    have same : (fun id rt => reports id rt ++ if rt = dir then ([] : List HidReport).filterMap (partOf · id) else [])
        = reports := by
      funext id rt
      simp
    rwa [List.flatMap_nil,List.append_nil,same]
  | cons report rest ih =>
    rw [List.flatMap_cons,← List.append_assoc] at nested ⊢
    have first := built.addReport rooted dir report (nested.mono fun _ => seen_mono)
    have whole := ih (addReport_spec rooted dir report).1 first nested
    have same : (fun id rt => (reports id rt ++ if rt = dir then (partOf report id).toList else []) ++
          if rt = dir then rest.filterMap (partOf · id) else [])
        = fun id rt => reports id rt ++ if rt = dir then (report :: rest).filterMap (partOf · id) else [] := by
      funext id rt
      by_cases way : rt = dir
      · cases found : partOf report id with
        | none => simp [way,found]
        | some x => simp [way,found]
      · simp [way]
    rwa [same] at whole

mutual
/-- A node of the forest as the page sees it. -/
def shown (reports : Nat → ReportType → List Report) : ChainForests.Tree HidCollection → Collection
  | .node col below =>
    { collectionType := col.collectionType
      usagePage := col.usages.head?.map (·.usagePage)
      usage := col.usages.head?.map (·.usageId)
      children := shownAll reports below
      inputReports := reports col.id .input
      outputReports := reports col.id .output
      featureReports := reports col.id .feature }
def shownAll (reports : Nat → ReportType → List Report) : List (ChainForests.Tree HidCollection) → List Collection
  | [] => []
  | t :: rest => shown reports t :: shownAll reports rest
end

theorem shownAll_eq_map (reports : Nat → ReportType → List Report) (forest : List (ChainForests.Tree HidCollection)) :
    shownAll reports forest = forest.map (shown reports) := by
  induction forest with
  | nil => rfl
  | cons t rest ih => rw [shownAll,ih,List.map_cons]

/-- What the builder reads off below a path. -/
theorem Built.filterMap_buildNode {chains : List (List HidCollection)} {reports : Nat → ReportType → List Report}
    {b : CollectionTreeBuilder} (built : Built chains reports b) (depth : Nat) (path : List HidCollection) :
    ((nextIn chains path).map (·.id)).filterMap (b.buildNode depth) = shownAll reports (shape chains depth path) := by
  induction depth generalizing path with
  | zero =>
    refine List.filterMap_eq_nil_iff.mpr fun id _ => ?_
    rw [buildNode]
  | succ depth ih =>
    have each : ∀ col ∈ nextIn chains path, b.buildNode (depth + 1) col.id
        = some (shown reports (.node col (shape chains depth (path ++ [col])))) := by
      intro col inside
      rw [buildNode,built.nodes path col (mem_nextIn.mp inside),shown,← ih]
      rfl
    rw [shape,shownAll_eq_map,List.map_map,List.filterMap_map]
    exact (List.filterMap_congr each).trans (congrFun List.filterMap_eq_map' _)

/-- A chain has at most as many collections as there are nodes. -/
theorem Built.within {chains : List (List HidCollection)} {reports : Nat → ReportType → List Report}
    {b : CollectionTreeBuilder} (built : Built chains reports b) (nested : Nested chains) :
    Within chains b.nodes.entries.length [] := by
  intro path seen
  rw [List.nil_append] at seen
  have place {i : Nat} (below : i < path.length) : Seen chains (path.take i ++ [path[i]]) := by
    rw [List.take_append_getElem]
    exact seen.shorter (List.take_prefix _ _)
  have distinct : (path.map (·.id)).Nodup := by
    refine List.nodup_iff_injective_get.mpr fun i j same => Fin.ext ?_
    have small : (i : Nat) < path.length := by simpa using i.2
    have other : (j : Nat) < path.length := by simpa using j.2
    have equal : path[(i : Nat)].id = path[(j : Nat)].id := by simpa using same
    have above := congrArg List.length (nested _ _ _ _ (place small) (place other) equal).1
    rw [List.length_take,List.length_take] at above
    omega
  have known : path.map (·.id) ⊆ b.nodes.keys := by
    intro id inside
    obtain ⟨col,there,rfl⟩ := List.mem_map.mp inside
    obtain ⟨i,below,rfl⟩ := List.getElem_of_mem there
    exact mem_keys_iff_lookup.mpr ⟨_,built.nodes _ _ (place below)⟩
  have count := (List.subperm_of_subset distinct known).length_le
  rwa [List.length_map,AList.keys,List.keys,List.length_map] at count

/-- The empty collection of a descriptor without collections. -/
def placeholder : Collection := ⟨1,none,none,[],[],[],[]⟩

theorem Built.build {chains : List (List HidCollection)} {reports : Nat → ReportType → List Report}
    {b : CollectionTreeBuilder} (built : Built chains reports b) (nested : Nested chains) :
    b.build = if forestOf chains = [] then [placeholder] else shownAll reports (forestOf chains) := by
  have roots : b.rootIds.filterMap (b.buildNode b.nodes.entries.length) = shownAll reports (forestOf chains) := by
    rw [built.roots,built.filterMap_buildNode,forestOf,shape_within (built.within nested) (within_flatten chains)]
  unfold CollectionTreeBuilder.build
  rw [roots]
  cases forestOf chains with
  | nil => rfl
  | cons t rest => rfl

/-- The chain of a field: its own, else that of the nearest field before it that has one, else
    that of the nearest one after it. -/
def chainOf (fields : List HidField) (position : Nat) : List HidCollection :=
  let candidates := fields[position]?.toList ++ (fields.take position).reverse ++ fields.drop (position + 1)
  ((candidates.map HidField.collections).find? (· ≠ [])).getD []

theorem getElem?_resolveChains (before rest : List HidField) (position : Nat) :
    (resolveChains before rest)[position]?
      = rest[position]?.map fun field => (field,chainOf (before.reverse ++ rest) (before.length + position)) := by
  induction rest generalizing before position with
  | nil => rfl
  | cons field rest ih =>
    rw [resolveChains]
    cases position with
    | zero =>
      have here : (before.reverse ++ field :: rest)[before.length]? = some field := by
        rw [List.getElem?_append_right (by simp)]
        simp
      have earlier : ((before.reverse ++ field :: rest).take before.length).reverse = before := by
        rw [List.take_left' (by simp),List.reverse_reverse]
      have later : (before.reverse ++ field :: rest).drop (before.length + 1) = rest := by
        rw [List.append_cons,List.drop_left' (by simp)]
      rw [Nat.add_zero,List.getElem?_cons_zero,List.getElem?_cons_zero,Option.map_some,chainOf,here,earlier,later]
      by_cases own : field.collections = []
      · simp [own]
      · simp [own]
    | succ position =>
      rw [List.getElem?_cons_succ,List.getElem?_cons_succ,ih]
      simp only [List.reverse_cons,List.append_assoc,List.singleton_append,List.length_cons]
      rw [Nat.add_right_comm,Nat.add_assoc]

/-- The chains that the builder resolves. -/
theorem chained_eq (report : HidReport) :
    chained report = report.fields.mapIdx fun position field => (field,chainOf report.fields position) := by
  refine List.ext_getElem? fun position => ?_
  rw [chained,getElem?_resolveChains,List.getElem?_mapIdx]
  simp

theorem chainOf_mem {fields : List HidField} {position : Nat} (some : chainOf fields position ≠ []) :
    ∃ field ∈ fields, field.collections = chainOf fields position := by
  unfold chainOf at some ⊢
  dsimp only at some ⊢
  generalize candidates : fields[position]?.toList ++ (fields.take position).reverse ++ fields.drop (position + 1) = among at some ⊢
  have within : among ⊆ fields := by
    intro field inside
    rw [← candidates,List.mem_append,List.mem_append] at inside
    rcases inside with (here | earlier) | later
    · exact List.mem_of_getElem? (Option.mem_toList.mp here)
    · exact (List.take_sublist _ _).subset (List.mem_reverse.mp earlier)
    · exact (List.drop_sublist _ _).subset later
  cases found : (among.map HidField.collections).find? (· ≠ []) with
  | none =>
    rw [found] at some
    exact absurd rfl some
  | some chain =>
    obtain ⟨field,inside,same⟩ := List.mem_map.mp (List.mem_of_find?_eq_some found)
    exact ⟨field,within inside,same⟩

/-- The positions of the fields of a report whose innermost collection is a certain one. -/
def members (report : HidReport) (key : Nat) : List Nat :=
  (List.range report.fields.length).filter fun position =>
    (chainOf report.fields position).getLast?.map (·.id) = some key

theorem filter_mapIdx {β γ : Type} (xs : List β) (g : Nat → γ) (p : γ → Bool) :
    ((xs.mapIdx fun i x => (x,g i)).filter fun q => p q.2).map (·.1)
      = ((List.range xs.length).filter fun i => p (g i)).filterMap (xs[·]?) := by
  induction xs using List.reverseRecOn with
  | nil => rfl
  | append_singleton xs x ih =>
    have same : ((List.range xs.length).filter fun i => p (g i)).filterMap ((xs ++ [x])[·]?)
        = ((List.range xs.length).filter fun i => p (g i)).filterMap (xs[·]?) := by
      refine List.filterMap_congr fun i inside => ?_
      rw [List.getElem?_append_left (by simpa using (List.mem_filter.mp inside).1)]
    rw [List.mapIdx_concat,List.filter_append,List.map_append,ih,List.length_append,List.length_singleton,
      List.range_succ,List.filter_append,List.filterMap_append,same]
    cases kept : p (g xs.length) with
    | false => simp [kept]
    | true => simp [kept]

theorem fieldsIn_eq (report : HidReport) (key : Nat) :
    fieldsIn (chained report) key = (members report key).filterMap (report.fields[·]?) := by
  rw [fieldsIn,chained_eq,members]
  exact filter_mapIdx report.fields (chainOf report.fields) fun chain => chain.getLast?.map (·.id) = some key

/-! ### Nothing is lost -/

/-- The fields of a descriptor's reports, in the order in which they are entered. -/
def allReports (rdesc : ReportDescriptor) : List HidReport :=
  rdesc.inputReports ++ rdesc.outputReports ++ rdesc.featureReports

/-- The collections that the descriptor names for its fields. -/
def declaredChains (rdesc : ReportDescriptor) : List (List HidCollection) :=
  (allReports rdesc).flatMap fun report => report.fields.map HidField.collections

/-- The chains that the fields take. -/
def chains (rdesc : ReportDescriptor) : List (List HidCollection) :=
  (allReports rdesc).flatMap fun report => (List.range report.fields.length).map (chainOf report.fields)

/-- The reports of a node: for each report of the descriptor that has fields there, these fields
    in their order, under the identifier and the type of the report. -/
def contents (rdesc : ReportDescriptor) (key : Nat) (rt : ReportType) : List Report :=
  (rdesc.reports rt).filterMap fun report =>
    match (members report key).filterMap (report.fields[·]?) with
    | [] => none
    | fields => some ⟨report.rid,convertFieldsAggregate fields⟩

/-- The tree is the forest of the chains, with each field in one report of one node. -/
structure Lossless (rdesc : ReportDescriptor) : Prop where
  tree : collectionsOf rdesc = if forestOf (chains rdesc) = [] then [placeholder]
    else shownAll (contents rdesc) (forestOf (chains rdesc))
  nodes (path : List HidCollection) : path ∈ pathsIn [] (forestOf (chains rdesc)) ↔
    path ≠ [] ∧ ∃ chain ∈ chains rdesc, path <+: chain
  once : ((pathsIn [] (forestOf (chains rdesc))).map fun path => path.getLast?.map (·.id)).Nodup
  placed : ∀ rt, ∀ report ∈ rdesc.reports rt, ∀ position < report.fields.length, chainOf report.fields position ≠ [] →
    chainOf report.fields position ∈ pathsIn [] (forestOf (chains rdesc)) ∧
      ∀ above col, above ++ [col] ∈ pathsIn [] (forestOf (chains rdesc)) →
        (position ∈ members report col.id ↔ above ++ [col] = chainOf report.fields position)
  ordered (report : HidReport) (key : Nat) : (members report key).Pairwise (· < ·)

theorem chainsOf_eq (report : HidReport) : chainsOf report = (List.range report.fields.length).map (chainOf report.fields) := by
  rw [chainsOf,chained_eq]
  refine List.ext_getElem (by simp) fun position here there => ?_
  simp

theorem chains_eq (rdesc : ReportDescriptor) : chains rdesc = (allReports rdesc).flatMap chainsOf := by
  rw [chains]
  exact List.flatMap_congr fun report _ => (chainsOf_eq report).symm

theorem nested_chains {rdesc : ReportDescriptor} (nested : Nested (declaredChains rdesc)) : Nested (chains rdesc) := by
  have declared {above : List HidCollection} {col : HidCollection} (seen : Seen (chains rdesc) (above ++ [col])) :
      Seen (declaredChains rdesc) (above ++ [col]) := by
    obtain ⟨chain,inside,begins⟩ := seen
    obtain ⟨report,there,among⟩ := List.mem_flatMap.mp inside
    obtain ⟨position,-,rfl⟩ := List.mem_map.mp among
    have filled : chainOf report.fields position ≠ [] := by
      intro none
      rw [none] at begins
      simp at begins
    obtain ⟨field,member,same⟩ := chainOf_mem filled
    exact ⟨_,List.mem_flatMap.mpr ⟨report,there,List.mem_map.mpr ⟨field,member,rfl⟩⟩,same ▸ begins⟩
  exact fun above col above' col' here there => nested above col above' col' (declared here) (declared there)

theorem contents_eq (rdesc : ReportDescriptor) (key : Nat) (rt : ReportType) :
    contents rdesc key rt = (rdesc.reports rt).filterMap (partOf · key) := by
  refine List.filterMap_congr fun report _ => ?_
  rw [partOf,fieldsIn_eq]
  cases (members report key).filterMap (report.fields[·]?) with
  | nil => rfl
  | cons field rest => rfl

/-- The builder ends with the forest of all chains and the reports of all fields. -/
theorem built_collectionsOf {rdesc : ReportDescriptor} (nested : Nested (chains rdesc)) :
    collectionsOf rdesc = if forestOf (chains rdesc) = [] then [placeholder]
      else shownAll (contents rdesc) (forestOf (chains rdesc)) := by
  have rooted : Rooted {} := fun id found => absurd found (AList.notMem_empty id)
  have empty : Built [] (fun _ _ => []) {} := by
    refine ⟨rfl,?_,?_,fun _ _ _ => rfl⟩
    · rintro above col ⟨chain,⟨⟩,-⟩
    · exact fun id found => absurd found (AList.notMem_empty id)
  have parts : chains rdesc = [] ++ rdesc.inputReports.flatMap chainsOf ++ rdesc.outputReports.flatMap chainsOf
      ++ rdesc.featureReports.flatMap chainsOf := by
    rw [chains_eq,allReports,List.flatMap_append,List.flatMap_append,List.nil_append]
  have whole := nested
  rw [parts] at whole
  have inputs := empty.reports rooted .input rdesc.inputReports ((whole.mono fun _ => seen_mono).mono fun _ => seen_mono)
  have afterInputs := (foldl_addReport rooted .input rdesc.inputReports).1
  have outputs := inputs.reports afterInputs .output rdesc.outputReports (whole.mono fun _ => seen_mono)
  have afterOutputs := (foldl_addReport afterInputs .output rdesc.outputReports).1
  have features := outputs.reports afterOutputs .feature rdesc.featureReports whole
  rw [← parts] at features
  have reports : (fun id rt => (([] ++ if rt = .input then rdesc.inputReports.filterMap (partOf · id) else []) ++
        if rt = .output then rdesc.outputReports.filterMap (partOf · id) else []) ++
        if rt = .feature then rdesc.featureReports.filterMap (partOf · id) else []) = contents rdesc := by
    funext id rt
    rw [contents_eq]
    cases rt <;> simp [ReportDescriptor.reports]
  rw [reports] at features
  exact features.build nested

/-- The collection tree loses and doubles nothing. -/
theorem tree_lossless (rdesc : ReportDescriptor) (nested : Nested (declaredChains rdesc)) : Lossless rdesc := by
  have resolved := nested_chains nested
  refine ⟨built_collectionsOf resolved,fun path => mem_forestOf,?_,?_,fun report key => ?_⟩
  · refine (List.nodup_map_iff_inj_on (nodup_forestOf _)).mpr fun path inside other there same => ?_
    obtain ⟨filled,seen⟩ := mem_forestOf.mp inside
    have seen' := (mem_forestOf.mp there).2
    exact (nested_iff _).mp resolved path (mem_flatMap_inits.mpr seen) other (mem_flatMap_inits.mpr seen') filled same
  · intro rt report inside position below some
    have member : chainOf report.fields position ∈ chains rdesc := by
      refine List.mem_flatMap.mpr ⟨report,?_,List.mem_map.mpr ⟨position,List.mem_range.mpr below,rfl⟩⟩
      unfold allReports
      cases rt <;> simp_all [ReportDescriptor.reports]
    have seen : Seen (chains rdesc) (chainOf report.fields position) := ⟨_,member,List.prefix_refl _⟩
    refine ⟨mem_forestOf.mpr ⟨some,seen⟩,fun above col there => ?_⟩
    obtain ⟨above',col',own⟩ := (List.eq_nil_or_concat' _).resolve_left some
    rw [members,List.mem_filter,own,List.getLast?_concat]
    simp only [List.mem_range,below,true_and,Option.map_some,Option.some.injEq,decide_eq_true_eq]
    constructor
    · intro same
      obtain ⟨rfl,rfl⟩ := resolved above' col' above col (own ▸ seen) (mem_forestOf.mp there).2 same
      rfl
    · intro same
      obtain ⟨-,last⟩ := List.append_inj' same rfl
      rw [List.singleton_inj.mp last]
  · exact List.pairwise_lt_range.filter _

/-- A mouse: an outer collection with a button and a wheel, an inner one with two axes around the
    button, and padding that names no collection. -/
def mouse : ReportDescriptor :=
  let outer : HidCollection := ⟨0,1,[⟨1,2⟩]⟩
  let inner : HidCollection := ⟨1,0,[⟨1,1⟩]⟩
  let field (start : Nat) (usage : Usage) (collections : List HidCollection) : HidField :=
    .variable { bitsStart := start, bitsEnd := start + 8, collections, logicalMinimum := 0, logicalMaximum := 255, usage }
  { inputReports :=
      [⟨some 1,[.constant ⟨0,8,[]⟩,field 8 ⟨1,0x30⟩ [outer,inner],field 16 ⟨9,1⟩ [outer],field 24 ⟨1,0x31⟩ [outer,inner]]⟩]
    outputReports := []
    featureReports := [⟨some 2,[field 8 ⟨1,0x48⟩ [outer]]⟩] }

theorem mouse_lossless : Lossless mouse := tree_lossless mouse (by decide)

end FFWebHid.LosslessTrees
