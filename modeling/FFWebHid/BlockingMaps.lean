import FFWebHid.LosslessTrees
import FFWebHid.ReportProtection

/-!
The association map of a device, read off its descriptor and read off its tree. The
two differ in constant fields only, which the descriptor's map leaves out and the
tree lists like any others.
-/
namespace FFWebHid.BlockingMaps
open FFWebHid.Types FFWebHid.Maps FFWebHid.Blocklist FFWebHid.Descriptor FFWebHid.ReportBlocking
open FFWebHid.ChainForests FFWebHid.LosslessTrees FFWebHid.ReportProtection

section Walk
variable {Q : ReportCollectionMap → Prop} {C : List ReportAssociation → Prop} {key : UInt8 × ReportType}

/-- A walk turns `Q` on at the key with the chains that satisfy `C`. -/
def Extended (Q : ReportCollectionMap → Prop) (C : List ReportAssociation → Prop) (key : UInt8 × ReportType) : Prop :=
  ∀ other chain map, Q (AList.insert other ((AList.lookup other map).getD [] ++ chain) map) ↔ Q map ∨ other = key ∧ C chain

theorem extendEntries_iff (extended : Extended Q C key) (rt : ReportType) (chain : List ReportAssociation)
    (map : ReportCollectionMap) (reports : List Report) :
    Q (extendEntries rt chain map reports) ↔ Q map ∨ C chain ∧ rt = key.2 ∧ ∃ x ∈ reports, x.reportId = key.1 := by
  rw [extendEntries,foldl_iff _ Q _ fun map x => extended (x.reportId,rt) chain map]
  refine or_congr_right ?_
  simp only [Prod.ext_iff]
  constructor
  · rintro ⟨x,inside,⟨same,way⟩,carried⟩
    exact ⟨carried,way,x,inside,same⟩
  · rintro ⟨carried,way,x,inside,same⟩
    exact ⟨x,inside,⟨same,way⟩,carried⟩

/-- What a node lists by itself. -/
theorem extendAll_iff (extended : Extended Q C key) (chain : List ReportAssociation) (map : ReportCollectionMap)
    (reports : ReportType → List Report) :
    Q (extendEntries .feature chain (extendEntries .output chain (extendEntries .input chain map (reports .input))
        (reports .output)) (reports .feature)) ↔
      Q map ∨ C chain ∧ ∃ x ∈ reports key.2, x.reportId = key.1 := by
  rw [extendEntries_iff extended,extendEntries_iff extended,extendEntries_iff extended]
  cases key.2 <;> simp

/-- The reports of some node turn `Q` on. -/
def Listing (C : List ReportAssociation → Prop) (key : UInt8 × ReportType) (reports : Nat → ReportType → List Report)
    (path : List HidCollection) : Prop :=
  ∃ col, path.getLast? = some col ∧ C (path.map associationOf) ∧ ∃ x ∈ reports col.id key.2, x.reportId = key.1

mutual
theorem walk_iff (extended : Extended Q C key) (reports : Nat → ReportType → List Report) (above : List HidCollection)
    (map : ReportCollectionMap) : ∀ t : ChainForests.Tree HidCollection,
      Q (walk (above.map associationOf) map (shown reports t)) ↔
        Q map ∨ ∃ path ∈ t.paths above, Listing C key reports path
  | .node col below => by
    have chain : above.map associationOf ++ [associationOf col] = (above ++ [col]).map associationOf := by simp
    have own : Listing C key reports (above ++ [col]) ↔
        C ((above ++ [col]).map associationOf) ∧ ∃ x ∈ reports col.id key.2, x.reportId = key.1 := by
      simp [Listing]
    have listed := extendAll_iff extended ((above ++ [col]).map associationOf) map (reports col.id)
    have lower := walkAll_iff extended reports (above ++ [col])
      (extendEntries .feature ((above ++ [col]).map associationOf) (extendEntries .output
        ((above ++ [col]).map associationOf) (extendEntries .input ((above ++ [col]).map associationOf) map
          (reports col.id .input)) (reports col.id .output)) (reports col.id .feature)) below
    rw [listed,← own,or_assoc] at lower
    rw [ChainForests.Tree.paths,List.exists_mem_cons_iff,← lower,← chain]
    rfl
theorem walkAll_iff (extended : Extended Q C key) (reports : Nat → ReportType → List Report) (above : List HidCollection)
    (map : ReportCollectionMap) : ∀ forest : List (ChainForests.Tree HidCollection),
      Q (walkAll (above.map associationOf) map (shownAll reports forest)) ↔
        Q map ∨ ∃ path ∈ pathsIn above forest, Listing C key reports path
  | [] => by simp [shownAll,walkAll,pathsIn]
  | t :: rest => by
    rw [shownAll,walkAll,walkAll_iff extended reports above _ rest,walk_iff extended reports above map t,or_assoc,pathsIn]
    simp only [List.mem_append,or_and_right,exists_or]
end

end Walk

theorem extended_entered (key : UInt8 × ReportType) : Extended (Entered · key) (fun _ => True) key := by
  intro other chain map
  simp only [Entered,lookup_insert_eq]
  by_cases same : key = other
  · simp [same]
  · simp [same,Ne.symm same]

theorem extended_associated (key : UInt8 × ReportType) (a : ReportAssociation) :
    Extended (ReportProtection.Associated · key a) (a ∈ ·) key := by
  intro other chain map
  simp only [ReportProtection.Associated,lookup_insert_eq]
  by_cases same : key = other
  · subst same
    cases AList.lookup key map <;> simp
  · simp [same,Ne.symm same]

/-- Some field of a report with the identifier satisfies `P`, constant fields included. -/
def SomeField (rdesc : ReportDescriptor) (rt : ReportType) (reportId : UInt8) (P : HidField → Prop) : Prop :=
  ∃ r ∈ rdesc.reports rt, r.rid = reportId ∧ ∃ f ∈ r.fields, P f

/-- Every field lies in a collection. -/
def Covered (rdesc : ReportDescriptor) : Prop :=
  ∀ rt, ∀ report ∈ rdesc.reports rt, ∀ field ∈ report.fields, field.collections ≠ []

theorem chainOf_own {fields : List HidField} {position : Nat} {field : HidField} (there : fields[position]? = some field)
    (own : field.collections ≠ []) : chainOf fields position = field.collections := by
  simp [chainOf,there,own]

/-- The reports of a node come from the reports that have fields there. -/
theorem exists_contents_iff (rdesc : ReportDescriptor) (key : Nat) (rt : ReportType) (reportId : UInt8) :
    (∃ x ∈ contents rdesc key rt, x.reportId = reportId) ↔
      ∃ report ∈ rdesc.reports rt, report.rid = reportId ∧ ∃ position field, report.fields[position]? = some field ∧
        position ∈ members report key := by
  have filled (report : HidReport) : (members report key).filterMap (report.fields[·]?) ≠ [] ↔
      ∃ position field, report.fields[position]? = some field ∧ position ∈ members report key := by
    constructor
    · intro some
      obtain ⟨field,inside⟩ := List.exists_mem_of_ne_nil _ some
      obtain ⟨position,member,there⟩ := List.mem_filterMap.mp inside
      exact ⟨position,field,there,member⟩
    · rintro ⟨position,field,there,member⟩
      exact List.ne_nil_of_mem (List.mem_filterMap.mpr ⟨position,member,there⟩)
  simp only [contents,List.mem_filterMap]
  constructor
  · rintro ⟨x,⟨report,listed,made⟩,same⟩
    split at made
    · cases made
    next some =>
      cases made
      exact ⟨report,listed,same,(filled report).mp some⟩
  · rintro ⟨report,listed,same,found⟩
    refine ⟨⟨report.rid,convertFieldsAggregate ((members report key).filterMap (report.fields[·]?))⟩,
      ⟨report,listed,?_⟩,same⟩
    split
    next none => exact absurd none ((filled report).mpr found)
    · rfl

section Trees
variable {rdesc : ReportDescriptor} (covered : Covered rdesc) (nested : Nested (declaredChains rdesc))
include covered nested

/-- A node lists a report through the fields whose chain leads to it. -/
theorem listing_iff (C : List ReportAssociation → Prop) (key : UInt8 × ReportType) :
    (∃ path ∈ pathsIn [] (forestOf (chains rdesc)), Listing C key (contents rdesc) path) ↔
      SomeField rdesc key.2 key.1 fun f => C (f.collections.map associationOf) := by
  have lossless := tree_lossless rdesc nested
  constructor
  · rintro ⟨path,inside,col,last,carried,found⟩
    obtain ⟨report,listed,same,position,field,there,member⟩ := (exists_contents_iff rdesc col.id key.2 key.1).mp found
    have own := covered key.2 report listed field (List.mem_of_getElem? there)
    have chain := chainOf_own there own
    obtain ⟨above,rfl⟩ := List.getLast?_eq_some_iff.mp last
    have below : position < report.fields.length := (List.getElem?_eq_some_iff.mp there).1
    have placed := (lossless.placed key.2 report listed position below (chain ▸ own)).2 above col inside
    rw [placed.mp member,chain] at carried
    exact ⟨report,listed,same,field,List.mem_of_getElem? there,carried⟩
  · rintro ⟨report,listed,same,field,inside,carried⟩
    obtain ⟨position,below,rfl⟩ := List.getElem_of_mem inside
    have own := covered key.2 report listed _ inside
    have chain := chainOf_own (List.getElem?_eq_getElem below) own
    obtain ⟨there,placed⟩ := lossless.placed key.2 report listed position below (chain ▸ own)
    obtain ⟨above,col,split⟩ := (List.eq_nil_or_concat' report.fields[position].collections).resolve_left own
    rw [chain,split] at there placed
    refine ⟨above ++ [col],there,col,List.getLast?_concat,split ▸ carried,?_⟩
    exact (exists_contents_iff rdesc col.id key.2 key.1).mpr
      ⟨report,listed,same,position,_,List.getElem?_eq_getElem below,(placed above col there).mpr rfl⟩

/-- What the tree's map says of a report, by the fields of the report. -/
theorem treeMap_iff {Q : ReportCollectionMap → Prop} {C : List ReportAssociation → Prop} {key : UInt8 × ReportType}
    (extended : Extended Q C key) (empty : ¬ Q ∅) {info : DeviceInfo} (tree : info.collections = collectionsOf rdesc) :
    Q (mapFromCollectionTree info) ↔ SomeField rdesc key.2 key.1 fun f => C (f.collections.map associationOf) := by
  have lossless := tree_lossless rdesc nested
  rw [mapFromCollectionTree,tree,lossless.tree,← listing_iff covered nested C key]
  by_cases none : forestOf (chains rdesc) = []
  · rw [if_pos none,none]
    refine iff_of_false empty ?_
    rintro ⟨path,⟨⟩,-⟩
  · rw [if_neg none]
    exact (walkAll_iff extended (contents rdesc) [] ∅ _).trans (or_iff_right empty)

theorem entered_tree {info : DeviceInfo} (tree : info.collections = collectionsOf rdesc) (rt : ReportType)
    (reportId : UInt8) :
    Entered (mapFromCollectionTree info) (reportId,rt) ↔ SomeField rdesc rt reportId fun _ => True :=
  treeMap_iff covered nested (extended_entered (reportId,rt)) (by simp [Entered]) tree

theorem associated_tree {info : DeviceInfo} (tree : info.collections = collectionsOf rdesc) (rt : ReportType)
    (reportId : UInt8) (a : ReportAssociation) :
    ReportProtection.Associated (mapFromCollectionTree info) (reportId,rt) a ↔
      SomeField rdesc rt reportId fun f => a ∈ f.collections.map associationOf :=
  treeMap_iff covered nested (extended_associated (reportId,rt) a) (by simp [ReportProtection.Associated]) tree

end Trees

/-! ### The verdicts -/

/-- The verdict of a device's blocking state, with a certain association map in it. -/
def verdict (map : ReportCollectionMap) (lib : Externals) (info : DeviceInfo) (numbered : Bool)
    (vendorId productId : UInt16) (reportId : UInt8) (rt : ReportType) : Bool :=
  { DeviceReportBlocking.new lib info numbered with map := map }.isReportProtected vendorId productId reportId rt

/-- A collection around the field protects the report. -/
def FieldProtects (vendorId productId : UInt16) (rt : ReportType) (reportId : UInt8) (f : HidField) : Prop :=
  ∃ c ∈ f.collections, (associationOf c).protects vendorId productId reportId rt = true

/-- Some field lies in a top-level collection that is always protected. -/
def TopProtected (rdesc : ReportDescriptor) (rt : ReportType) : Prop :=
  ∃ dir, ∃ report ∈ rdesc.reports dir, ∃ field ∈ report.fields, ∃ top, field.collections.head? = some top ∧
    isAlwaysProtected (associationOf top).usagePage (associationOf top).usage rt = true

theorem verdict_iff (map : ReportCollectionMap) (lib : Externals) (info : DeviceInfo) (numbered : Bool)
    (vendorId productId : UInt16) (reportId : UInt8) (rt : ReportType) :
    verdict map lib info numbered vendorId productId reportId rt = true ↔
      (∃ a, ReportProtection.Associated map (reportId,rt) a ∧ a.protects vendorId productId reportId rt = true) ∨
        ¬ Entered map (reportId,rt) ∧ (hasAlwaysProtectedCollection info rt || interfaceProtected info rt) = true := by
  unfold verdict DeviceReportBlocking.isReportProtected ReportProtection.Associated Entered
  dsimp only
  cases AList.lookup (reportId,rt) map with
  | none => simp [DeviceReportBlocking.new]
  | some l =>
    cases l with
    | nil => simp [associationsAnyProtected]
    | cons a rest => simp [associationsAnyProtected]

theorem mem_allReports {rdesc : ReportDescriptor} {report : HidReport} :
    report ∈ allReports rdesc ↔ ∃ rt, report ∈ rdesc.reports rt := by
  simp only [allReports,List.mem_append]
  constructor
  · rintro ((input | output) | feature)
    · exact ⟨.input,input⟩
    · exact ⟨.output,output⟩
    · exact ⟨.feature,feature⟩
  · rintro ⟨rt,inside⟩
    cases rt with
    | input => exact .inl (.inl inside)
    | output => exact .inl (.inr inside)
    | feature => exact .inr inside

theorem seen_declaredChains {rdesc : ReportDescriptor} {path : List HidCollection} :
    Seen (declaredChains rdesc) path ↔
      ∃ rt, ∃ report ∈ rdesc.reports rt, ∃ field ∈ report.fields, path <+: field.collections := by
  simp only [Seen,declaredChains,List.mem_flatMap,List.mem_map,mem_allReports]
  constructor
  · rintro ⟨chain,⟨report,⟨rt,listed⟩,field,inside,rfl⟩,begins⟩
    exact ⟨rt,report,listed,field,inside,begins⟩
  · rintro ⟨rt,report,listed,field,inside,begins⟩
    exact ⟨_,⟨report,⟨rt,listed⟩,field,inside,rfl⟩,begins⟩

/-- Fields that have chains take their own. -/
theorem seen_chains {rdesc : ReportDescriptor} (covered : Covered rdesc) {path : List HidCollection} :
    Seen (chains rdesc) path ↔ Seen (declaredChains rdesc) path := by
  rw [seen_declaredChains]
  simp only [Seen,chains,List.mem_flatMap,List.mem_map,List.mem_range,mem_allReports]
  constructor
  · rintro ⟨chain,⟨report,⟨rt,listed⟩,position,below,rfl⟩,begins⟩
    have inside := List.getElem_mem below
    rw [chainOf_own (List.getElem?_eq_getElem below) (covered rt report listed _ inside)] at begins
    exact ⟨rt,report,listed,_,inside,begins⟩
  · rintro ⟨rt,report,listed,field,inside,begins⟩
    obtain ⟨position,below,rfl⟩ := List.getElem_of_mem inside
    have own := chainOf_own (List.getElem?_eq_getElem below) (covered rt report listed _ inside)
    exact ⟨_,⟨report,⟨rt,listed⟩,position,below,rfl⟩,own ▸ begins⟩

theorem prefix_singleton_iff {α : Type} {x : α} {chain : List α} : [x] <+: chain ↔ chain.head? = some x := by
  cases chain with
  | nil => simp
  | cons y rest => simp [List.cons_prefix_cons,eq_comm]

/-- The roots of a forest. -/
theorem forestOf_eq {α : Type} [DecidableEq α] (chains : List (List α)) :
    ∃ below : α → List (ChainForests.Tree α), forestOf chains = (nextIn chains []).map fun x => .node x (below x) := by
  unfold forestOf
  cases size : chains.flatten.length with
  | zero =>
    have within := within_flatten chains
    rw [size] at within
    have none : nextIn chains [] = [] :=
      List.eq_nil_iff_forall_not_mem.mpr fun x inside => Nat.not_succ_le_zero 0 (within [x] (mem_nextIn.mp inside))
    exact ⟨fun _ => [],by rw [none]; rfl⟩
  | succ depth => exact ⟨_,rfl⟩

section Trees
variable {rdesc : ReportDescriptor} (covered : Covered rdesc) (nested : Nested (declaredChains rdesc)) {info : DeviceInfo}
  (tree : info.collections = collectionsOf rdesc)
include nested tree

theorem interfaceProtected_tree (rt : ReportType) : interfaceProtected info rt = false := by
  have some : info.collections.isEmpty = false := by
    rw [tree,(tree_lossless rdesc nested).tree]
    by_cases none : forestOf (chains rdesc) = []
    · simp [none]
    · rw [if_neg none,shownAll_eq_map,List.isEmpty_map]
      simpa using none
  rw [interfaceProtected,some]
  rfl

include covered

theorem topProtected_tree (rt : ReportType) : hasAlwaysProtectedCollection info rt = true ↔ TopProtected rdesc rt := by
  have roots : hasAlwaysProtectedCollection info rt = true ↔ ∃ top ∈ nextIn (chains rdesc) [],
      isAlwaysProtected (associationOf top).usagePage (associationOf top).usage rt = true := by
    obtain ⟨below,forest⟩ := forestOf_eq (chains rdesc)
    rw [hasAlwaysProtectedCollection,tree,(tree_lossless rdesc nested).tree,shownAll_eq_map,forest]
    cases nextIn (chains rdesc) [] with
    | nil => simp [placeholder,isAlwaysProtected]
    | cons top rest => simp [shown,associationOf]
  rw [roots]
  simp only [mem_nextIn,List.nil_append,seen_chains covered,seen_declaredChains,prefix_singleton_iff,TopProtected]
  constructor
  · rintro ⟨top,⟨dir,report,listed,field,inside,first⟩,always⟩
    exact ⟨dir,report,listed,field,inside,top,first,always⟩
  · rintro ⟨dir,report,listed,field,inside,top,first,always⟩
    exact ⟨top,⟨dir,report,listed,field,inside,first⟩,always⟩

/-- The verdict by the descriptor's map. -/
theorem parsed_verdict (lib : Externals) (numbered : Bool) (vendorId productId : UInt16) (reportId : UInt8)
    (rt : ReportType) :
    verdict (mapFromParsedDescriptor rdesc) lib info numbered vendorId productId reportId rt = true ↔
      SomeDataField rdesc rt reportId (FieldProtects vendorId productId rt reportId) ∨
        ¬ DeclaresData rdesc rt reportId ∧ TopProtected rdesc rt := by
  rw [verdict_iff,interfaceProtected_tree nested tree,Bool.or_false,topProtected_tree covered nested tree,entered_iff]
  refine or_congr_left ?_
  simp only [associated_iff]
  constructor
  · rintro ⟨a,⟨report,listed,same,field,inside,data,c,chain,rfl⟩,protects⟩
    exact ⟨report,listed,same,field,inside,data,c,chain,protects⟩
  · rintro ⟨report,listed,same,field,inside,data,c,chain,protects⟩
    exact ⟨_,⟨report,listed,same,field,inside,data,c,chain,rfl⟩,protects⟩

/-- The verdict by the tree's map. -/
theorem tree_verdict (lib : Externals) (numbered : Bool) (vendorId productId : UInt16) (reportId : UInt8)
    (rt : ReportType) :
    verdict (mapFromCollectionTree info) lib info numbered vendorId productId reportId rt = true ↔
      SomeField rdesc rt reportId (FieldProtects vendorId productId rt reportId) ∨
        ¬ SomeField rdesc rt reportId (fun _ => True) ∧ TopProtected rdesc rt := by
  rw [verdict_iff,interfaceProtected_tree nested tree,Bool.or_false,topProtected_tree covered nested tree,
    entered_tree covered nested tree]
  refine or_congr_left ?_
  simp only [associated_tree covered nested tree,List.mem_map]
  constructor
  · rintro ⟨a,⟨report,listed,same,field,inside,c,chain,rfl⟩,protects⟩
    exact ⟨report,listed,same,field,inside,c,chain,protects⟩
  · rintro ⟨report,listed,same,field,inside,c,chain,protects⟩
    exact ⟨_,⟨report,listed,same,field,inside,c,chain,rfl⟩,protects⟩

end Trees

/-- The two maps give one verdict on every report, in any device with this tree. -/
def MapsAgree (rdesc : ReportDescriptor) : Prop :=
  ∀ lib info numbered vendorId productId reportId rt, info.collections = collectionsOf rdesc →
    verdict (mapFromParsedDescriptor rdesc) lib info numbered vendorId productId reportId rt
      = verdict (mapFromCollectionTree info) lib info numbered vendorId productId reportId rt

/-- The same reports with their fields in another order. -/
def Rearranged (rdesc other : ReportDescriptor) : Prop :=
  ∀ rt, List.Forall₂ (fun r r' => r.reportId = r'.reportId ∧ r.fields.Perm r'.fields) (rdesc.reports rt) (other.reports rt)

/-- Neither verdict depends on the order of the fields. -/
def OrderFree (rdesc : ReportDescriptor) : Prop :=
  ∀ other, Rearranged rdesc other → ∀ lib info info' numbered vendorId productId reportId rt,
    info.collections = collectionsOf rdesc → info'.collections = collectionsOf other →
    verdict (mapFromParsedDescriptor rdesc) lib info numbered vendorId productId reportId rt
        = verdict (mapFromParsedDescriptor other) lib info' numbered vendorId productId reportId rt ∧
      verdict (mapFromCollectionTree info) lib info numbered vendorId productId reportId rt
        = verdict (mapFromCollectionTree info') lib info' numbered vendorId productId reportId rt

/-- Padding decides nothing: beside data, it protects a report only where the data does; alone, it
    does where a top-level collection of the device does. -/
structure PaddingNeutral (rdesc : ReportDescriptor) : Prop where
  beside (vendorId productId : UInt16) (rt : ReportType) (reportId : UInt8) : DeclaresData rdesc rt reportId →
    SomeField rdesc rt reportId (FieldProtects vendorId productId rt reportId) →
    SomeDataField rdesc rt reportId (FieldProtects vendorId productId rt reportId)
  alone (vendorId productId : UInt16) (rt : ReportType) (reportId : UInt8) : ¬ DeclaresData rdesc rt reportId →
    SomeField rdesc rt reportId (fun _ => True) →
    (SomeField rdesc rt reportId (FieldProtects vendorId productId rt reportId) ↔ TopProtected rdesc rt)

theorem Rearranged.symm {rdesc other : ReportDescriptor} (moved : Rearranged rdesc other) : Rearranged other rdesc :=
  fun rt => (moved rt).flip.imp fun _ _ same => ⟨same.1.symm,same.2.symm⟩

theorem exists_forall₂ {α β : Type} {R : α → β → Prop} {xs : List α} {ys : List β} (related : List.Forall₂ R xs ys)
    {x : α} (inside : x ∈ xs) : ∃ y ∈ ys, R x y := by
  induction related with
  | nil => cases inside
  | cons here _ ih =>
    rcases List.mem_cons.mp inside with rfl | later
    · exact ⟨_,List.mem_cons_self,here⟩
    · obtain ⟨y,there,holds⟩ := ih later
      exact ⟨y,List.mem_cons_of_mem _ there,holds⟩

/-- A field of one order is a field of the other. -/
theorem Rearranged.field {rdesc other : ReportDescriptor} (moved : Rearranged rdesc other) {rt : ReportType}
    {report : HidReport} (listed : report ∈ rdesc.reports rt) {field : HidField} (inside : field ∈ report.fields) :
    ∃ report' ∈ other.reports rt, report'.rid = report.rid ∧ field ∈ report'.fields := by
  obtain ⟨report',there,same,perm⟩ := exists_forall₂ (moved rt) listed
  exact ⟨report',there,by rw [HidReport.rid,HidReport.rid,same],perm.subset inside⟩

theorem Rearranged.someField {rdesc other : ReportDescriptor} (moved : Rearranged rdesc other) (rt : ReportType)
    (reportId : UInt8) (P : HidField → Prop) : SomeField rdesc rt reportId P ↔ SomeField other rt reportId P := by
  have forward {rdesc other : ReportDescriptor} (moved : Rearranged rdesc other) :
      SomeField rdesc rt reportId P → SomeField other rt reportId P := by
    rintro ⟨report,listed,rfl,field,inside,holds⟩
    obtain ⟨report',there,same,within⟩ := moved.field listed inside
    exact ⟨report',there,same,field,within,holds⟩
  exact ⟨forward moved,forward moved.symm⟩

theorem someDataField_eq (rdesc : ReportDescriptor) (rt : ReportType) (reportId : UInt8) (P : HidField → Prop) :
    SomeDataField rdesc rt reportId P ↔ SomeField rdesc rt reportId fun f => f.isData = true ∧ P f := Iff.rfl

theorem Rearranged.topProtected {rdesc other : ReportDescriptor} (moved : Rearranged rdesc other) (rt : ReportType) :
    TopProtected rdesc rt ↔ TopProtected other rt := by
  have forward {rdesc other : ReportDescriptor} (moved : Rearranged rdesc other) :
      TopProtected rdesc rt → TopProtected other rt := by
    rintro ⟨dir,report,listed,field,inside,top⟩
    obtain ⟨report',there,-,within⟩ := moved.field listed inside
    exact ⟨dir,report',there,field,within,top⟩
  exact ⟨forward moved,forward moved.symm⟩

theorem Rearranged.covered {rdesc other : ReportDescriptor} (moved : Rearranged rdesc other) (covered : Covered rdesc) :
    Covered other := by
  intro rt report listed field inside
  obtain ⟨report',there,-,within⟩ := moved.symm.field listed inside
  exact covered rt report' there field within

theorem Rearranged.nested {rdesc other : ReportDescriptor} (moved : Rearranged rdesc other)
    (nested : Nested (declaredChains rdesc)) : Nested (declaredChains other) := by
  refine nested.mono fun path seen => ?_
  obtain ⟨rt,report,listed,field,inside,begins⟩ := seen_declaredChains.mp seen
  obtain ⟨report',there,-,within⟩ := moved.symm.field listed inside
  exact seen_declaredChains.mpr ⟨rt,report',there,field,within,begins⟩

section Agreement
variable {rdesc : ReportDescriptor} (covered : Covered rdesc) (nested : Nested (declaredChains rdesc))
include covered nested

/-- The order of the fields never matters. -/
theorem order_free : OrderFree rdesc := by
  intro other moved lib info info' numbered vendorId productId reportId rt tree tree'
  have covered' := moved.covered covered
  have nested' := moved.nested nested
  constructor
  · rw [Bool.eq_iff_iff,parsed_verdict covered nested tree,parsed_verdict covered' nested' tree',DeclaresData,DeclaresData,
      someDataField_eq,someDataField_eq,someDataField_eq,someDataField_eq,moved.someField,moved.someField,
      moved.topProtected]
  · rw [Bool.eq_iff_iff,tree_verdict covered nested tree,tree_verdict covered' nested' tree',moved.someField,moved.someField,
      moved.topProtected]

/-- The maps agree just when padding decides nothing. -/
theorem agree_iff : MapsAgree rdesc ↔ PaddingNeutral rdesc := by
  have data {vendorId productId : UInt16} {rt : ReportType} {reportId : UInt8}
      (found : SomeDataField rdesc rt reportId (FieldProtects vendorId productId rt reportId)) :
      SomeField rdesc rt reportId (FieldProtects vendorId productId rt reportId) ∧ DeclaresData rdesc rt reportId := by
    obtain ⟨report,listed,same,field,inside,isData,protects⟩ := found
    exact ⟨⟨report,listed,same,field,inside,protects⟩,report,listed,same,field,inside,isData,trivial⟩
  have any {rt : ReportType} {reportId : UInt8} {P : HidField → Prop} (found : SomeField rdesc rt reportId P) :
      SomeField rdesc rt reportId fun _ => True := by
    obtain ⟨report,listed,same,field,inside,-⟩ := found
    exact ⟨report,listed,same,field,inside,trivial⟩
  constructor
  · intro agree
    let info : DeviceInfo := { vendorId := 0, productId := 0, deviceId := 0, collections := collectionsOf rdesc,
                               rawDescriptor := [] }
    have tree : info.collections = collectionsOf rdesc := rfl
    have verdicts (vendorId productId : UInt16) (rt : ReportType) (reportId : UInt8) :=
      Bool.eq_iff_iff.mp (agree ⟨fun _ => none,id⟩ info true vendorId productId reportId rt rfl)
    simp only [parsed_verdict covered nested tree,tree_verdict covered nested tree] at verdicts
    constructor
    · intro vendorId productId rt reportId declared found
      rcases (verdicts vendorId productId rt reportId).mpr (.inl found) with own | ⟨undeclared,-⟩
      · exact own
      · exact absurd declared undeclared
    · intro vendorId productId rt reportId undeclared some
      constructor
      · intro found
        rcases (verdicts vendorId productId rt reportId).mpr (.inl found) with own | ⟨-,top⟩
        · exact absurd (data own).2 undeclared
        · exact top
      · intro top
        rcases (verdicts vendorId productId rt reportId).mp (.inr ⟨undeclared,top⟩) with found | ⟨none,-⟩
        · exact found
        · exact absurd some none
  · intro neutral lib info numbered vendorId productId reportId rt tree
    rw [Bool.eq_iff_iff,parsed_verdict covered nested tree,tree_verdict covered nested tree]
    constructor
    · rintro (own | ⟨undeclared,top⟩)
      · exact .inl (data own).1
      · by_cases some : SomeField rdesc rt reportId fun _ => True
        · exact .inl ((neutral.alone vendorId productId rt reportId undeclared some).mpr top)
        · exact .inr ⟨some,top⟩
    · rintro (found | ⟨none,top⟩)
      · by_cases declared : DeclaresData rdesc rt reportId
        · exact .inl (neutral.beside vendorId productId rt reportId declared found)
        · exact .inr ⟨declared,(neutral.alone vendorId productId rt reportId declared (any found)).mp found⟩
      · refine .inr ⟨fun declared => none ?_,top⟩
        obtain ⟨report,listed,same,field,inside,-⟩ := declared
        exact ⟨report,listed,same,field,inside,trivial⟩

/-- Both maps give one verdict, whatever the order of the fields, just when padding decides
    nothing. -/
theorem maps_agree_iff : MapsAgree rdesc ∧ OrderFree rdesc ↔ PaddingNeutral rdesc := by
  rw [← agree_iff covered nested]
  exact and_iff_left (order_free covered nested)

end Agreement

/-- Every field of the padded keyboard lies in its one collection, which protects input reports. -/
theorem padded_field {rt : ReportType} {report : HidReport} (listed : report ∈ paddedKeyboard.reports rt)
    {field : HidField} (inside : field ∈ report.fields) : rt = .input ∧ field.collections = [⟨0,1,[⟨1,6⟩]⟩] := by
  have all : ∀ rt, ∀ report ∈ paddedKeyboard.reports rt, ∀ field ∈ report.fields,
      rt = .input ∧ field.collections = [⟨0,1,[⟨1,6⟩]⟩] := by
    intro rt
    cases rt <;> decide
  exact all rt report listed field inside

theorem padded_neutral : PaddingNeutral paddedKeyboard := by
  have protects (vendorId productId : UInt16) {rt : ReportType} (reportId : UInt8) {report : HidReport}
      (listed : report ∈ paddedKeyboard.reports rt) {field : HidField} (inside : field ∈ report.fields) :
      FieldProtects vendorId productId rt reportId field := by
    obtain ⟨rfl,around⟩ := padded_field listed inside
    refine ⟨⟨0,1,[⟨1,6⟩]⟩,by rw [around]; exact List.mem_cons_self,?_⟩
    exact Bool.or_eq_true_iff.mpr (.inr (by decide))
  constructor
  · rintro vendorId productId rt reportId ⟨report,listed,same,field,inside,isData,-⟩ -
    exact ⟨report,listed,same,field,inside,isData,protects vendorId productId reportId listed inside⟩
  · rintro vendorId productId rt reportId - ⟨report,listed,same,field,inside,-⟩
    refine iff_of_true ⟨report,listed,same,field,inside,protects vendorId productId reportId listed inside⟩ ?_
    obtain ⟨rfl,around⟩ := padded_field listed inside
    exact ⟨.input,report,listed,field,inside,⟨0,1,[⟨1,6⟩]⟩,by rw [around]; rfl,by decide⟩

/-- The padding of the keyboard lies where its key does. -/
theorem maps_agree_padded_keyboard : MapsAgree paddedKeyboard ∧ OrderFree paddedKeyboard :=
  (maps_agree_iff (by intro rt; cases rt <;> decide) (by decide)).mpr padded_neutral

/-- Input report 5 of a vendor collection, with its padding in a keyboard collection. -/
def strayPadding : ReportDescriptor :=
  let vendor : HidCollection := ⟨0,1,[⟨0xFF00,1⟩]⟩
  let keyboard : HidCollection := ⟨1,1,[⟨1,6⟩]⟩
  let value : VariableField :=
    { bitsStart := 8, bitsEnd := 16, collections := [vendor], logicalMinimum := 0, logicalMaximum := 255,
      usage := ⟨0xFF00,2⟩ }
  { inputReports := [⟨some 5,[.variable value,.constant ⟨16,40,[keyboard]⟩]⟩]
    outputReports := []
    featureReports := [] }

def strayInfo : DeviceInfo :=
  { vendorId := 0x1234, productId := 0x5678, deviceId := 1, rawDescriptor := [], collections := collectionsOf strayPadding }

/-- The report is free by the descriptor and protected by the tree. -/
theorem stray_padding_protects :
    Covered strayPadding ∧ Nested (declaredChains strayPadding) ∧
      verdict (mapFromParsedDescriptor strayPadding) ⟨fun _ => none,id⟩ strayInfo true 0x1234 0x5678 5 .input = false ∧
      verdict (mapFromCollectionTree strayInfo) ⟨fun _ => none,id⟩ strayInfo true 0x1234 0x5678 5 .input = true ∧
      ¬ MapsAgree strayPadding := by
  have free : verdict (mapFromParsedDescriptor strayPadding) ⟨fun _ => none,id⟩ strayInfo true 0x1234 0x5678 5 .input
      = false := by decide
  have guarded : verdict (mapFromCollectionTree strayInfo) ⟨fun _ => none,id⟩ strayInfo true 0x1234 0x5678 5 .input
      = true := by decide
  refine ⟨by intro rt; cases rt <;> decide,by decide,free,guarded,fun agree => ?_⟩
  have same := agree ⟨fun _ => none,id⟩ strayInfo true 0x1234 0x5678 5 .input rfl
  rw [free,guarded] at same
  cases same

end FFWebHid.BlockingMaps
