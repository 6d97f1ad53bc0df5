import FFWebHid.Maps
import FFWebHid.Types
import FFWebHid.Blocklist
import FFWebHid.Descriptor
import FFWebHid.ReportBlocking
import FFWebHid.CollectionTrees

/-!
The three verdicts on a report, and the rule that the descriptor states. They are one
as long as no report with constant fields only meets an always-protected collection:
the association map leaves such a report out, and then the send check and the reader
treat it like one that the descriptor does not have.
-/
namespace FFWebHid.ReportProtection
open FFWebHid.Types FFWebHid.Maps FFWebHid.Blocklist FFWebHid.Descriptor FFWebHid.ReportBlocking

/-- A report has an entry. -/
def Entered (map : ReportCollectionMap) (key : UInt8 × ReportType) : Prop := ∃ l, map.lookup key = some l

/-- A collection is in the entry of a report. -/
def Associated (map : ReportCollectionMap) (key : UInt8 × ReportType) (a : ReportAssociation) : Prop :=
  ∃ l, map.lookup key = some l ∧ a ∈ l

private theorem mem_pushNew (entry : List ReportAssociation) (assoc a : ReportAssociation) :
    a ∈ pushNew entry assoc ↔ a ∈ entry ∨ a = assoc := by
  unfold pushNew
  by_cases present : assoc ∈ entry
  · rw [if_pos present]
    constructor
    · exact Or.inl
    · rintro (member | rfl)
      · exact member
      · exact present
  · rw [if_neg present]; simp

private theorem mem_foldl_pushNew (chain entry : List ReportAssociation) (a : ReportAssociation) :
    a ∈ chain.foldl pushNew entry ↔ a ∈ entry ∨ a ∈ chain := by
  have folded := foldl_iff pushNew (fun entry => a ∈ entry) (fun assoc => a = assoc)
    (fun entry assoc => mem_pushNew entry assoc a) chain entry
  simpa using folded

private theorem lookup_addFieldChain (key k : UInt8 × ReportType) (map : ReportCollectionMap) (field : HidField) :
    (addFieldChain key map field).lookup k = if k = key ∧ field.isData then
      some ((field.collections.map associationOf).foldl pushNew ((map.lookup key).getD []))
      else map.lookup k := by
  unfold addFieldChain
  cases data : field.isData
  · simp
  · simp only [if_true,lookup_insert_eq,and_true]

private theorem entered_addFieldChain (key k : UInt8 × ReportType) (map : ReportCollectionMap) (field : HidField) :
    Entered (addFieldChain key map field) k ↔ Entered map k ∨ k = key ∧ field.isData := by
  unfold Entered
  rw [lookup_addFieldChain]
  by_cases added : k = key ∧ field.isData <;> simp [added]

private theorem associated_addFieldChain (key k : UInt8 × ReportType) (a : ReportAssociation)
    (map : ReportCollectionMap) (field : HidField) :
    Associated (addFieldChain key map field) k a ↔
      Associated map k a ∨ k = key ∧ field.isData ∧ ∃ c ∈ field.collections, associationOf c = a := by
  unfold Associated
  rw [lookup_addFieldChain]
  by_cases added : k = key ∧ field.isData
  · obtain ⟨rfl,data⟩ := added
    simp only [data,and_self,if_true,Option.some.injEq,exists_eq_left',mem_foldl_pushNew,List.mem_map,true_and]
    cases map.lookup k <;> simp
  · rw [if_neg added]
    constructor
    · exact Or.inl
    · rintro (old | ⟨same,data,_⟩)
      · exact old
      · exact absurd ⟨same,data⟩ added

/-- Some data field of a report with the identifier satisfies `P`. -/
def SomeDataField (rdesc : ReportDescriptor) (rt : ReportType) (reportId : UInt8) (P : HidField → Prop) : Prop :=
  ∃ r ∈ rdesc.reports rt, r.rid = reportId ∧ ∃ f ∈ r.fields, f.isData ∧ P f

/-- What every data field turns on in the map holds of a report when some data
    field of it does; the three directions do not disturb one another. -/
private theorem mapFromParsedDescriptor_iff (rdesc : ReportDescriptor) (rt : ReportType) (reportId : UInt8)
    (Q : ReportCollectionMap → UInt8 × ReportType → Prop) (P : HidField → Prop)
    (empty : ∀ k, ¬ Q ∅ k)
    (step : ∀ key k map field, Q (addFieldChain key map field) k ↔ Q map k ∨ k = key ∧ field.isData ∧ P field) :
    Q (mapFromParsedDescriptor rdesc) (reportId,rt) ↔ SomeDataField rdesc rt reportId P := by
  have report (dir : ReportType) (map : ReportCollectionMap) (r : HidReport) :
      Q (addReportChains dir map r) (reportId,rt) ↔
        Q map (reportId,rt) ∨ rt = dir ∧ r.rid = reportId ∧ ∃ f ∈ r.fields, f.isData ∧ P f := by
    rw [addReportChains,foldl_iff _ (fun m => Q m (reportId,rt)) _ (step _ _)]
    constructor
    · rintro (old | ⟨f,member,same,data,good⟩)
      · exact Or.inl old
      · exact Or.inr ⟨(Prod.mk.inj same).2,(Prod.mk.inj same).1.symm,f,member,data,good⟩
    · rintro (old | ⟨rfl,rfl,f,member,data,good⟩)
      · exact Or.inl old
      · exact Or.inr ⟨f,member,rfl,data,good⟩
  unfold mapFromParsedDescriptor
  simp only [foldl_iff _ (fun m => Q m (reportId,rt)) _ (report _),empty,false_or]
  cases rt <;> simp [SomeDataField,ReportDescriptor.reports]

theorem entered_iff (rdesc : ReportDescriptor) (rt : ReportType) (reportId : UInt8) :
    Entered (mapFromParsedDescriptor rdesc) (reportId,rt) ↔ SomeDataField rdesc rt reportId fun _ => True :=
  mapFromParsedDescriptor_iff rdesc rt reportId Entered _ (by simp [Entered])
    (fun key k map field => by simpa using entered_addFieldChain key k map field)

theorem associated_iff (rdesc : ReportDescriptor) (rt : ReportType) (reportId : UInt8) (a : ReportAssociation) :
    Associated (mapFromParsedDescriptor rdesc) (reportId,rt) a ↔
      SomeDataField rdesc rt reportId fun f => ∃ c ∈ f.collections, associationOf c = a :=
  mapFromParsedDescriptor_iff rdesc rt reportId (Associated · · a) _ (by simp [Associated])
    (fun key k map field => associated_addFieldChain key k a map field)

mutual
private theorem listed_pruneCollection (map : ReportCollectionMap) (vendorId productId : UInt16) (rt : ReportType) :
    ∀ c : Collection, listedReports rt (pruneCollection map vendorId productId c).toList =
      (c.listed rt).filter (reportKept map vendorId productId rt)
  | ⟨ct,up,u,children,inputs,outputs,features⟩ => by
    have below := listed_pruneCollections map vendorId productId rt children
    rw [pruneCollection]
    split
    next gone =>
      -- A node that disappears had nothing left to list.
      simp only [Bool.and_eq_true,List.isEmpty_iff] at gone
      obtain ⟨⟨⟨inputsGone,outputsGone⟩,featuresGone⟩,childrenGone⟩ := gone
      rw [childrenGone] at below
      cases rt <;> simp_all [Collection.listed,Collection.reports,listedReports,pruneReports]
    next =>
      cases rt <;> simp [Collection.listed,Collection.reports,listedReports,pruneReports,below]
private theorem listed_pruneCollections (map : ReportCollectionMap) (vendorId productId : UInt16) (rt : ReportType) :
    ∀ cs : List Collection, listedReports rt (pruneCollections map vendorId productId cs) =
      (listedReports rt cs).filter (reportKept map vendorId productId rt)
  | [] => rfl
  | c :: rest => by
    rw [pruneCollections,listedReports_append,listed_pruneCollection map vendorId productId rt c,
      listed_pruneCollections map vendorId productId rt rest,listedReports,List.filter_append]
end

/-- The reports of one direction that a page sees of a device. -/
def visibleReports (lib : Externals) (info : DeviceInfo) (rt : ReportType) : List Report :=
  match pruneDeviceInfo lib info with
  | none => []
  | some pruned => listedReports rt pruned.collections

theorem visibleReports_eq (lib : Externals) (info : DeviceInfo) (rt : ReportType) :
    visibleReports lib info rt = (listedReports rt info.collections).filter
      (reportKept (buildReportCollectionMap lib info) info.vendorId info.productId rt) := by
  rw [← listed_pruneCollections]
  unfold visibleReports pruneDeviceInfo
  cases collections : info.collections with
  | nil => rfl
  | cons first rest =>
    simp only [List.isEmpty_cons,Bool.false_eq_true,if_false]
    cases pruned : pruneCollections (buildReportCollectionMap lib info) info.vendorId info.productId (first :: rest) <;>
      rfl

/-- Some collection on the chain of the field protects the report: by a rule, or
    as an always-protected application collection. -/
def ChainProtects (info : DeviceInfo) (rt : ReportType) (reportId : UInt8) (f : HidField) : Prop :=
  ∃ c ∈ f.collections,
    let usagePage := c.usages.head?.map (·.usagePage)
    let usage := c.usages.head?.map (·.usageId)
    isReportBlocked blocklistRules info.vendorId info.productId usagePage usage reportId rt ∨
      (c.collectionType = 1 ∧ isAlwaysProtected usagePage usage rt)

/-- Some top-level collection is always protected for the direction. -/
def TopLevelProtected (info : DeviceInfo) (rt : ReportType) : Prop :=
  ∃ c ∈ info.collections, isAlwaysProtected c.usagePage c.usage rt

/-- The rule: a declared report is protected when a data field of it lies in a
    protecting chain, an undeclared one when a top-level collection is always
    protected. The parameter says which reports count as declared. -/
def Specified (declared : Prop) (info : DeviceInfo) (rdesc : ReportDescriptor) (rt : ReportType) (reportId : UInt8) :
    Prop :=
  (declared ∧ SomeDataField rdesc rt reportId (ChainProtects info rt reportId)) ∨
    (¬ declared ∧ TopLevelProtected info rt)

/-- The descriptor has a report with the identifier. -/
def Declares (rdesc : ReportDescriptor) (rt : ReportType) (reportId : UInt8) : Prop :=
  ∃ r ∈ rdesc.reports rt, r.rid = reportId

/-- A report with a variable or array field. -/
def DeclaresData (rdesc : ReportDescriptor) (rt : ReportType) (reportId : UInt8) : Prop :=
  SomeDataField rdesc rt reportId fun _ => True

/-- The collections of a description are the parse of its raw descriptor. -/
def Parsed (lib : Externals) (info : DeviceInfo) : Prop :=
  info.collections ≠ [] ∧ info.collections = descriptorCollections lib info.rawDescriptor

theorem parsed_descriptor {lib : Externals} {info : DeviceInfo} (parsed : Parsed lib info) :
    ∃ rdesc, lib.tryFrom info.rawDescriptor = some rdesc ∧
      buildReportCollectionMap lib info = mapFromParsedDescriptor rdesc := by
  obtain ⟨present,same⟩ := parsed
  have accepted : info.rawDescriptor ≠ [] ∧ ∃ rdesc, lib.tryFrom info.rawDescriptor = some rdesc := by
    rw [same] at present
    unfold descriptorCollections parseReportDescriptor at present
    by_cases empty : info.rawDescriptor = []
    · simp [empty] at present
    · refine ⟨empty,?_⟩
      cases found : lib.tryFrom info.rawDescriptor with
      | none => simp [empty,found] at present
      | some rdesc => exact ⟨rdesc,rfl⟩
  obtain ⟨nonempty,rdesc,found⟩ := accepted
  exact ⟨rdesc,found,by simp [buildReportCollectionMap,nonempty,found]⟩

private theorem protects_iff (info : DeviceInfo) (rt : ReportType) (reportId : UInt8) (f : HidField) :
    (∃ c ∈ f.collections, (associationOf c).protects info.vendorId info.productId reportId rt) ↔
      ChainProtects info rt reportId f := by
  simp [ChainProtects,ReportAssociation.protects,associationOf]

private theorem anyProtected_iff (info : DeviceInfo) (rdesc : ReportDescriptor) (rt : ReportType) (reportId : UInt8)
    (l : List ReportAssociation) (found : (mapFromParsedDescriptor rdesc).lookup (reportId,rt) = some l) :
    associationsAnyProtected info.vendorId info.productId l reportId rt = true ↔
      SomeDataField rdesc rt reportId (ChainProtects info rt reportId) := by
  have entry (a : ReportAssociation) : a ∈ l ↔
      SomeDataField rdesc rt reportId fun f => ∃ c ∈ f.collections, associationOf c = a := by
    rw [← associated_iff]; simp [Associated,found]
  have nonempty : associationsAnyProtected info.vendorId info.productId l reportId rt =
      l.any (ReportAssociation.protects info.vendorId info.productId reportId rt) := by
    unfold associationsAnyProtected; cases l <;> simp
  rw [nonempty,List.any_eq_true]
  constructor
  · rintro ⟨a,member,protects⟩
    obtain ⟨r,listed,same,f,inside,data,c,chain,rfl⟩ := (entry a).mp member
    exact ⟨r,listed,same,f,inside,data,(protects_iff info rt reportId f).mp ⟨c,chain,protects⟩⟩
  · rintro ⟨r,listed,same,f,inside,data,covered⟩
    obtain ⟨c,chain,protects⟩ := (protects_iff info rt reportId f).mpr covered
    exact ⟨associationOf c,(entry _).mpr ⟨r,listed,same,f,inside,data,c,chain,rfl⟩,protects⟩

/-- A report has an entry exactly when it is declared with data, and then the
    entry gives the verdict of the rule. -/
private theorem lookup_cases (info : DeviceInfo) (rdesc : ReportDescriptor) (rt : ReportType) (reportId : UInt8) :
    (∃ l, (mapFromParsedDescriptor rdesc).lookup (reportId,rt) = some l ∧ DeclaresData rdesc rt reportId ∧
      (associationsAnyProtected info.vendorId info.productId l reportId rt = true ↔
        SomeDataField rdesc rt reportId (ChainProtects info rt reportId))) ∨
    ((mapFromParsedDescriptor rdesc).lookup (reportId,rt) = none ∧ ¬ DeclaresData rdesc rt reportId) := by
  cases found : (mapFromParsedDescriptor rdesc).lookup (reportId,rt) with
  | none =>
    refine Or.inr ⟨rfl,fun declared => ?_⟩
    obtain ⟨l,present⟩ := (entered_iff rdesc rt reportId).mpr declared
    rw [found] at present; cases present
  | some l =>
    exact Or.inl ⟨l,rfl,(entered_iff rdesc rt reportId).mp ⟨l,found⟩,anyProtected_iff info rdesc rt reportId l found⟩

/-- The send check computes the rule. -/
theorem isReportProtected_iff {lib : Externals} {info : DeviceInfo} {rdesc : ReportDescriptor}
    (present : info.collections ≠ []) (built : buildReportCollectionMap lib info = mapFromParsedDescriptor rdesc)
    (numbered : Bool) (rt : ReportType) (reportId : UInt8) :
    (DeviceReportBlocking.new lib info numbered).isReportProtected info.vendorId info.productId reportId rt = true ↔
      Specified (DeclaresData rdesc rt reportId) info rdesc rt reportId := by
  unfold DeviceReportBlocking.isReportProtected Specified
  simp only [DeviceReportBlocking.new,built]
  rcases lookup_cases info rdesc rt reportId with ⟨l,found,declared,verdict⟩ | ⟨absent,undeclared⟩
  · simp [found,declared,verdict]
  · simp [absent,undeclared,hasAlwaysProtectedCollection,interfaceProtected,present,TopLevelProtected]

/-- A report keeps its place in the tree when the send check lets it pass, and
    whenever it has no data field. -/
theorem reportKept_iff {lib : Externals} {info : DeviceInfo} {rdesc : ReportDescriptor}
    (built : buildReportCollectionMap lib info = mapFromParsedDescriptor rdesc) (numbered : Bool) (rt : ReportType)
    (r : Report) :
    reportKept (buildReportCollectionMap lib info) info.vendorId info.productId rt r = true ↔
      (DeclaresData rdesc rt r.reportId → (DeviceReportBlocking.new lib info numbered).isReportProtected
        info.vendorId info.productId r.reportId rt = false) := by
  unfold reportKept DeviceReportBlocking.isReportProtected
  simp only [DeviceReportBlocking.new,built]
  rcases lookup_cases info rdesc rt r.reportId with ⟨l,found,declared,_⟩ | ⟨absent,undeclared⟩
  · simp [found,declared]
  · simp [absent,undeclared]

private theorem mem_declaredInputIds (b : DeviceReportBlocking) (reportId : UInt8) :
    reportId ∈ b.declaredInputIds ↔ Entered b.map (reportId,.input) := by
  simp only [DeviceReportBlocking.declaredInputIds,List.mem_map,List.mem_filter,beq_iff_eq,Entered,
    ← mem_keys_iff_lookup]
  constructor
  · rintro ⟨⟨i,t⟩,⟨member,rfl⟩,rfl⟩; exact member
  · intro member; exact ⟨(reportId,.input),⟨member,rfl⟩,rfl⟩

private theorem mem_blockedInputIds (b : DeviceReportBlocking) (vendorId productId : UInt16) (reportId : UInt8) :
    reportId ∈ b.blockedInputIds vendorId productId ↔ ∃ l, b.map.lookup (reportId,.input) = some l ∧
      associationsAnyProtected vendorId productId l reportId .input = true := by
  simp only [DeviceReportBlocking.blockedInputIds,List.mem_map,List.mem_filter,Bool.and_eq_true,beq_iff_eq,
    lookup_eq_some]
  constructor
  · rintro ⟨⟨⟨i,t⟩,l⟩,⟨member,rfl,blocked⟩,rfl⟩; exact ⟨l,member,blocked⟩
  · rintro ⟨l,member,blocked⟩; exact ⟨⟨(reportId,.input),l⟩,⟨member,rfl,blocked⟩,rfl⟩

/-- The reader drops what the send check calls protected, for any blocking state
    without whole-interface protection. -/
theorem inputFilter_drops (b : DeviceReportBlocking) (vendorId productId : UInt16) (reportId : UInt8)
    (whole : b.interfaceProtected .input = false) :
    (inputFilter b vendorId productId).drops reportId = b.isReportProtected vendorId productId reportId .input := by
  rw [Bool.eq_iff_iff]
  simp only [InputFilter.drops,inputFilter,Bool.or_eq_true,Bool.and_eq_true,List.contains_iff_mem,
    mem_blockedInputIds,Bool.not_eq_true',whole,Bool.false_eq_true,or_false]
  have declared : (b.declaredInputIds.contains reportId = false) ↔ ¬ Entered b.map (reportId,.input) := by
    rw [← mem_declaredInputIds,← List.contains_iff_mem,Bool.not_eq_true]
  rw [declared]
  unfold DeviceReportBlocking.isReportProtected Entered
  cases found : b.map.lookup (reportId,.input) with
  | none => simp [whole]
  | some l => simp

/-! ### One rule, seen from three places -/

/-- The three verdicts on the reports with an identifier are the rule, where every
    report of the descriptor counts as declared. -/
structure OneRule (lib : Externals) (info : DeviceInfo) (numbered : Bool) (rdesc : ReportDescriptor) (rt : ReportType)
    (reportId : UInt8) : Prop where
  shown : ∀ r ∈ listedReports rt info.collections, r.reportId = reportId → (r ∈ visibleReports lib info rt ↔
    (DeviceReportBlocking.new lib info numbered).isReportProtected info.vendorId info.productId reportId rt = false)
  dropped : (inputFilter (DeviceReportBlocking.new lib info numbered) info.vendorId info.productId).drops reportId =
    (DeviceReportBlocking.new lib info numbered).isReportProtected info.vendorId info.productId reportId .input
  specified :
    (DeviceReportBlocking.new lib info numbered).isReportProtected info.vendorId info.productId reportId rt = true ↔
      Specified (Declares rdesc rt reportId) info rdesc rt reportId

theorem parsed_collections {lib : Externals} {info : DeviceInfo} {rdesc : ReportDescriptor} (parsed : Parsed lib info)
    (found : lib.tryFrom info.rawDescriptor = some rdesc) : info.collections = collectionsOf rdesc := by
  obtain ⟨present,same⟩ := parsed
  rw [same] at present ⊢
  unfold descriptorCollections parseReportDescriptor at present ⊢
  split at present
  · exact absurd rfl present
  · next nonempty => rw [if_neg nonempty,found,Option.map_some,Option.getD_some]

/-- The tree lists no report that the descriptor does not have. -/
theorem declares_of_listed {lib : Externals} {info : DeviceInfo} {rdesc : ReportDescriptor} (parsed : Parsed lib info)
    (found : lib.tryFrom info.rawDescriptor = some rdesc) {rt : ReportType} {r : Report}
    (listed : r ∈ listedReports rt info.collections) : Declares rdesc rt r.reportId := by
  rw [parsed_collections parsed found,CollectionTrees.listed_collectionsOf] at listed
  obtain ⟨report,inside,key,fields,rfl⟩ := listed
  exact ⟨report,inside,rfl⟩

theorem declares_of_data {rdesc : ReportDescriptor} {rt : ReportType} {reportId : UInt8} {P : HidField → Prop}
    (some : SomeDataField rdesc rt reportId P) : DeclaresData rdesc rt reportId ∧ Declares rdesc rt reportId := by
  obtain ⟨r,listed,same,f,inside,data,-⟩ := some
  exact ⟨⟨r,listed,same,f,inside,data,trivial⟩,r,listed,same⟩

/-- It makes no difference which reports count as declared just when no report without
    data is declared under an always-protected collection. -/
theorem specified_iff (info : DeviceInfo) (rdesc : ReportDescriptor) (rt : ReportType) (reportId : UInt8) :
    (Specified (DeclaresData rdesc rt reportId) info rdesc rt reportId ↔
        Specified (Declares rdesc rt reportId) info rdesc rt reportId) ↔
      (TopLevelProtected info rt → Declares rdesc rt reportId → DeclaresData rdesc rt reportId) := by
  unfold Specified
  constructor
  · intro same top declared
    by_contra noData
    rcases same.mp (.inr ⟨noData,top⟩) with ⟨-,found⟩ | ⟨undeclared,-⟩
    · exact noData (declares_of_data found).1
    · exact undeclared declared
  · intro covered
    constructor
    · rintro (⟨_,found⟩ | ⟨noData,top⟩)
      · exact .inl ⟨(declares_of_data found).2,found⟩
      · exact .inr ⟨fun declared => noData (covered top declared),top⟩
    · rintro (⟨_,found⟩ | ⟨undeclared,top⟩)
      · exact .inl ⟨(declares_of_data found).1,found⟩
      · exact .inr ⟨fun data => undeclared (declares_of_data data).2,top⟩

/-- For a description that comes from its raw descriptor, the three verdicts on an
    identifier are one rule just when, under an always-protected top-level collection,
    a report of the descriptor with the identifier has a variable or array field. -/
theorem one_rule_iff (lib : Externals) (info : DeviceInfo) (parsed : Parsed lib info) (numbered : Bool) :
    ∃ rdesc, lib.tryFrom info.rawDescriptor = some rdesc ∧ ∀ rt reportId,
      OneRule lib info numbered rdesc rt reportId ↔
        (TopLevelProtected info rt → Declares rdesc rt reportId → DeclaresData rdesc rt reportId) := by
  obtain ⟨rdesc,found,built⟩ := parsed_descriptor parsed
  refine ⟨rdesc,found,fun rt reportId => ?_⟩
  have verdict := isReportProtected_iff parsed.1 built numbered rt reportId
  rw [← specified_iff]
  constructor
  · intro rule
    exact verdict.symm.trans rule.specified
  · intro same
    refine ⟨?_,?_,verdict.trans same⟩
    · rintro r listed rfl
      have declared := declares_of_listed parsed found listed
      rw [visibleReports_eq,List.mem_filter,reportKept_iff built numbered rt r,and_iff_right listed]
      constructor
      · intro kept
        by_cases data : DeclaresData rdesc rt r.reportId
        · exact kept data
        · -- a report without data is kept, and then no top-level collection may protect it
          have free : ¬ TopLevelProtected info rt :=
            fun top => data ((specified_iff info rdesc rt r.reportId).mp same top declared)
          rw [Bool.eq_false_iff,Ne,verdict]
          rintro (⟨some,-⟩ | ⟨-,top⟩)
          · exact data some
          · exact free top
      · exact fun verdict _ => verdict
    · refine inputFilter_drops _ _ _ _ ?_
      simp [DeviceReportBlocking.new,interfaceProtected,parsed.1]

/-- A keyboard with a feature report of constant fields; features of a keyboard are not
    always protected. -/
def spacedKeyboard : ReportDescriptor :=
  let keyboard : HidCollection := ⟨0,1,[⟨1,6⟩]⟩
  let key : VariableField :=
    { bitsStart := 8, bitsEnd := 16, collections := [keyboard], logicalMinimum := 0, logicalMaximum := 255,
      usage := ⟨7,4⟩ }
  { inputReports := [⟨some 1,[.variable key,.constant ⟨16,24,[keyboard]⟩]⟩]
    outputReports := []
    featureReports := [⟨some 3,[.constant ⟨8,16,[keyboard]⟩]⟩] }

def spacedLib : Externals := ⟨fun _ => some spacedKeyboard,id⟩

def spacedInfo : DeviceInfo :=
  { vendorId := 0x1234, productId := 0x5678, deviceId := 1, rawDescriptor := [0x05]
    collections := descriptorCollections spacedLib [0x05] }

theorem spaced_keyboard_one_rule : Parsed spacedLib spacedInfo ∧
    ∀ rt reportId, OneRule spacedLib spacedInfo true spacedKeyboard rt reportId := by
  have parsed : Parsed spacedLib spacedInfo := ⟨List.ne_nil_of_length_pos (by decide),rfl⟩
  obtain ⟨rdesc,found,rule⟩ := one_rule_iff spacedLib spacedInfo parsed true
  obtain rfl : spacedKeyboard = rdesc := Option.some.inj found
  refine ⟨parsed,fun rt reportId => (rule rt reportId).mpr ?_⟩
  rintro top ⟨r,listed,rfl⟩
  cases rt with
  | input =>
    obtain rfl := List.mem_singleton.mp listed
    exact ⟨_,List.mem_singleton.mpr rfl,rfl,_,List.mem_cons_self,rfl,trivial⟩
  | output => cases listed
  | feature =>
    have free : ∀ c ∈ spacedInfo.collections, isAlwaysProtected c.usagePage c.usage .feature = false := by decide
    obtain ⟨c,inside,always⟩ := top
    rw [free c inside] at always
    cases always

/-- A keyboard whose second input report is padding only: the tree lists the
    report and pruning keeps it, but it has no entry and falls back. -/
def paddedKeyboard : ReportDescriptor :=
  let keyboard : HidCollection := ⟨0,1,[⟨1,6⟩]⟩
  let key : VariableField :=
    { bitsStart := 8, bitsEnd := 16, collections := [keyboard], logicalMinimum := 0, logicalMaximum := 255,
      usage := ⟨7,4⟩ }
  { inputReports := [⟨some 1,[.variable key]⟩,⟨some 2,[.constant ⟨8,16,[keyboard]⟩]⟩]
    outputReports := []
    featureReports := [] }

def paddedLib : Externals := ⟨fun _ => some paddedKeyboard,id⟩

def paddedInfo : DeviceInfo :=
  { vendorId := 0x1234, productId := 0x5678, deviceId := 1, rawDescriptor := [0x05]
    collections := descriptorCollections paddedLib [0x05] }

/-- The padding report is one of the descriptor, no data field of it lies in any chain and
    pruning shows it, and yet the send check calls it protected. -/
theorem padding_report_falls_back :
    Parsed paddedLib paddedInfo ∧ Declares paddedKeyboard .input 2 ∧
    ¬ SomeDataField paddedKeyboard .input 2 (ChainProtects paddedInfo .input 2) ∧
    (∃ r ∈ listedReports .input paddedInfo.collections, r.reportId = 2 ∧
      r ∈ visibleReports paddedLib paddedInfo .input) ∧
    (DeviceReportBlocking.new paddedLib paddedInfo true).isReportProtected paddedInfo.vendorId paddedInfo.productId 2
      .input = true ∧
    ¬ OneRule paddedLib paddedInfo true paddedKeyboard .input 2 := by
  have seen : ∃ r ∈ listedReports .input paddedInfo.collections, r.reportId = 2 ∧
      r ∈ visibleReports paddedLib paddedInfo .input := by decide
  have guarded : (DeviceReportBlocking.new paddedLib paddedInfo true).isReportProtected paddedInfo.vendorId
      paddedInfo.productId 2 .input = true := by decide
  refine ⟨⟨List.ne_nil_of_length_pos (by decide),rfl⟩,?_,?_,seen,guarded,?_⟩
  · exact ⟨_,List.mem_cons_of_mem _ (List.mem_singleton.mpr rfl),rfl⟩
  · rintro ⟨r,listed,same,f,inside,data,-⟩
    simp only [ReportDescriptor.reports,paddedKeyboard,List.mem_cons,List.not_mem_nil,or_false] at listed
    rcases listed with rfl | rfl
    · simp [HidReport.rid] at same
    · simp only [List.mem_cons,List.not_mem_nil,or_false] at inside
      subst inside
      simp [HidField.isData] at data
  · intro rule
    obtain ⟨r,listed,same,visible⟩ := seen
    rw [(rule.shown r listed same).mp visible] at guarded
    cases guarded

end FFWebHid.ReportProtection
