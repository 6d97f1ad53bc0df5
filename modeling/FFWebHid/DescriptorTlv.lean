import FFWebHid.Base64
import FFWebHid.CollectionTrees
import FFWebHid.TlvRoundTrip

/-!
Which descriptors have collection trees that survive the way to the extension.
-/
namespace FFWebHid.DescriptorTlv
open FFWebHid.Types FFWebHid.PackedNumbers FFWebHid.Descriptor FFWebHid.CollectionTrees
open FFWebHid.CollectionsTlv FFWebHid.TlvRoundTrip

/-- The numbers of a field have 32 bits. -/
structure AttributesTyped (a : FieldAttributes) : Prop where
  logicalMinimum : InRange 32 a.logicalMinimum
  logicalMaximum : InRange 32 a.logicalMaximum
  physicalMinimum : InRange 32 (a.physicalMinimum.getD 0)
  physicalMaximum : InRange 32 (a.physicalMaximum.getD 0)

def FieldTyped : HidField → Prop
  | .variable v => AttributesTyped v.toFieldAttributes
  | .array a => AttributesTyped a.toFieldAttributes ∧ a.usages.length < 2 ^ 32
  | .constant _ => True

/-- A field whose item loses nothing: it carries data, its unit exponent fits in a byte, and
    a range of usages has its bounds. -/
def FieldSurvives : HidField → Prop
  | .variable v => InRange 8 (v.unitExponent.getD 0)
  | .array a => InRange 8 (a.unitExponent.getD 0) ∧ (a.isUsageRange = true → a.usageRange.isSome = true)
  | .constant _ => False

theorem unitSystemFromNibble_mem (n : Nat) : unitSystemFromNibble n ∈ unitSystems := by
  unfold unitSystemFromNibble
  split <;> decide

theorem nibbleAsI8_inRange {n : Nat} (nibble : n < 16) : InRange 8 (nibbleAsI8 n) := by
  unfold nibbleAsI8 InRange
  split <;> omega

/-- The unit of a field is always a known one, with small exponents. -/
theorem decodeUnitSafe_spec (u : Option UInt32) :
    (decodeUnitSafe u).unitSystem ∈ unitSystems ∧ InRange 8 (decodeUnitSafe u).unitLen ∧
      InRange 8 (decodeUnitSafe u).unitMass ∧ InRange 8 (decodeUnitSafe u).unitTime ∧
      InRange 8 (decodeUnitSafe u).unitTemp ∧ InRange 8 (decodeUnitSafe u).unitCur ∧
      InRange 8 (decodeUnitSafe u).unitLum := by
  cases u with
  | none => decide
  | some u =>
    have nibble (i : Nat) : InRange 8 (nibbleAsI8 (u.toNat / 16 ^ i % 16)) :=
      nibbleAsI8_inRange (Nat.mod_lt _ (by decide))
    exact ⟨unitSystemFromNibble_mem _,nibble 1,nibble 2,nibble 3,nibble 4,nibble 5,nibble 6⟩

/-- A list of usages stays, or becomes a range with both bounds on the page of one of them. -/
theorem detectContiguousRange_cases (usages : List Nat) :
    detectContiguousRange usages = ⟨usages,false,none,none⟩ ∨
      ∃ first ∈ usages, ∃ hi < 0x10000, detectContiguousRange usages
        = ⟨[],true,some (first / 0x10000 * 0x10000 + first % 0x10000),some (first / 0x10000 * 0x10000 + hi)⟩ := by
  unfold detectContiguousRange
  split
  · dsimp only
    split
    · exact .inr ⟨_,List.mem_cons_self,_,Nat.mod_lt _ (by decide),rfl⟩
    · exact .inl rfl
  · exact .inl rfl

theorem packUsage_lt (u : Usage) : packUsage u < 2 ^ 32 := by
  have page := u.usagePage.toNat_lt
  have id := u.usageId.toNat_lt
  unfold packUsage
  omega

theorem survives_variable (first : VariableField) (usages : List Nat) (count : Nat) :
    Survives (makeAggregatedVariable first usages count) ↔ FieldSurvives (.variable first) := by
  constructor
  · exact fun survives => survives.unitExponent
  · intro exponent
    obtain ⟨system,length,mass,time,temperature,current,luminousIntensity⟩ := decodeUnitSafe_spec first.unit
    refine ⟨system,exponent,length,mass,time,temperature,current,luminousIntensity,?_,?_,?_⟩
    all_goals
      unfold makeAggregatedVariable
      rcases detectContiguousRange_cases usages with list | ⟨u,-,hi,-,range⟩
      · simp [list]
      · simp [range]

/-- The bounds of an array field are those of its declared range. -/
theorem arrayUsageRange_cases (a : ArrayField) :
    (a.isUsageRange = false ∧ arrayUsageRange a = ⟨a.usages.map packUsage,false,none,none⟩) ∨
      (a.isUsageRange = true ∧ a.usageRange = none ∧ arrayUsageRange a = ⟨[],true,none,none⟩) ∨
      (a.isUsageRange = true ∧ ∃ minimum maximum, a.usageRange = some (minimum,maximum) ∧
        arrayUsageRange a = ⟨[],true,some (packUsage minimum),
          some (packUsage { maximum with usagePage := minimum.usagePage })⟩) := by
  unfold arrayUsageRange
  cases declared : a.isUsageRange with
  | false => exact .inl ⟨rfl,rfl⟩
  | true =>
    rcases found : a.usageRange with _ | ⟨minimum,maximum⟩
    · exact .inr (.inl ⟨rfl,rfl,rfl⟩)
    · exact .inr (.inr ⟨rfl,minimum,maximum,rfl,rfl⟩)

theorem survives_array (a : ArrayField) : Survives (makeArrayField a) ↔ FieldSurvives (.array a) := by
  obtain ⟨system,length,mass,time,temperature,current,luminousIntensity⟩ := decodeUnitSafe_spec a.unit
  have bounds : ((makeArrayField a).usageMinimum.isSome = (makeArrayField a).isRange ∧
        (makeArrayField a).usageMaximum.isSome = (makeArrayField a).isRange ∧
        ((makeArrayField a).isRange = true → (makeArrayField a).usages = none ∨ (makeArrayField a).usages = some [])) ↔
      (a.isUsageRange = true → a.usageRange.isSome = true) := by
    unfold makeArrayField
    rcases arrayUsageRange_cases a with ⟨declared,range⟩ | ⟨declared,none,range⟩ | ⟨declared,low,high,found,range⟩
    · simp [range,declared]
    · simp [range,declared,none]
    · simp [range,declared,found]
  constructor
  · exact fun survives => ⟨survives.unitExponent,bounds.mp ⟨survives.minimum,survives.maximum,survives.list⟩⟩
  · rintro ⟨exponent,range⟩
    obtain ⟨minimum,maximum,list⟩ := bounds.mpr range
    exact ⟨system,exponent,length,mass,time,temperature,current,luminousIntensity,minimum,maximum,list⟩

theorem not_survives_constant (c : ConstantField) :
    ¬ Survives { reportSize := max (bitLength c.bitsStart c.bitsEnd) 1, reportCount := 1, isConstant := true } := by
  intro survives
  have unknown : "" ∉ unitSystems := by decide
  exact unknown survives.unitSystem

/-- A property of items that each field decides, those of a run alike, holds of the items
    just when it is decided so by the fields. -/
theorem forall_convertFrom_iff {P : Field → Prop} {Q : HidField → Prop}
    (aggregated : ∀ first usages count, P (makeAggregatedVariable first usages count) ↔ Q (.variable first))
    (alike : ∀ v first : VariableField, varSignature v.toFieldAttributes = varSignature first.toFieldAttributes →
      (Q (.variable v) ↔ Q (.variable first)))
    (arrays : ∀ a, P (makeArrayField a) ↔ Q (.array a))
    (constants : ∀ c : ConstantField,
      P { reportSize := max (bitLength c.bitsStart c.bitsEnd) 1, reportCount := 1, isConstant := true }
        ↔ Q (.constant c))
    (run : Option VariableRun) (fields : List HidField) :
    (∀ item ∈ convertFrom run fields, P item) ↔
      (∀ r, run = some r → Q (.variable r.first)) ∧ ∀ field ∈ fields, Q field := by
  have closed (run : Option VariableRun) :
      (∀ item ∈ (run.map (·.item)).toList, P item) ↔ ∀ r, run = some r → Q (.variable r.first) := by
    cases run with
    | none => simp
    | some r => simp [VariableRun.item,aggregated]
  induction fields generalizing run with
  | nil =>
    rw [convertFrom,closed]
    simp
  | cons field rest ih =>
    rcases field with v | a | c
    · cases run with
      | none => simp [convertFrom,ih,VariableRun.start]
      | some r =>
        rw [convertFrom]
        split
        · rename_i continues
          simp only [VariableRun.continues,Bool.and_eq_true,beq_iff_eq] at continues
          simp [ih,alike v r.first continues.2]
        · simp [ih,VariableRun.start,VariableRun.item,aggregated]
    · rw [convertFrom,List.forall_mem_append,closed]
      simp only [List.forall_mem_cons,arrays,ih none]
      simp
    · rw [convertFrom,List.forall_mem_append,closed]
      simp only [List.forall_mem_cons,constants,ih none]
      simp

/-- The items of some fields lose nothing just when no field does. -/
theorem survives_convert (fields : List HidField) :
    (∀ item ∈ convertFieldsAggregate fields, Survives item) ↔ ∀ field ∈ fields, FieldSurvives field := by
  have alike (v first : VariableField) (same : varSignature v.toFieldAttributes = varSignature first.toFieldAttributes) :
      FieldSurvives (.variable v) ↔ FieldSurvives (.variable first) := by
    have exponent : v.unitExponent.getD 0 = first.unitExponent.getD 0 := congrArg VarSig.unitExponent same
    rw [FieldSurvives,FieldSurvives,exponent]
  refine (forall_convertFrom_iff survives_variable alike survives_array (fun c => ?_) none fields).trans (by simp)
  exact iff_of_false (not_survives_constant c) id

theorem bitLength_lt (bitsStart bitsEnd : Nat) : bitLength bitsStart bitsEnd < 2 ^ 32 := Nat.mod_lt _ (by decide)

theorem typed_variable {first : VariableField} (typed : AttributesTyped first.toFieldAttributes) (usages : List Nat)
    (small : ∀ u ∈ usages, u < 2 ^ 32) (short : usages.length < 2 ^ 32) :
    Typed (makeAggregatedVariable first usages usages.length) := by
  have size : max (bitLength first.bitsStart first.bitsEnd) 1 < 2 ^ 32 := by
    have bound := bitLength_lt first.bitsStart first.bitsEnd
    omega
  have count : max usages.length 1 < 2 ^ 32 := by omega
  rcases detectContiguousRange_cases usages with list | ⟨u,inside,hi,low,range⟩
  · refine ⟨size,count,typed.logicalMinimum,typed.logicalMaximum,typed.physicalMinimum,typed.physicalMaximum,?_,?_,?_⟩
    all_goals
      simp only [makeAggregatedVariable,list]
    · decide
    · decide
    · rintro listed ⟨⟩
      exact ⟨short,small⟩
  · have bound := small u inside
    refine ⟨size,count,typed.logicalMinimum,typed.logicalMaximum,typed.physicalMinimum,typed.physicalMaximum,?_,?_,?_⟩
    all_goals
      simp only [makeAggregatedVariable,range,Option.getD_some]
    · omega
    · omega
    · rintro listed ⟨⟩

theorem typed_array {a : ArrayField} (typed : FieldTyped (.array a)) : Typed (makeArrayField a) := by
  obtain ⟨attributes,short⟩ := typed
  have count : max (a.reportCount % 2 ^ 32) 1 < 2 ^ 32 := by omega
  have size : max (bitLength a.bitsStart a.bitsEnd / max (a.reportCount % 2 ^ 32) 1) 1 < 2 ^ 32 := by
    have bound := bitLength_lt a.bitsStart a.bitsEnd
    have part := Nat.div_le_self (bitLength a.bitsStart a.bitsEnd) (max (a.reportCount % 2 ^ 32) 1)
    omega
  rcases arrayUsageRange_cases a with ⟨-,range⟩ | ⟨-,-,range⟩ | ⟨-,low,high,-,range⟩
  all_goals
    refine ⟨size,count,attributes.logicalMinimum,attributes.logicalMaximum,attributes.physicalMinimum,
      attributes.physicalMaximum,?_,?_,?_⟩
  all_goals
    simp only [makeArrayField,range,Option.getD_some,Option.getD_none]
  · decide
  · decide
  · rintro listed ⟨⟩
    exact ⟨by rwa [List.length_map],List.forall_mem_map.mpr fun u _ => packUsage_lt u⟩
  · decide
  · decide
  · rintro listed ⟨⟩
  · exact packUsage_lt low
  · exact packUsage_lt _
  · rintro listed ⟨⟩

theorem typed_constant (c : ConstantField) :
    Typed { reportSize := max (bitLength c.bitsStart c.bitsEnd) 1, reportCount := 1, isConstant := true } := by
  have size : max (bitLength c.bitsStart c.bitsEnd) 1 < 2 ^ 32 := by
    have bound := bitLength_lt c.bitsStart c.bitsEnd
    omega
  have one : 1 < 2 ^ 32 := by decide
  have zero : InRange 32 0 := by decide
  exact ⟨size,one,zero,zero,zero,zero,Nat.two_pow_pos 32,Nat.two_pow_pos 32,by rintro usages ⟨⟩⟩

/-- A run has numbers of 32 bits, and its usages with the fields that are left are that few. -/
structure RunTyped (r : VariableRun) (fields : List HidField) : Prop where
  first : AttributesTyped r.first.toFieldAttributes
  usages : ∀ u ∈ r.usages, u < 2 ^ 32
  short : r.usages.length + fields.length < 2 ^ 32

theorem runTyped_start {v : VariableField} (typed : AttributesTyped v.toFieldAttributes) {rest : List HidField}
    (short : rest.length + 1 < 2 ^ 32) : RunTyped (.start v) rest := by
  refine ⟨typed,?_,?_⟩
  · intro u inside
    obtain rfl := List.mem_singleton.mp inside
    exact packUsage_lt _
  · rw [VariableRun.start,List.length_singleton]
    omega

theorem plain_run {r : VariableRun} {fields : List HidField} (typed : RunTyped r fields) :
    Typed r.item ∧ r.item.strings = [] := by
  refine ⟨?_,rfl⟩
  have reversed := typed_variable typed.first r.usages.reverse
    (fun u inside => typed.usages u (List.mem_reverse.mp inside))
    (by rw [List.length_reverse]; exact Nat.lt_of_le_of_lt (Nat.le_add_right _ _) typed.short)
  rwa [List.length_reverse] at reversed

theorem plain_convertFrom {run : Option VariableRun} {fields : List HidField} (begun : ∀ r ∈ run, RunTyped r fields)
    (typed : ∀ field ∈ fields, FieldTyped field) (short : fields.length < 2 ^ 32) :
    ∀ item ∈ convertFrom run fields, Typed item ∧ item.strings = [] := by
  have closed {run : Option VariableRun} {fields : List HidField} (begun : ∀ r ∈ run, RunTyped r fields) :
      ∀ item ∈ (run.map (·.item)).toList, Typed item ∧ item.strings = [] := by
    cases run with
    | none => simp
    | some r =>
      rintro item inside
      obtain rfl : item = r.item := by simpa using inside
      exact plain_run (begun r rfl)
  induction fields generalizing run with
  | nil => exact closed begun
  | cons field rest ih =>
    obtain ⟨first,later⟩ := List.forall_mem_cons.mp typed
    rw [List.length_cons] at short
    have fewer : rest.length < 2 ^ 32 := by omega
    have unopened : ∀ r ∈ (none : Option VariableRun), RunTyped r rest := by rintro r ⟨⟩
    have fresh := ih unopened later fewer
    rcases field with v | a | c
    · have opened : ∀ r ∈ some (VariableRun.start v), RunTyped r rest := by
        rintro r ⟨⟩
        exact runTyped_start first short
      have started := ih opened later fewer
      cases run with
      | none => exact started
      | some r =>
        have opened := begun r rfl
        rw [convertFrom]
        split
        · refine ih ?_ later fewer
          rintro r' ⟨⟩
          refine ⟨opened.first,List.forall_mem_cons.mpr ⟨packUsage_lt _,opened.usages⟩,?_⟩
          have short := opened.short
          simp only [List.length_cons] at short ⊢
          omega
        · exact List.forall_mem_cons.mpr ⟨plain_run opened,started⟩
    · rw [convertFrom]
      exact List.forall_mem_append.mpr ⟨closed begun,List.forall_mem_cons.mpr ⟨⟨typed_array first,rfl⟩,fresh⟩⟩
    · rw [convertFrom]
      exact List.forall_mem_append.mpr ⟨closed begun,List.forall_mem_cons.mpr ⟨⟨typed_constant c,rfl⟩,fresh⟩⟩

/-! ### The trees of descriptors -/

/-- The parser's numbers have 32 bits, and no report has more fields than that counts. -/
def DescriptorTyped (rdesc : ReportDescriptor) : Prop :=
  ∀ rt, ∀ report ∈ rdesc.reports rt, report.fields.length < 2 ^ 32 ∧ ∀ field ∈ report.fields, FieldTyped field

theorem plain_collectionsOf {rdesc : ReportDescriptor} (typed : DescriptorTyped rdesc) :
    PlainForest (collectionsOf rdesc) := by
  intro rt r listed
  obtain ⟨report,inside,key,-,rfl⟩ := (listed_collectionsOf rdesc rt r).mp listed
  obtain ⟨short,fields⟩ := typed rt report inside
  have part := fieldsIn_sublist report key
  refine plain_convertFrom (by rintro r ⟨⟩) (fun field there => fields field (part.subset there)) ?_
  exact Nat.lt_of_le_of_lt part.length_le short

/-- Every field that lies in a collection loses nothing. -/
def DescriptorSurvives (rdesc : ReportDescriptor) : Prop :=
  ∀ rt, ∀ report ∈ rdesc.reports rt, ∀ placed ∈ chained report, homeOf placed ≠ none → FieldSurvives placed.1

theorem survives_collectionsOf (rdesc : ReportDescriptor) :
    (∀ rt, ∀ r ∈ listedReports rt (collectionsOf rdesc), ∀ item ∈ r.items, Survives item) ↔
      DescriptorSurvives rdesc := by
  constructor
  · intro all rt report inside placed there home
    obtain ⟨key,found⟩ := Option.ne_none_iff_exists'.mp home
    have filed : placed.1 ∈ fieldsIn (chained report) key :=
      List.mem_map_of_mem (List.mem_filter.mpr ⟨there,by simpa using found⟩)
    have listed := (listed_collectionsOf rdesc rt _).mpr ⟨report,inside,key,List.ne_nil_of_mem filed,rfl⟩
    exact (survives_convert _).mp (all rt _ listed) placed.1 filed
  · intro all rt r listed
    obtain ⟨report,inside,key,-,rfl⟩ := (listed_collectionsOf rdesc rt r).mp listed
    refine (survives_convert _).mpr fun field filed => ?_
    obtain ⟨placed,kept,rfl⟩ := List.mem_map.mp filed
    obtain ⟨there,home⟩ := List.mem_filter.mp kept
    exact all rt report inside placed there (by simp [of_decide_eq_true home])

/-- Both readers give back the forest that was written, but for empty lists of usages. -/
def RoundTrips (lib : Libraries) (cs : List Collection) : Prop :=
  (∃ decoded, decodeCollectionsTlv lib (serialize lib cs) = some decoded ∧ Same decoded cs) ∧
    ∃ decoded, deserialize lib (serialize lib cs) = some decoded ∧ Same decoded cs

theorem same_carried_iff {side : Side} (settled : Side.Settled side) (cs : List Collection) :
    Same (mapForest (carried side) cs) cs ↔ ∀ rt, ∀ r ∈ listedReports rt cs, ∀ item ∈ r.items, Survives item := by
  rw [Same,mapForest_comp,mapForest_eq_iff]
  simp only [Function.comp_apply,settle_carried_iff settled]

/-- The tree of a descriptor comes back just when every field in it carries data, with a
    unit exponent of one byte and, if its usages are a range, with its bounds. -/
theorem roundTrips_iff (lib : Libraries) {ext : Externals} {bytes : Bytes} {rdesc : ReportDescriptor}
    (read : ext.tryFrom bytes = some rdesc) (typed : DescriptorTyped rdesc) {cs : List Collection}
    (parsed : parseReportDescriptor ext bytes = some cs) (short : (encodeCollections cs).length < 2 ^ 32) :
    RoundTrips lib cs ↔ DescriptorSurvives rdesc := by
  obtain rfl : collectionsOf rdesc = cs := by
    rw [parseReportDescriptor,read] at parsed
    exact Option.some.inj parsed
  have plain := plain_collectionsOf typed
  have rustSide : Side.Settled (rust lib) := .inl rfl
  have jsSide : Side.Settled (js lib) := .inr rfl
  unfold RoundTrips
  simp only [deserialize_serialize lib plain short,decodeCollectionsTlv_serialize lib plain short,Option.some.injEq,
    exists_eq_left',same_carried_iff rustSide,same_carried_iff jsSide,and_self,survives_collectionsOf]

/-- The codec itself; there are no strings in the trees below. -/
def codec : Libraries where
  encode := Base64.encode
  decode := Base64.decode
  decode_encode := Base64.decode_encode
  decode_empty := rfl
  fromUtf8Lossy _ := ""
  textDecoder _ := ""

def mouse : HidCollection := ⟨0,1,[⟨1,2⟩]⟩

def button (i : Nat) : HidField :=
  .variable
    { bitsStart := i, bitsEnd := i + 1, collections := [mouse], logicalMinimum := 0, logicalMaximum := 1,
      usage := ⟨9,UInt16.ofNat (i + 1)⟩ }

/-- One input report with some fields. -/
def inputDescriptor (fields : List HidField) : ReportDescriptor := ⟨[⟨none,fields⟩],[],[]⟩

/-- Eight buttons fill a byte. -/
def eightButtons : ReportDescriptor := inputDescriptor ((List.range 8).map button)

/-- Three buttons are padded to a byte. -/
def threeButtons : ReportDescriptor := inputDescriptor ((List.range 3).map button ++ [.constant ⟨3,8,[mouse]⟩])

def eightButtonBytes : Bytes :=
  [0x05,0x01,0x09,0x02,0xA1,0x01,0x05,0x09,0x19,0x01,0x29,0x08,0x15,0x00,0x25,0x01,0x75,0x01,0x95,0x08,0x81,0x02,0xC0]

def threeButtonBytes : Bytes :=
  [0x05,0x01,0x09,0x02,0xA1,0x01,0x05,0x09,0x19,0x01,0x29,0x03,0x15,0x00,0x25,0x01,0x75,0x01,0x95,0x03,0x81,0x02,
    0x75,0x05,0x95,0x01,0x81,0x01,0xC0]

/-- The parser on these descriptors. -/
def mice : Externals where
  tryFrom bytes :=
    if bytes = eightButtonBytes then some eightButtons else if bytes = threeButtonBytes then some threeButtons else none
  sha256Hex := id

theorem inputDescriptor_typed {fields : List HidField} (short : fields.length < 2 ^ 32)
    (typed : ∀ field ∈ fields, FieldTyped field) : DescriptorTyped (inputDescriptor fields) := by
  intro rt report inside
  cases rt with
  | input =>
    obtain rfl := List.mem_singleton.mp inside
    exact ⟨short,typed⟩
  | output => cases inside
  | feature => cases inside

theorem button_typed (i : Nat) : FieldTyped (button i) := by
  have zero : InRange 32 0 := by decide
  have one : InRange 32 1 := by decide
  exact ⟨zero,one,zero,zero⟩

/-- The tree of a mouse with eight buttons comes back. -/
theorem eightButtons_roundTrip : RoundTrips codec (collectionsOf eightButtons) := by
  have typed : DescriptorTyped eightButtons :=
    inputDescriptor_typed (by decide) (List.forall_mem_map.mpr fun i _ => button_typed i)
  have read : mice.tryFrom eightButtonBytes = some eightButtons := rfl
  have parsed : parseReportDescriptor mice eightButtonBytes = some (collectionsOf eightButtons) := rfl
  refine (roundTrips_iff codec read typed parsed (by decide +kernel)).mpr ?_
  intro rt report inside placed there _
  cases rt with
  | input =>
    obtain rfl := List.mem_singleton.mp inside
    have member : placed.1 ∈ (List.range 8).map button := by
      have mapped := List.mem_map_of_mem (f := (·.1)) there
      rwa [chained,chained_fields] at mapped
    obtain ⟨i,-,same⟩ := List.mem_map.mp member
    have small : InRange 8 0 := by decide
    rw [← same]
    exact small
  | output => cases inside
  | feature => cases inside

/-- The padding of a mouse with three buttons is written without a unit system, and read
    as an item of a reserved one. -/
theorem padding_reserved :
    parseReportDescriptor mice threeButtonBytes = some (collectionsOf threeButtons) ∧
      (∃ r ∈ listedReports .input (collectionsOf threeButtons), ∃ item ∈ r.items,
        item.isConstant = true ∧ item.unitSystem = "") ∧
      (∃ decoded, decodeCollectionsTlv codec (serialize codec (collectionsOf threeButtons)) = some decoded ∧
        ∀ r ∈ listedReports .input decoded, ∀ item ∈ r.items,
          item.isConstant = true → item.unitSystem = "reserved") ∧
      ¬ RoundTrips codec (collectionsOf threeButtons) := by
  have typed : DescriptorTyped threeButtons := by
    refine inputDescriptor_typed (by decide) (List.forall_mem_append.mpr ⟨?_,?_⟩)
    · exact List.forall_mem_map.mpr fun i _ => button_typed i
    · simp [FieldTyped]
  have plain := plain_collectionsOf typed
  have short : (encodeCollections (collectionsOf threeButtons)).length < 2 ^ 32 := by decide +kernel
  have padding : ∃ r ∈ listedReports .input (collectionsOf threeButtons), ∃ item ∈ r.items,
      item.isConstant = true ∧ item.unitSystem = "" := by decide +kernel
  refine ⟨rfl,padding,⟨_,decodeCollectionsTlv_serialize codec plain short,by decide +kernel⟩,?_⟩
  rintro ⟨⟨decoded,read,same⟩,-⟩
  cases read.symm.trans (decodeCollectionsTlv_serialize codec plain short)
  obtain ⟨r,listed,item,inside,-,unknown⟩ := padding
  have survives := (same_carried_iff (.inr rfl) _).mp same .input r listed item inside
  have absent : "" ∉ unitSystems := by decide
  exact absent (unknown ▸ survives.unitSystem)

end FFWebHid.DescriptorTlv
