import Mathlib.Algebra.Group.Nat.Defs
import Mathlib.Data.List.SplitBy
import FFWebHid.Descriptor

/-!
What the items of a report say about its fields. Expanding the items gives the
fields back as long as no width, count or usage leaves the numbers that the items
are computed with.
-/
namespace FFWebHid.FieldAggregation
open FFWebHid.Types FFWebHid.Descriptor

/-- Ranges, unit and flags. An undeclared physical range is 0 to 0, a unit is given by its
    system and its exponents. -/
structure Attributes where
  logicalRange : Int × Int
  physicalRange : Int × Int
  unitExponent : Int
  unit : DecodedUnit
  isAbsolute : Bool
  isLinear : Bool
  isVolatile : Bool
  isBufferedBytes : Bool
  hasNull : Bool
  hasPreferredState : Bool
  wrap : Bool
  deriving DecidableEq, Repr

/-- The usages that each element of an array field chooses from. -/
inductive Choice where
  | undeclared
  | among (usages : List Nat)
  | between (lowest highest : Nat)
  deriving DecidableEq, Repr

/-- A field by itself: its bits, its usage, its attributes. An array field has all its
    elements in its bits. -/
inductive Described where
  | variable (bits : Nat) (usage : Option Nat) (attributes : Attributes)
  | array (bits elements : Nat) (usages : Choice) (attributes : Attributes)
  | constant (bits : Nat)
  deriving DecidableEq, Repr

/-- The unit systems of the HID specification. -/
def systemName : BitVec 4 → String
  | 0x0 => "none"
  | 0x1 => "si-linear"
  | 0x2 => "si-rotation"
  | 0x3 => "english-linear"
  | 0x4 => "english-rotation"
  | 0xF => "vendor-defined"
  | _ => "reserved"

/-- A unit item as the HID specification has it: the lowest nibble is the system, and the next
    six are exponents in two's complement. An undeclared unit is the item 0. -/
def declaredUnit (unit : Option UInt32) : DecodedUnit :=
  let nibble (i : Nat) : BitVec 4 := (unit.getD 0).toBitVec.extractLsb' (4 * i) 4
  ⟨systemName (nibble 0),(nibble 1).toInt,(nibble 2).toInt,(nibble 3).toInt,(nibble 4).toInt,(nibble 5).toInt,
    (nibble 6).toInt⟩

def attributes (v : FieldAttributes) : Attributes where
  logicalRange := (v.logicalMinimum,v.logicalMaximum)
  physicalRange := (v.physicalMinimum.getD 0,v.physicalMaximum.getD 0)
  unitExponent := v.unitExponent.getD 0
  unit := declaredUnit v.unit
  isAbsolute := v.isAbsolute
  isLinear := v.isLinear
  isVolatile := v.isVolatile.getD false
  isBufferedBytes := v.isBufferedBytes
  hasNull := v.hasNullState
  hasPreferredState := v.hasPreferredState
  wrap := v.wraps

def declaredChoice (a : ArrayField) : Choice :=
  match a.isUsageRange,a.usageRange with
  | true,some (minimum,maximum) => .between (packUsage minimum) (packUsage maximum)
  | true,none => .undeclared
  | false,_ => .among (a.usages.map packUsage)

/-- What the descriptor declares a field to be. -/
def described : HidField → Described
  | .variable v => .variable (v.bitsEnd - v.bitsStart) (some (packUsage v.usage)) (attributes v.toFieldAttributes)
  | .array a => .array (a.bitsEnd - a.bitsStart) a.reportCount (declaredChoice a) (attributes a.toFieldAttributes)
  | .constant c => .constant (c.bitsEnd - c.bitsStart)

def itemAttributes (item : Field) : Attributes where
  logicalRange := (item.logicalMinimum,item.logicalMaximum)
  physicalRange := (item.physicalMinimum,item.physicalMaximum)
  unitExponent := item.unitExponent
  unit := ⟨item.unitSystem,item.unitFactorLengthExponent,item.unitFactorMassExponent,item.unitFactorTimeExponent,
    item.unitFactorTemperatureExponent,item.unitFactorCurrentExponent,item.unitFactorLuminousIntensityExponent⟩
  isAbsolute := item.isAbsolute
  isLinear := item.isLinear
  isVolatile := item.isVolatile
  isBufferedBytes := item.isBufferedBytes
  hasNull := item.hasNull
  hasPreferredState := item.hasPreferredState
  wrap := item.wrap

/-- The usage of one copy, assigned in order; copies beyond the last usage share it. -/
def usageOf (item : Field) (copy : Nat) : Option Nat :=
  if item.isRange then
    match item.usageMinimum,item.usageMaximum with
    | some lowest,some highest => some (min (lowest + copy) highest)
    | _,_ => none
  else
    let usages := item.usages.getD []
    usages[copy]?.or usages.getLast?

def itemChoice (item : Field) : Choice :=
  if item.isRange then
    match item.usageMinimum,item.usageMaximum with
    | some lowest,some highest => .between lowest highest
    | _,_ => .undeclared
  else .among (item.usages.getD [])

/-- The fields that an item stands for. The copies of an array item are the elements of one
    field. -/
def expand (item : Field) : List Described :=
  if item.isConstant then List.replicate item.reportCount (.constant item.reportSize)
  else if item.isArray then
    [.array (item.reportSize * item.reportCount) item.reportCount (itemChoice item) (itemAttributes item)]
  else (List.range item.reportCount).map fun copy =>
    .variable item.reportSize (usageOf item copy) (itemAttributes item)

/-! ### The runs of a report -/

/-- Variable fields of which the second follows the first directly, with its signature. -/
def alike : HidField → HidField → Bool
  | .variable v,.variable w =>
    w.bitsStart == v.bitsEnd && varSignature w.toFieldAttributes == varSignature v.toFieldAttributes
  | _,_ => false

/-- The fields of a report, with those together that one item describes. -/
def runs (fields : List HidField) : List (List HidField) := fields.splitBy alike

def packedUsage? : HidField → Option Nat
  | .variable v => some (packUsage v.usage)
  | _ => none

/-- The usages of the variable fields of a run. -/
def usagesOf (run : List HidField) : List Nat := run.filterMap packedUsage?

/-- The item of a run. -/
def itemOf (run : List HidField) : Field :=
  match run with
  | .variable v :: _ => makeAggregatedVariable v (usagesOf run) (usagesOf run).length
  | .array a :: _ => makeArrayField a
  | .constant c :: _ => { reportSize := max (bitLength c.bitsStart c.bitsEnd) 1, reportCount := 1, isConstant := true }
  | [] => {}

/-- The open run of the loop after the variable fields `first :: later`. -/
def openRun (first : VariableField) (later : List VariableField) : VariableRun where
  first := first
  usages := ((first :: later).map fun v => packUsage v.usage).reverse
  prevEnd := ((first :: later).getLast (List.cons_ne_nil _ _)).bitsEnd

theorem usagesOf_variables (vs : List VariableField) :
    usagesOf (vs.map .variable) = vs.map fun v => packUsage v.usage := by
  rw [usagesOf,List.filterMap_map]
  exact congrFun List.filterMap_eq_map' vs

/-- Each variable field is alike to the one before it. -/
def Uniform (vs : List VariableField) : Prop := vs.IsChain fun v w => alike (.variable v) (.variable w) = true

theorem Uniform.signature {first : VariableField} {later : List VariableField} (uniform : Uniform (first :: later)) :
    ∀ v ∈ first :: later, varSignature v.toFieldAttributes = varSignature first.toFieldAttributes := by
  induction later generalizing first with
  | nil => simp
  | cons second later ih =>
    have chain := List.isChain_cons_cons.mp uniform
    have pair := chain.1
    simp only [alike,Bool.and_eq_true,beq_iff_eq] at pair
    rw [List.forall_mem_cons]
    exact ⟨rfl,fun v there => (ih chain.2 v there).trans pair.2⟩

theorem Uniform.isChain {vs : List VariableField} (uniform : Uniform vs) :
    (vs.map HidField.variable).IsChain fun x y => alike x y = true := by
  rw [List.isChain_map]
  exact uniform

/-- The loop compares a field with the first of the run; the last one would do. -/
theorem openRun_continues {first : VariableField} {later : List VariableField} (uniform : Uniform (first :: later))
    (v : VariableField) :
    (openRun first later).continues v
      = alike (.variable ((first :: later).getLast (List.cons_ne_nil _ _))) (.variable v) := by
  have same := uniform.signature _ (List.getLast_mem (List.cons_ne_nil first later))
  rw [VariableRun.continues,alike,same]
  rfl

theorem openRun_cons (first : VariableField) (later : List VariableField) (v : VariableField) :
    (⟨first,packUsage v.usage :: (openRun first later).usages,v.bitsEnd⟩ : VariableRun)
      = openRun first (later ++ [v]) := by
  simp [openRun]

theorem itemOf_openRun (first : VariableField) (later : List VariableField) :
    (openRun first later).item = itemOf ((first :: later).map .variable) := by
  have usages := usagesOf_variables (first :: later)
  rw [List.map_cons] at usages ⊢
  simp only [itemOf,usages,VariableRun.item,openRun,List.reverse_reverse,List.length_reverse]

theorem uniform_append {first : VariableField} {later : List VariableField} (uniform : Uniform (first :: later))
    {v : VariableField}
    (next : alike (.variable ((first :: later).getLast (List.cons_ne_nil _ _))) (.variable v) = true) :
    Uniform (first :: (later ++ [v])) := by
  rw [← List.cons_append]
  refine List.isChain_append.mpr ⟨uniform,List.isChain_singleton v,?_⟩
  intro x last y head
  obtain rfl := Option.some.inj ((List.getLast?_eq_some_getLast (List.cons_ne_nil first later)).symm.trans last)
  obtain rfl := Option.some.inj head
  exact next

/-- A run ends before a field that is not alike to its last. -/
theorem runs_uniform {first : VariableField} {later : List VariableField} (uniform : Uniform (first :: later))
    (fields : List HidField)
    (ends : ∀ x ∈ fields.head?, alike (.variable ((first :: later).getLast (List.cons_ne_nil _ _))) x = false) :
    runs ((first :: later).map .variable ++ fields) = (first :: later).map .variable :: runs fields := by
  rw [runs,List.splitBy_append,List.splitBy_of_isChain (by simp) uniform.isChain]
  · rfl
  · intro x last y head
    rw [List.getLast?_map,List.getLast?_eq_some_getLast (List.cons_ne_nil first later)] at last
    obtain rfl := Option.some.inj last
    exact ends y head

/-- A field that is not variable is a run of its own. -/
theorem runs_single {field : HidField} (single : ∀ x, alike field x = false) (fields : List HidField) :
    runs (field :: fields) = [field] :: runs fields := by
  rw [runs,← List.singleton_append,List.splitBy_append]
  · rfl
  · intro x last y _
    obtain rfl := Option.some.inj last
    exact single y

/-- The items that the loop adds, with and without an open run before. -/
theorem convertFrom_runs (fields : List HidField) :
    convertFrom none fields = (runs fields).map itemOf ∧
      ∀ first later, Uniform (first :: later) → convertFrom (some (openRun first later)) fields
        = (runs ((first :: later).map .variable ++ fields)).map itemOf := by
  induction fields with
  | nil =>
    refine ⟨rfl,fun first later uniform => ?_⟩
    rw [runs_uniform uniform [] (by simp)]
    simp only [convertFrom,Option.map_some,Option.toList_some,itemOf_openRun]
    rfl
  | cons field rest ih =>
    obtain ⟨ihClosed,ihOpen⟩ := ih
    rcases field with v | a | c
    · have begin : convertFrom none (.variable v :: rest) = (runs (.variable v :: rest)).map itemOf :=
        ihOpen v [] (List.isChain_singleton v)
      refine ⟨begin,fun first later uniform => ?_⟩
      rw [convertFrom,openRun_continues uniform v]
      split
      · rename_i next
        have further := ihOpen first (later ++ [v]) (uniform_append uniform next)
        rw [← openRun_cons] at further
        exact further.trans (by simp)
      · rename_i apart
        rw [runs_uniform uniform (.variable v :: rest) (by simpa using apart),List.map_cons,← begin,itemOf_openRun]
        rfl
    · have single : convertFrom none (.array a :: rest) = (runs (.array a :: rest)).map itemOf := by
        rw [runs_single (by intro x; rfl) rest,List.map_cons,← ihClosed]
        rfl
      refine ⟨single,fun first later uniform => ?_⟩
      rw [runs_uniform uniform (.array a :: rest) (by simp [alike]),List.map_cons,← single,← itemOf_openRun]
      rfl
    · have single : convertFrom none (.constant c :: rest) = (runs (.constant c :: rest)).map itemOf := by
        rw [runs_single (by intro x; rfl) rest,List.map_cons,← ihClosed]
        rfl
      refine ⟨single,fun first later uniform => ?_⟩
      rw [runs_uniform uniform (.constant c :: rest) (by simp [alike]),List.map_cons,← single,← itemOf_openRun]
      rfl

/-- One item for each run. -/
theorem convertFieldsAggregate_eq (fields : List HidField) :
    convertFieldsAggregate fields = (runs fields).map itemOf := (convertFrom_runs fields).1

theorem chain_variables {v : VariableField} {rest : List HidField}
    (chain : (.variable v :: rest).IsChain fun x y => alike x y = true) :
    ∃ later, Uniform (v :: later) ∧ rest = later.map .variable := by
  induction rest generalizing v with
  | nil => exact ⟨[],List.isChain_singleton v,rfl⟩
  | cons field rest ih =>
    have pair := List.isChain_cons_cons.mp chain
    rcases field with w | a | c
    · obtain ⟨later,uniform,rfl⟩ := ih pair.2
      exact ⟨w :: later,List.isChain_cons_cons.mpr ⟨pair.1,uniform⟩,rfl⟩
    · cases pair.1
    · cases pair.1

/-- A run is made of variable fields that are alike, or is one other field. -/
theorem run_cases {fields run : List HidField} (inside : run ∈ runs fields) :
    (∃ first later, Uniform (first :: later) ∧ run = (first :: later).map .variable) ∨
      (∃ a, run = [.array a]) ∨ ∃ c, run = [.constant c] := by
  have chain := List.isChain_of_mem_splitBy inside
  rcases run with _ | ⟨v | a | c,rest⟩
  · exact absurd inside (List.nil_notMem_splitBy _ _)
  · obtain ⟨later,uniform,rfl⟩ := chain_variables chain
    exact .inl ⟨v,later,uniform,rfl⟩
  · cases rest with
    | nil => exact .inr (.inl ⟨a,rfl⟩)
    | cons field rest => cases (List.isChain_cons_cons.mp chain).1
  · cases rest with
    | nil => exact .inr (.inr ⟨c,rfl⟩)
    | cons field rest => cases (List.isChain_cons_cons.mp chain).1

/-- The usages of a page count up from `lowest`, and those that would pass the last usage
    are the last usage. -/
def CountsUp (page lowest : Nat) (usages : List Nat) : Prop :=
  ∀ copy usage, usages[copy]? = some usage → usage = page * 0x10000 + min (lowest + copy % 0x10000) 0xFFFF

/-- Two or more usages that count up through a page stay below its last usage. -/
def BelowTop (usages : List Nat) : Prop :=
  ∀ page lowest, lowest ≤ 0xFFFF → 2 ≤ usages.length → CountsUp page lowest usages →
    lowest + usages.length ≤ 0xFFFF

/-- The numbers that the item of a run is computed with stay in their widths: the count in 32
    bits, and for a range `lowest + count` and from it the highest usage in 16 bits. -/
structure InWidth (usages : List Nat) : Prop where
  count : usages.length < 2 ^ 32
  highest : (detectContiguousRange usages).isRange = true →
    usages.headD 0 % 0x10000 + usages.length % 0x10000 ≤ 0xFFFF ∧
      0 < usages.headD 0 % 0x10000 + usages.length % 0x10000

theorem countsUp_head {page lowest first : Nat} {later : List Nat} (small : lowest ≤ 0xFFFF)
    (up : CountsUp page lowest (first :: later)) : first / 0x10000 = page ∧ first % 0x10000 = lowest := by
  have start := up 0 first rfl
  omega

/-- The two tests for a range, together. -/
theorem countsUp_iff (page lowest : Nat) (usages : List Nat) :
    (usages.all (fun u => u / 0x10000 == page)
        && usages.zipIdx.all fun (u,i) => u % 0x10000 == min (lowest + i % 0x10000) 0xFFFF) = true ↔
      CountsUp page lowest usages := by
  simp only [Bool.and_eq_true,List.all_eq_true,beq_iff_eq,Prod.forall,List.mem_zipIdx_iff_getElem?]
  constructor
  · rintro ⟨samePage,sequential⟩ copy usage there
    have onPage := samePage usage (List.mem_of_getElem? there)
    have upTo := sequential usage copy there
    omega
  · intro up
    refine ⟨fun usage inside => ?_,fun usage copy there => ?_⟩
    · obtain ⟨copy,there⟩ := List.mem_iff_getElem?.mp inside
      have value := up copy usage there
      omega
    · have value := up copy usage there
      omega

instance (page lowest : Nat) (usages : List Nat) : Decidable (CountsUp page lowest usages) :=
  decidable_of_iff _ (countsUp_iff page lowest usages)

/-- What counts as a range, and which one. -/
theorem detectContiguousRange_cons (first second : Nat) (later : List Nat) :
    detectContiguousRange (first :: second :: later) =
      if CountsUp (first / 0x10000) (first % 0x10000) (first :: second :: later) then
        ⟨[],true,some (first / 0x10000 * 0x10000 + first % 0x10000),
          some (first / 0x10000 * 0x10000
            + (first % 0x10000 + (first :: second :: later).length % 0x10000 + 0xFFFF) % 0x10000)⟩
      else ⟨first :: second :: later,false,none,none⟩ := by
  simp only [detectContiguousRange,countsUp_iff]

theorem detectContiguousRange_list {usages : List Nat}
    (apart : ∀ page lowest, lowest ≤ 0xFFFF → 2 ≤ usages.length → ¬ CountsUp page lowest usages) :
    detectContiguousRange usages = ⟨usages,false,none,none⟩ := by
  rcases usages with _ | ⟨first,_ | ⟨second,later⟩⟩
  · rfl
  · rfl
  · have small : first % 0x10000 ≤ 0xFFFF := by omega
    rw [detectContiguousRange_cons,if_neg (apart _ _ small (by simp))]

theorem detectContiguousRange_range {page lowest : Nat} {usages : List Nat} (small : lowest ≤ 0xFFFF)
    (two : 2 ≤ usages.length) (up : CountsUp page lowest usages) :
    detectContiguousRange usages =
      ⟨[],true,some (page * 0x10000 + lowest),
        some (page * 0x10000 + (lowest + usages.length % 0x10000 + 0xFFFF) % 0x10000)⟩ := by
  rcases usages with _ | ⟨first,_ | ⟨second,later⟩⟩
  · simp at two
  · simp at two
  · obtain ⟨rfl,rfl⟩ := countsUp_head small up
    rw [detectContiguousRange_cons,if_pos up]

/-- The item of a run assigns the usages of the run. -/
def Assigns (first : VariableField) (usages : List Nat) : Prop :=
  ∀ copy < usages.length, usageOf (makeAggregatedVariable first usages usages.length) copy = usages[copy]?

theorem assigns_list {usages : List Nat} (kept : detectContiguousRange usages = ⟨usages,false,none,none⟩)
    (first : VariableField) : Assigns first usages := by
  intro copy below
  simp [usageOf,makeAggregatedVariable,kept,List.getElem?_eq_getElem below]

theorem assigns_range {page lowest : Nat} {usages : List Nat} (small : lowest ≤ 0xFFFF) (two : 2 ≤ usages.length)
    (up : CountsUp page lowest usages) (first : VariableField) :
    Assigns first usages ↔ ∀ copy < usages.length,
      min (lowest + copy) ((lowest + usages.length % 0x10000 + 0xFFFF) % 0x10000)
        = min (lowest + copy % 0x10000) 0xFFFF := by
  have range := detectContiguousRange_range small two up
  refine forall_congr' fun copy => forall_congr' fun below => ?_
  have there := List.getElem?_eq_getElem below
  have value := up copy _ there
  simp only [usageOf,makeAggregatedVariable,range,there,value,if_true,Option.some.injEq]
  omega

/-- A range gives the usages back, without an overflow, just when it ends below the last usage. -/
theorem assigns_range_iff {page lowest : Nat} {usages : List Nat} (small : lowest ≤ 0xFFFF)
    (two : 2 ≤ usages.length) (up : CountsUp page lowest usages) (first : VariableField) :
    Assigns first usages ∧ InWidth usages ↔ lowest + usages.length ≤ 0xFFFF := by
  rw [assigns_range small two up]
  have range := detectContiguousRange_range small two up
  have head : usages.headD 0 % 0x10000 = lowest := by
    cases usages with
    | nil => simp at two
    | cons first later => exact (countsUp_head small up).2
  constructor
  · rintro ⟨assigned,width⟩
    have highest := width.highest (by rw [range])
    rw [head] at highest
    by_contra beyond
    -- a longer run starts again at its lowest usage; this copy then lies above the range
    have copy := assigned (usages.length % 0x10000) (by omega)
    omega
  · intro below
    refine ⟨fun copy inside => by omega,by omega,fun _ => ?_⟩
    rw [head]
    omega

/-- The usages come back, without an overflow, just when the run can be counted and a range
    ends below the last usage. -/
theorem assigns_iff (first : VariableField) (usages : List Nat) :
    Assigns first usages ∧ InWidth usages ↔ usages.length < 2 ^ 32 ∧ BelowTop usages := by
  by_cases range : ∃ page lowest, lowest ≤ 0xFFFF ∧ 2 ≤ usages.length ∧ CountsUp page lowest usages
  · obtain ⟨page,lowest,small,two,up⟩ := range
    rw [assigns_range_iff small two up]
    constructor
    · intro below
      refine ⟨by omega,fun page' lowest' small' _ up' => ?_⟩
      cases usages with
      | nil => simp at two
      | cons u us =>
        have here := countsUp_head small up
        have there := countsUp_head small' up'
        omega
    · exact fun short => short.2 page lowest small two up
  · have apart : ∀ page lowest, lowest ≤ 0xFFFF → 2 ≤ usages.length → ¬ CountsUp page lowest usages :=
      fun page lowest small two up => range ⟨page,lowest,small,two,up⟩
    have kept := detectContiguousRange_list apart
    constructor
    · exact fun width => ⟨width.2.count,fun page lowest small two up => absurd up (apart page lowest small two)⟩
    · refine fun short => ⟨assigns_list kept first,short.1,fun found => ?_⟩
      rw [kept] at found
      cases found

/-- Fields that an item has numbers for: their widths fit 32 bits and are not 0; the elements of
    an array divide its bits, and its usage range is on one page. -/
def Plain : HidField → Prop
  | .variable v => 0 < v.bitsEnd - v.bitsStart ∧ v.bitsEnd - v.bitsStart < 2 ^ 32
  | .array a =>
    (0 < a.bitsEnd - a.bitsStart ∧ a.bitsEnd - a.bitsStart < 2 ^ 32) ∧
      (0 < a.reportCount ∧ a.reportCount < 2 ^ 32) ∧ a.reportCount ∣ a.bitsEnd - a.bitsStart ∧
      ∀ minimum maximum, a.isUsageRange = true → a.usageRange = some (minimum,maximum) →
        minimum.usagePage = maximum.usagePage
  | .constant c => 0 < c.bitsEnd - c.bitsStart ∧ c.bitsEnd - c.bitsStart < 2 ^ 32

theorem max_bitLength_iff (bitsStart bitsEnd : Nat) :
    max (bitLength bitsStart bitsEnd) 1 = bitsEnd - bitsStart ↔
      0 < bitsEnd - bitsStart ∧ bitsEnd - bitsStart < 2 ^ 32 := by
  unfold bitLength
  omega

theorem systemName_eq (system : BitVec 4) : systemName system = unitSystemFromNibble system.toNat := by
  revert system
  decide

theorem nibble_signed (unit : UInt32) (i : Nat) :
    (unit.toBitVec.extractLsb' (4 * i) 4).toInt = nibbleAsI8 (unit.toNat / 16 ^ i % 16) := by
  have nibble : (unit.toBitVec.extractLsb' (4 * i) 4).toNat = unit.toNat / 16 ^ i % 16 := by
    rw [BitVec.extractLsb'_toNat,Nat.shiftRight_eq_div_pow,pow_mul]
    rfl
  rw [BitVec.toInt_eq_toNat_cond,nibble,nibbleAsI8]
  split <;> split <;> omega

/-- The source's decoding of a unit is the specification's. -/
theorem decodeUnitSafe_eq (unit : Option UInt32) : decodeUnitSafe unit = declaredUnit unit := by
  cases unit with
  | none => rfl
  | some u =>
    have system : (u.toBitVec.extractLsb' 0 4).toNat = u.toNat / 16 ^ 0 % 16 := by
      rw [BitVec.extractLsb'_toNat,Nat.shiftRight_zero,pow_zero,Nat.div_one]
      rfl
    simp only [decodeUnitSafe,declaredUnit,Option.getD_some,nibble_signed,systemName_eq,Nat.mul_zero,system]

theorem itemAttributes_item (v : FieldAttributes) : itemAttributes (varSignature v).item = attributes v := by
  rw [attributes,← decodeUnitSafe_eq]
  rfl

theorem attributes_eq {v w : FieldAttributes} (same : varSignature v = varSignature w) :
    attributes v = attributes w := by
  rw [← itemAttributes_item,← itemAttributes_item,same]

theorem expand_constant_iff (c : ConstantField) :
    expand (itemOf [.constant c]) = [described (.constant c)] ↔ Plain (.constant c) := by
  have expanded : expand (itemOf [.constant c]) = [.constant (max (bitLength c.bitsStart c.bitsEnd) 1)] := rfl
  rw [expanded,described,List.singleton_inj,Described.constant.injEq,max_bitLength_iff,Plain]

/-- The elements fill the bits of an array just when they divide them. -/
theorem elements_iff (bits count : Nat) :
    max (bits % 2 ^ 32 / max (count % 2 ^ 32) 1) 1 * max (count % 2 ^ 32) 1 = bits ∧ max (count % 2 ^ 32) 1 = count ↔
      (0 < bits ∧ bits < 2 ^ 32) ∧ (0 < count ∧ count < 2 ^ 32) ∧ count ∣ bits := by
  constructor
  · rintro ⟨filled,counted⟩
    have small : 0 < count ∧ count < 2 ^ 32 := by omega
    rw [counted] at filled
    have divides : count ∣ bits := ⟨_,filled.symm.trans (Nat.mul_comm _ _)⟩
    have positive : 0 < bits := by
      rw [← filled]
      exact Nat.mul_pos (by omega) small.1
    refine ⟨⟨positive,?_⟩,small,divides⟩
    have below := Nat.div_mul_le_self (bits % 2 ^ 32) count
    rcases Nat.le_total (bits % 2 ^ 32 / count) 1 with low | high
    · rw [Nat.max_eq_right low,Nat.one_mul] at filled
      exact filled ▸ small.2
    · rw [Nat.max_eq_left high] at filled
      omega
  · rintro ⟨⟨positive,short⟩,small,divides⟩
    have counted : max (count % 2 ^ 32) 1 = count := by omega
    have fills : 1 ≤ bits / count := Nat.div_pos (Nat.le_of_dvd positive divides) small.1
    rw [counted,Nat.mod_eq_of_lt short,Nat.max_eq_left fills]
    exact ⟨Nat.div_mul_cancel divides,rfl⟩

theorem packUsage_inj_page {minimum maximum : Usage} :
    minimum.usagePage.toNat * 0x10000 + maximum.usageId.toNat = packUsage maximum ↔
      minimum.usagePage = maximum.usagePage := by
  rw [packUsage,Nat.add_right_cancel_iff,Nat.mul_left_inj (by decide),UInt16.toNat_inj]

theorem choice_iff (a : ArrayField) : itemChoice (makeArrayField a) = declaredChoice a ↔
    ∀ minimum maximum, a.isUsageRange = true → a.usageRange = some (minimum,maximum) →
      minimum.usagePage = maximum.usagePage := by
  cases ranged : a.isUsageRange with
  | false => simp [itemChoice,makeArrayField,arrayUsageRange,declaredChoice,ranged]
  | true =>
    cases range : a.usageRange with
    | none => simp [itemChoice,makeArrayField,arrayUsageRange,declaredChoice,ranged,range]
    | some bounds =>
      obtain ⟨minimum,maximum⟩ := bounds
      have declared : declaredChoice a = .between (packUsage minimum) (packUsage maximum) := by
        simp [declaredChoice,ranged,range]
      have item : itemChoice (makeArrayField a)
          = .between (packUsage minimum) (minimum.usagePage.toNat * 0x10000 + maximum.usageId.toNat) := by
        simp [itemChoice,makeArrayField,arrayUsageRange,ranged,range,packUsage]
      rw [declared,item,Choice.between.injEq,and_iff_right rfl,packUsage_inj_page]
      simp

theorem expand_array_iff (a : ArrayField) :
    expand (itemOf [.array a]) = [described (.array a)] ↔ Plain (.array a) := by
  have expanded : expand (itemOf [.array a]) =
      [.array
        (max ((a.bitsEnd - a.bitsStart) % 2 ^ 32 / max (a.reportCount % 2 ^ 32) 1) 1 * max (a.reportCount % 2 ^ 32) 1)
        (max (a.reportCount % 2 ^ 32) 1) (itemChoice (makeArrayField a))
        (itemAttributes (varSignature a.toFieldAttributes).item)] := rfl
  rw [expanded,itemAttributes_item,described,List.singleton_inj,Described.array.injEq,← and_assoc,elements_iff,choice_iff,
    and_iff_left rfl,Plain]
  simp only [and_assoc]

theorem expand_variables (vs : List VariableField) {first : VariableField} {later : List VariableField}
    (begins : vs = first :: later) (uniform : Uniform vs) :
    expand (itemOf (vs.map .variable)) = (vs.map .variable).map described ↔
      (∀ v ∈ vs, Plain (.variable v)) ∧ Assigns first (vs.map fun v => packUsage v.usage) := by
  subst begins
  set usages := (first :: later).map fun v => packUsage v.usage with named
  have item : itemOf ((first :: later).map .variable) = makeAggregatedVariable first usages usages.length := by
    have all := usagesOf_variables (first :: later)
    rw [List.map_cons] at all ⊢
    simp only [itemOf,all,named,List.map_cons]
  have expanded : expand (makeAggregatedVariable first usages usages.length) =
      (List.range usages.length).map fun copy =>
        .variable (max (bitLength first.bitsStart first.bitsEnd) 1)
          (usageOf (makeAggregatedVariable first usages usages.length) copy) (attributes first.toFieldAttributes) := by
    have counted : max usages.length 1 = usages.length := by simp [named]
    conv_lhs => rw [expand]
    rw [← itemAttributes_item]
    simp only [makeAggregatedVariable,counted]
    rfl
  have same (v : VariableField) (inside : v ∈ first :: later) :
      max (bitLength first.bitsStart first.bitsEnd) 1 = v.bitsEnd - v.bitsStart ↔ Plain (.variable v) := by
    have wide : bitLength v.bitsStart v.bitsEnd = bitLength first.bitsStart first.bitsEnd :=
      congrArg VarSig.reportSize (uniform.signature v inside)
    rw [← wide,max_bitLength_iff,Plain]
  have length : usages.length = (first :: later).length := by rw [named,List.length_map]
  have there (copy : Nat) (below : copy < (first :: later).length) :
      usages[copy]? = some (packUsage ((first :: later)[copy]).usage) := by
    rw [named,List.getElem?_map,List.getElem?_eq_getElem below]
    rfl
  rw [item,expanded,Assigns,length,List.ext_getElem_iff]
  simp only [List.length_map,List.length_range,true_and,List.getElem_map,List.getElem_range,described,
    Described.variable.injEq]
  constructor
  · intro copies
    refine ⟨fun v inside => ?_,fun copy below => ?_⟩
    · obtain ⟨copy,below,rfl⟩ := List.getElem_of_mem inside
      exact (same _ inside).mp (copies copy below below).1
    · rw [(copies copy below below).2.1,there copy below]
  · rintro ⟨plain,assigned⟩ copy below -
    have inside := List.getElem_mem below
    refine ⟨(same _ inside).mpr (plain _ inside),?_,attributes_eq (uniform.signature _ inside).symm⟩
    rw [assigned copy below,there copy below]

/-- A run whose length can be counted and whose usages, when they count up, stay below the
    last usage. -/
def Countable (run : List HidField) : Prop := (usagesOf run).length < 2 ^ 32 ∧ BelowTop (usagesOf run)

/-- The fields of a run come back, without an overflow, just when they are plain and countable. -/
theorem expand_run_iff {fields run : List HidField} (inside : run ∈ runs fields) :
    expand (itemOf run) = run.map described ∧ InWidth (usagesOf run) ↔ (∀ field ∈ run, Plain field) ∧ Countable run := by
  have inWidth : InWidth [] := ⟨by decide,by rintro ⟨⟩⟩
  have countable (field : HidField) (none : usagesOf [field] = []) : Countable [field] := by
    rw [Countable,none]
    exact ⟨by decide,fun _ _ _ two => absurd two (by decide)⟩
  rcases run_cases inside with ⟨first,later,uniform,rfl⟩ | ⟨a,rfl⟩ | ⟨c,rfl⟩
  · rw [expand_variables _ rfl uniform,usagesOf_variables,and_assoc,assigns_iff,Countable,usagesOf_variables,
      List.forall_mem_map]
  · rw [List.map_singleton,expand_array_iff,List.forall_mem_singleton]
    exact and_congr_right fun _ => iff_of_true inWidth (countable _ rfl)
  · rw [List.map_singleton,expand_constant_iff,List.forall_mem_singleton]
    exact and_congr_right fun _ => iff_of_true inWidth (countable _ rfl)

theorem length_expand {fields run : List HidField} (inside : run ∈ runs fields) :
    (expand (itemOf run)).length = (run.map described).length := by
  rcases run_cases inside with ⟨first,later,-,rfl⟩ | ⟨a,rfl⟩ | ⟨c,rfl⟩
  · rw [← itemOf_openRun]
    simp [expand,VariableRun.item,makeAggregatedVariable,openRun,VarSig.item]
  · rfl
  · rfl

theorem flatMap_inj_of_length {α β : Type} {parts : List α} {f g : α → List β}
    (lengths : ∀ part ∈ parts, (f part).length = (g part).length) :
    parts.flatMap f = parts.flatMap g ↔ ∀ part ∈ parts, f part = g part := by
  induction parts with
  | nil => simp
  | cons part rest ih =>
    rw [List.forall_mem_cons] at lengths ⊢
    rw [List.flatMap_cons,List.flatMap_cons,← ih lengths.2]
    constructor
    · exact fun same => List.append_inj same lengths.1
    · rintro ⟨head,tail⟩
      rw [head,tail]

/-- Expanding the items of a report gives its fields back in their order, and no number of
    the conversion overflows. -/
structure Faithful (fields : List HidField) : Prop where
  expanded : (convertFieldsAggregate fields).flatMap expand = fields.map described
  inWidth : ∀ run ∈ runs fields, InWidth (usagesOf run)

/-- Aggregation is faithful just when the fields are plain, the runs can be counted, and no
    run counts up to the last usage of its page. -/
theorem aggregation_faithful (fields : List HidField) :
    Faithful fields ↔ (∀ field ∈ fields, Plain field) ∧ ∀ run ∈ runs fields, Countable run := by
  have whole : fields.map described = (runs fields).flatMap fun run => run.map described := by
    conv_lhs => rw [← List.flatten_splitBy alike fields]
    rw [List.map_flatten,List.flatMap_def]
    rfl
  have plain : (∀ field ∈ fields, Plain field) ↔ ∀ run ∈ runs fields, ∀ field ∈ run, Plain field := by
    conv_lhs => rw [← List.flatten_splitBy alike fields]
    simp only [List.mem_flatten]
    exact ⟨fun each run inside field there => each field ⟨run,inside,there⟩,
      fun each field ⟨run,inside,there⟩ => each run inside field there⟩
  have parts : (convertFieldsAggregate fields).flatMap expand = fields.map described ↔
      ∀ run ∈ runs fields, expand (itemOf run) = run.map described := by
    rw [convertFieldsAggregate_eq,List.flatMap_map,whole]
    exact flatMap_inj_of_length fun run inside => length_expand inside
  have both : Faithful fields ↔
      ∀ run ∈ runs fields, expand (itemOf run) = run.map described ∧ InWidth (usagesOf run) := by
    constructor
    · exact fun faithful run inside => ⟨parts.mp faithful.expanded run inside,faithful.inWidth run inside⟩
    · exact fun each => ⟨parts.mpr fun run inside => (each run inside).1,fun run inside => (each run inside).2⟩
  rw [both,plain,← forall₂_and]
  exact forall₂_congr fun run inside => expand_run_iff inside

/-- Usage 0xFFFF of a vendor page, with a report count of 2: two adjacent bits of it. -/
def lastUsageTwice : List HidField :=
  let bit (start : Nat) : VariableField :=
    { bitsStart := start, bitsEnd := start + 1, collections := [⟨0,1,[⟨0xFF00,1⟩]⟩], logicalMinimum := 0,
      logicalMaximum := 1, usage := ⟨0xFF00,0xFFFF⟩ }
  [.variable (bit 0),.variable (bit 1)]

/-- The two bits become a range that ends before it begins. -/
theorem last_usage_lost :
    (convertFieldsAggregate lastUsageTwice).map (fun item => (item.usageMinimum,item.usageMaximum))
        = [(some 0xFF00FFFF,some 0xFF000000)] ∧
      (convertFieldsAggregate lastUsageTwice).flatMap expand ≠ lastUsageTwice.map described ∧
      ¬ InWidth (usagesOf lastUsageTwice) ∧ ¬ Faithful lastUsageTwice := by
  have lost : (convertFieldsAggregate lastUsageTwice).flatMap expand ≠ lastUsageTwice.map described := by decide
  refine ⟨by decide,lost,fun width => ?_,fun faithful => lost faithful.expanded⟩
  have highest := width.highest (by decide)
  revert highest
  decide

end FFWebHid.FieldAggregation
