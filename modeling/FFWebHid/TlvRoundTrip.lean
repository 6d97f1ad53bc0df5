import FFWebHid.CollectionsTlv

/-!
What comes back of a collection tree that was written as bytes.
-/
namespace FFWebHid.TlvRoundTrip
open FFWebHid.Types FFWebHid.LittleEndian FFWebHid.PackedNumbers FFWebHid.CollectionsTlv

theorem number_append {width n : Nat} (fits : n < 256 ^ width) (rest : Bytes) (left : Nat) :
    Cursor.number width ⟨toLe width n ++ rest,left⟩ = some (n,⟨rest,left - width⟩) := by
  rw [Cursor.number,readLe_append fits]
  rfl

/-- A signed number comes back as far as its width reaches. -/
theorem signed_append (width : Nat) (value : Int) (rest : Bytes) (left : Nat) :
    Cursor.signed width ⟨toLe width (ofSigned (8 * width) value) ++ rest,left⟩
      = some (toSigned (8 * width) (ofSigned (8 * width) value),⟨rest,left - width⟩) := by
  have fits : ofSigned (8 * width) value < 256 ^ width := by
    have bound := ofSigned_lt (8 * width) value
    rwa [Nat.pow_mul] at bound
  rw [Cursor.signed,number_append fits]
  rfl

theorem varint_append {n : Nat} (fits : n < 2 ^ 32) (rest : Bytes) (left : Nat) :
    Cursor.varint ⟨writeVarint n ++ rest,left⟩ = some (n,⟨rest,left - (writeVarint n).length⟩) := by
  rw [Cursor.varint,readVarint_writeVarint fits]
  simp

theorem numbers_append {width : Nat} {ns : List Nat} (fit : ∀ n ∈ ns, n < 256 ^ width) (rest : Bytes) (left : Nat) :
    Cursor.numbers width ns.length ⟨ns.flatMap (toLe width) ++ rest,left⟩
      = some (ns,⟨rest,left - ns.length * width⟩) := by
  induction ns generalizing left with
  | nil => simp [Cursor.numbers]
  | cons n others ih =>
    rw [List.flatMap_cons,List.append_assoc,List.length_cons,Cursor.numbers,number_append (fit n (by simp))]
    simp only [Option.bind_eq_bind,Option.bind_some]
    rw [ih fun n found => fit n (List.mem_cons_of_mem _ found)]
    simp only [Option.bind_some,pure,Option.some.injEq,Prod.mk.injEq,Cursor.mk.injEq,true_and]
    rw [Nat.succ_mul]
    omega

/-- The numbers of an item have the widths of their types. -/
structure Typed (field : Field) : Prop where
  reportSize : field.reportSize < 2 ^ 32
  reportCount : field.reportCount < 2 ^ 32
  logicalMinimum : InRange 32 field.logicalMinimum
  logicalMaximum : InRange 32 field.logicalMaximum
  physicalMinimum : InRange 32 field.physicalMinimum
  physicalMaximum : InRange 32 field.physicalMaximum
  usageMinimum : field.usageMinimum.getD 0 < 2 ^ 32
  usageMaximum : field.usageMaximum.getD 0 < 2 ^ 32
  usages : ∀ usages, field.usages = some usages → usages.length < 2 ^ 32 ∧ ∀ u ∈ usages, u < 2 ^ 32

/-- An exponent as far as one byte carries it. -/
def carriedExponent (value : Int) : Int := toSigned 8 (ofSigned 8 value)

/-- What comes back of the usages of an item. -/
def carriedUsages (side : Side) (field : Field) : DecodedUsages :=
  if field.isRange then ⟨none,some (field.usageMinimum.getD 0),some (field.usageMaximum.getD 0)⟩
  else
    match field.usages with
    | some (first :: rest) => ⟨some (first :: rest),none,none⟩
    | _ => ⟨side.noUsages,none,none⟩

/-- What comes back of an item. -/
def carried (side : Side) (field : Field) : Field :=
  { field with
    usages := (carriedUsages side field).usages
    usageMinimum := (carriedUsages side field).usageMinimum
    usageMaximum := (carriedUsages side field).usageMaximum
    unitExponent := carriedExponent field.unitExponent
    unitSystem := unitSystemFromTag (unitSystemToTag field.unitSystem)
    unitFactorLengthExponent := carriedExponent field.unitFactorLengthExponent
    unitFactorMassExponent := carriedExponent field.unitFactorMassExponent
    unitFactorTimeExponent := carriedExponent field.unitFactorTimeExponent
    unitFactorTemperatureExponent := carriedExponent field.unitFactorTemperatureExponent
    unitFactorCurrentExponent := carriedExponent field.unitFactorCurrentExponent
    unitFactorLuminousIntensityExponent := carriedExponent field.unitFactorLuminousIntensityExponent }

theorem unitSystemToTag_lt (s : String) : unitSystemToTag s < 256 := by
  unfold unitSystemToTag
  cases found : unitSystems.findIdx? (· == s) with
  | none => decide
  | some i =>
    have short := (List.findIdx?_eq_some_iff_findIdx_eq.mp found).1
    exact Nat.lt_trans short (by decide)

theorem encodeFieldFlags_lt (field : Field) : encodeFieldFlags field < 256 ^ 2 :=
  Nat.lt_trans (flagsOf_lt _) (show 2 ^ 10 < 256 ^ 2 by decide)

/-- What the fixed part of an item carries. -/
def fixedOf (field : Field) : FieldFixed where
  flags := encodeFieldFlags field
  reportSize := field.reportSize
  reportCount := field.reportCount
  logicalMinimum := field.logicalMinimum
  logicalMaximum := field.logicalMaximum
  physicalMinimum := field.physicalMinimum
  physicalMaximum := field.physicalMaximum
  unitExponent := carriedExponent field.unitExponent
  unitSystem := unitSystemFromTag (unitSystemToTag field.unitSystem)
  unitFactorLengthExponent := carriedExponent field.unitFactorLengthExponent
  unitFactorMassExponent := carriedExponent field.unitFactorMassExponent
  unitFactorTimeExponent := carriedExponent field.unitFactorTimeExponent
  unitFactorTemperatureExponent := carriedExponent field.unitFactorTemperatureExponent
  unitFactorCurrentExponent := carriedExponent field.unitFactorCurrentExponent
  unitFactorLuminousIntensityExponent := carriedExponent field.unitFactorLuminousIntensityExponent

/-- The bytes of the fixed part of an item. -/
def fixedBytes (field : Field) : Bytes :=
  toLe 2 (encodeFieldFlags field) ++ (writeVarint field.reportSize ++ (writeVarint field.reportCount ++
    (encodeRanges field ++ encodeUnit field)))

theorem not_short {side : Side} {c : Cursor} {needed : Nat} (enough : needed ≤ c.left) :
    ¬ side.short c needed = true := by
  simp [Side.short,Nat.not_lt.mpr enough]

theorem signed_inRange {value : Int} (within : InRange 32 value) (rest : Bytes) (left : Nat) :
    Cursor.signed 4 ⟨toLe 4 (ofSigned 32 value) ++ rest,left⟩ = some (value,⟨rest,left - 4⟩) := by
  have read := signed_append 4 value rest left
  rwa [show toSigned (8 * 4) (ofSigned (8 * 4) value) = value from (toSigned_ofSigned_iff 32 value).mpr within] at read

theorem signed_exponent (value : Int) (rest : Bytes) (left : Nat) :
    Cursor.signed 1 ⟨toLe 1 (ofSigned 8 value) ++ rest,left⟩ = some (carriedExponent value,⟨rest,left - 1⟩) :=
  signed_append 1 value rest left

/-- A read that succeeds goes on with what it read. -/
theorem bind_of_eq {α β : Type} {read : Option α} {a : α} (found : read = some a) (next : α → Option β) :
    (read >>= next) = next a := by
  rw [found]
  rfl

theorem decodeFieldFixed_append (side : Side) {field : Field} (typed : Typed field) (rest : Bytes) {left : Nat}
    (enough : (fixedBytes field).length ≤ left) :
    decodeFieldFixed side ⟨fixedBytes field ++ rest,left⟩
      = some (some (fixedOf field),⟨rest,left - (fixedBytes field).length⟩) := by
  have lengths : (fixedBytes field).length
      = 2 + ((writeVarint field.reportSize).length + ((writeVarint field.reportCount).length + (16 + 8))) := by
    simp only [fixedBytes,encodeRanges,encodeUnit,List.length_append,length_toLe]
  rw [lengths] at enough ⊢
  simp only [fixedBytes,encodeRanges,encodeUnit,List.append_assoc]
  rw [decodeFieldFixed,if_neg (not_short (show 2 ≤ left by omega))]
  refine (bind_of_eq (number_append (encodeFieldFlags_lt field) _ _) _).trans ?_
  refine (bind_of_eq (varint_append typed.reportSize _ _) _).trans ?_
  refine (bind_of_eq (varint_append typed.reportCount _ _) _).trans ?_
  have more : 16 ≤ left - 2 - (writeVarint field.reportSize).length - (writeVarint field.reportCount).length := by omega
  refine (if_neg (not_short more)).trans ?_
  refine (bind_of_eq (signed_inRange typed.logicalMinimum _ _) _).trans ?_
  refine (bind_of_eq (signed_inRange typed.logicalMaximum _ _) _).trans ?_
  refine (bind_of_eq (signed_inRange typed.physicalMinimum _ _) _).trans ?_
  refine (bind_of_eq (signed_inRange typed.physicalMaximum _ _) _).trans ?_
  refine (bind_of_eq (signed_exponent field.unitExponent _ _) _).trans ?_
  refine (bind_of_eq (number_append (unitSystemToTag_lt field.unitSystem) _ _) _).trans ?_
  refine (bind_of_eq (signed_exponent field.unitFactorLengthExponent _ _) _).trans ?_
  refine (bind_of_eq (signed_exponent field.unitFactorMassExponent _ _) _).trans ?_
  refine (bind_of_eq (signed_exponent field.unitFactorTimeExponent _ _) _).trans ?_
  refine (bind_of_eq (signed_exponent field.unitFactorTemperatureExponent _ _) _).trans ?_
  refine (bind_of_eq (signed_exponent field.unitFactorCurrentExponent _ _) _).trans ?_
  refine (bind_of_eq (signed_exponent field.unitFactorLuminousIntensityExponent _ _) _).trans ?_
  refine congrArg (fun left => some (some (fixedOf field),(⟨rest,left⟩ : Cursor))) ?_
  omega

theorem length_flatMap_toLe (width : Nat) (ns : List Nat) : (ns.flatMap (toLe width)).length = ns.length * width := by
  induction ns with
  | nil => simp
  | cons n rest ih =>
    rw [List.flatMap_cons,List.length_append,length_toLe,ih,List.length_cons,Nat.succ_mul,Nat.add_comm]

theorem decodeFieldUsages_append (side : Side) {field : Field} (typed : Typed field) (rest : Bytes) {left : Nat}
    (enough : (encodeFieldUsages field).length ≤ left) :
    decodeFieldUsages side field.isRange ⟨encodeFieldUsages field ++ rest,left⟩
      = some (some (carriedUsages side field),⟨rest,left - (encodeFieldUsages field).length⟩) := by
  unfold decodeFieldUsages carriedUsages
  unfold encodeFieldUsages at enough ⊢
  by_cases range : field.isRange
  · rw [if_pos range] at enough
    simp only [if_pos range,List.length_append,length_toLe,List.append_assoc] at enough ⊢
    rw [if_neg (not_short (show 8 ≤ left from enough))]
    refine (bind_of_eq (number_append typed.usageMinimum _ _) _).trans ?_
    exact bind_of_eq (number_append typed.usageMaximum _ _) _
  · rw [if_neg range] at enough
    simp only [if_neg range]
    cases found : field.usages with
    | none =>
      refine (bind_of_eq (varint_append (n := 0) (by decide) _ _) _).trans ?_
      refine (if_neg (not_short (by simp))).trans ?_
      rfl
    | some usages =>
      obtain ⟨short,small⟩ := typed.usages usages found
      simp only [found,Nat.mod_eq_of_lt short,List.length_append,length_flatMap_toLe,List.append_assoc] at enough ⊢
      refine (bind_of_eq (varint_append short _ _) _).trans ?_
      have more : usages.length * 4 ≤ left - (writeVarint usages.length).length := by omega
      refine (if_neg (not_short more)).trans ?_
      refine (bind_of_eq (@numbers_append 4 _ small _ _) _).trans ?_
      rw [Nat.sub_sub]
      cases usages with
      | nil => rfl
      | cons first others => rfl

theorem fieldOf_fixed (side : Side) {field : Field} (bare : field.strings = []) :
    fieldOf (fixedOf field) (carriedUsages side field) [] = carried side field := by
  have flag (i : Nat) : (encodeFieldFlags field).testBit i = [field.isAbsolute,field.isArray,field.isRange,
      field.isConstant,field.isLinear,field.isVolatile,field.isBufferedBytes,field.hasNull,field.hasPreferredState,
      field.wrap].getD i false := testBit_flagsOf _ i
  simp only [fieldOf,carried,fixedOf,bare,flag]
  rfl

/-- What comes back of an item without strings. -/
theorem decodeField_append (side : Side) {field : Field} (typed : Typed field) (bare : field.strings = [])
    (rest : Bytes) : decodeField side ⟨encodeFieldValue field ++ rest,(encodeFieldValue field).length⟩
      = some (carried side field) := by
  have bytes : encodeFieldValue field = fixedBytes field ++ (encodeFieldUsages field ++ (writeVarint 0 ++ [])) := by
    simp only [encodeFieldValue,fixedBytes,encodeFieldStrings,bare,List.append_assoc,List.length_nil,List.flatMap_nil,
      Nat.zero_mod]
  have range : (fixedOf field).flags.testBit 2 = field.isRange := testBit_flagsOf _ 2
  rw [bytes]
  simp only [List.append_assoc,List.length_append]
  refine (bind_of_eq (decodeFieldFixed_append side typed _ (by omega)) _).trans ?_
  dsimp only
  rw [range]
  refine (bind_of_eq (decodeFieldUsages_append side typed _ (by omega)) _).trans ?_
  refine (bind_of_eq (varint_append (n := 0) (by decide) _ _) _).trans ?_
  exact congrArg some (fieldOf_fixed side bare)

theorem decodeNodes_end (side : Side) (bytes : Bytes) : decodeNodes side ⟨bytes,0⟩ = some [] := by
  rw [decodeNodes]
  rfl

theorem length_encodeNode (tag : UInt8) (value : Bytes) :
    (encodeNode tag value).length = (writeVarint (value.length % 2 ^ 32)).length + value.length + 1 := by
  rw [encodeNode,List.length_cons,List.length_append]

/-- One node, and then what follows it. -/
theorem decodeNodes_node {side : Side} {tag : UInt8} {value rest : Bytes} {node : Node} (short : value.length < 2 ^ 32)
    (decoded : decodeNode side tag ⟨value ++ rest,value.length⟩ = some node) (more : Nat) :
    decodeNodes side ⟨encodeNode tag value ++ rest,(encodeNode tag value).length + more⟩
      = (decodeNodes side ⟨rest,more⟩).map ((tag,node) :: ·) := by
  have header : decodeTag (encodeNode tag value ++ rest) = some (tag,value.length,value ++ rest) := by
    rw [encodeNode,List.cons_append,decodeTag,List.append_assoc,Nat.mod_eq_of_lt short,readVarint_writeVarint short]
    rfl
  have length := length_encodeNode tag value
  rw [decodeNodes,if_neg (by dsimp only; omega)]
  split
  · rename_i failed
    cases header.symm.trans failed
  · rename_i read
    cases header.symm.trans read
    rw [decoded]
    dsimp only
    have left : (encodeNode tag value).length + more
        - ((encodeNode tag value ++ rest).length - (value ++ rest).length) - value.length = more := by
      rw [List.length_append,List.length_append]
      omega
    rw [left,List.drop_left]

/-- Nodes of one tag, one after another. -/
theorem decodeNodes_flatMap {α : Type} {side : Side} {tag : UInt8} (value : α → Bytes) {node : α → Node} {xs : List α}
    (each : ∀ x ∈ xs, (value x).length < 2 ^ 32 ∧
      ∀ rest, decodeNode side tag ⟨value x ++ rest,(value x).length⟩ = some (node x)) (rest : Bytes) (more : Nat) :
    decodeNodes side ⟨xs.flatMap (fun x => encodeNode tag (value x)) ++ rest,
        (xs.flatMap fun x => encodeNode tag (value x)).length + more⟩
      = (decodeNodes side ⟨rest,more⟩).map (xs.map (fun x => (tag,node x)) ++ ·) := by
  induction xs with
  | nil => simp
  | cons x others ih =>
    obtain ⟨short,decoded⟩ := each x (by simp)
    rw [List.flatMap_cons,List.append_assoc,List.length_append,Nat.add_assoc,decodeNodes_node short (decoded _),
      ih fun x found => each x (List.mem_cons_of_mem _ found),Option.map_map]
    rfl

/-- Every item of a report changed. -/
def mapReport (g : Field → Field) (r : Report) : Report := { r with items := r.items.map g }

/-- The items of a report have the widths of their types and no strings. -/
def Plain (r : Report) : Prop := ∀ item ∈ r.items, Typed item ∧ item.strings = []

theorem decodeNode_field (side : Side) {field : Field} (typed : Typed field) (bare : field.strings = []) (rest : Bytes) :
    decodeNode side tagField ⟨encodeFieldValue field ++ rest,(encodeFieldValue field).length⟩
      = some (.field (carried side field)) := by
  rw [decodeNode,if_neg (by decide),if_neg (by decide),if_pos rfl,decodeField_append side typed bare]
  rfl

theorem length_le_flatMap {α : Type} {f : α → Bytes} {xs : List α} {x : α} (inside : x ∈ xs) :
    (f x).length ≤ (xs.flatMap f).length := by
  induction xs with
  | nil => cases inside
  | cons first rest ih =>
    rw [List.flatMap_cons,List.length_append]
    rcases List.mem_cons.mp inside with rfl | later
    · omega
    · have below := ih later
      omega

/-- The value of a report node. -/
def reportValue (r : Report) : Bytes := r.reportId :: r.items.flatMap encodeField

/-- The items of a report come back one by one. -/
theorem decodeNodes_items (side : Side) {r : Report} (plain : Plain r)
    (short : (r.items.flatMap encodeField).length < 2 ^ 32) (rest : Bytes) :
    decodeNodes side ⟨r.items.flatMap encodeField ++ rest,(r.items.flatMap encodeField).length⟩
      = some (r.items.map fun item => (tagField,.field (carried side item))) := by
  have each : ∀ item ∈ r.items, (encodeFieldValue item).length < 2 ^ 32 ∧ ∀ rest,
      decodeNode side tagField ⟨encodeFieldValue item ++ rest,(encodeFieldValue item).length⟩
        = some (.field (carried side item)) := by
    intro item inside
    have below := length_le_flatMap (f := encodeField) inside
    have length := length_encodeNode tagField (encodeFieldValue item)
    obtain ⟨typed,bare⟩ := plain item inside
    refine ⟨?_,decodeNode_field side typed bare⟩
    change (encodeNode tagField (encodeFieldValue item)).length ≤ _ at below
    omega
  have read := decodeNodes_flatMap encodeFieldValue each rest 0
  rw [decodeNodes_end,Option.map_some,List.append_nil] at read
  exact read

theorem decodeNode_report (side : Side) {tag : UInt8}
    (report : tag = tagInputReport ∨ tag = tagOutputReport ∨ tag = tagFeatureReport) {r : Report} (plain : Plain r)
    (short : (reportValue r).length < 2 ^ 32) (rest : Bytes) :
    decodeNode side tag ⟨reportValue r ++ rest,(reportValue r).length⟩ = some (.report (mapReport (carried side) r)) := by
  have other : tag ≠ tagCollection := by
    rcases report with rfl | rfl | rfl <;> decide
  have length : (reportValue r).length = 1 + (r.items.flatMap encodeField).length := by
    rw [reportValue,List.length_cons,Nat.add_comm]
  have bytes : reportValue r ++ rest = toLe 1 r.reportId.toNat ++ (r.items.flatMap encodeField ++ rest) := by
    simp [reportValue,toLe]
  have id := @number_append 1 _ r.reportId.toNat_lt (r.items.flatMap encodeField ++ rest) (reportValue r).length
  rw [bytes,decodeNode,if_neg other,if_pos report]
  split
  · rename_i failed
    cases id.symm.trans failed
  · rename_i read
    cases id.symm.trans read
    have left : (reportValue r).length - 1 = (r.items.flatMap encodeField).length := by omega
    rw [left,decodeNodes_items side plain (by omega)]
    simp [mapReport,Node.field?,List.filterMap_map,Function.comp_def]

/-- The reports of one direction of a node. -/
theorem decodeNodes_reports (side : Side) {tag : UInt8}
    (report : tag = tagInputReport ∨ tag = tagOutputReport ∨ tag = tagFeatureReport) {rs : List Report}
    (plain : ∀ r ∈ rs, Plain r) (short : (rs.flatMap (encodeReport tag)).length < 2 ^ 32) (rest : Bytes) (more : Nat) :
    decodeNodes side ⟨rs.flatMap (encodeReport tag) ++ rest,(rs.flatMap (encodeReport tag)).length + more⟩
      = (decodeNodes side ⟨rest,more⟩).map (rs.map (fun r => (tag,.report (mapReport (carried side) r))) ++ ·) := by
  refine decodeNodes_flatMap reportValue (fun r inside => ?_) rest more
  have below := length_le_flatMap (f := encodeReport tag) inside
  have length := length_encodeNode tag (reportValue r)
  change (encodeNode tag (reportValue r)).length ≤ _ at below
  have fits : (reportValue r).length < 2 ^ 32 := by omega
  exact ⟨fits,decodeNode_report side report (plain r inside) fits⟩

theorem optional_append (u : Option UInt16) (rest : Bytes) (left : Nat) :
    Cursor.optional u.isSome ⟨(u.map fun u => toLe 2 u.toNat).getD [] ++ rest,left⟩
      = some (u,⟨rest,left - ((u.map fun u => toLe 2 u.toNat).getD []).length⟩) := by
  cases u with
  | none => rfl
  | some u =>
    have read := @number_append 2 _ u.toNat_lt rest left
    simp only [Option.isSome_some,Cursor.optional,if_true,Option.map_some,Option.getD_some,read,length_toLe,
      UInt16.ofNat_toNat]

/-- What stands before the nodes of a collection comes back. -/
theorem decodeHead_append (collectionType : UInt8) (usagePage usage : Option UInt16) (rest : Bytes) (left : Nat) :
    decodeHead ⟨encodeHead collectionType usagePage usage ++ rest,left⟩
      = some (⟨usagePage,usage,collectionType⟩,⟨rest,left - (encodeHead collectionType usagePage usage).length⟩) := by
  have small : presence usagePage usage < 256 ^ 1 := Nat.lt_trans (flagsOf_lt _) (show 2 ^ 2 < 256 ^ 1 by decide)
  have first : (presence usagePage usage).testBit 0 = usagePage.isSome := testBit_flagsOf _ 0
  have second : (presence usagePage usage).testBit 1 = usage.isSome := testBit_flagsOf _ 1
  simp only [encodeHead,List.append_assoc,List.length_append,length_toLe]
  refine (bind_of_eq (number_append small _ _) _).trans ?_
  dsimp only
  rw [first,second]
  refine (bind_of_eq (optional_append usagePage _ _) _).trans ?_
  refine (bind_of_eq (optional_append usage _ _) _).trans ?_
  refine (bind_of_eq (@number_append 1 _ collectionType.toNat_lt _ _) _).trans ?_
  simp only [pure,UInt8.ofNat_toNat,Nat.sub_sub,Nat.add_assoc]

mutual
/-- Every item of a collection changed. -/
def mapItems (g : Field → Field) : Collection → Collection
  | ⟨collectionType,usagePage,usage,children,inputReports,outputReports,featureReports⟩ =>
    ⟨collectionType,usagePage,usage,mapForest g children,inputReports.map (mapReport g),
      outputReports.map (mapReport g),featureReports.map (mapReport g)⟩
/-- Every item of a forest changed. -/
def mapForest (g : Field → Field) : List Collection → List Collection
  | [] => []
  | c :: rest => mapItems g c :: mapForest g rest
end

/-- Collections as nodes of their tag. -/
def collectionNodes (cs : List Collection) : List (UInt8 × Node) := cs.map fun c => (tagCollection,.collection c)

/-- Reports as nodes of a tag. -/
def reportNodes (tag : UInt8) (rs : List Report) : List (UInt8 × Node) := rs.map fun r => (tag,.report r)

theorem collections_of_nodes (cs : List Collection) : (collectionNodes cs).filterMap Node.collection? = cs := by
  simp [collectionNodes,List.filterMap_map,Function.comp_def,Node.collection?]

theorem collections_of_reports (tag : UInt8) (rs : List Report) :
    (reportNodes tag rs).filterMap Node.collection? = [] := by
  simp [reportNodes,List.filterMap_map,Function.comp_def,Node.collection?]

theorem reports_of_collections (wanted : UInt8) (cs : List Collection) :
    (collectionNodes cs).filterMap (Node.report? wanted) = [] := by
  simp [collectionNodes,List.filterMap_map,Function.comp_def,Node.report?]

theorem reports_of_nodes (wanted tag : UInt8) (rs : List Report) :
    (reportNodes tag rs).filterMap (Node.report? wanted) = if tag = wanted then rs else [] := by
  by_cases same : tag = wanted
  · simp [reportNodes,List.filterMap_map,Function.comp_def,Node.report?,same]
  · simp [reportNodes,List.filterMap_map,Function.comp_def,Node.report?,same]

/-- A collection is put together from its nodes. -/
theorem collectionOf_nodes (head : Head) (children : List Collection) (inputs outputs features : List Report) :
    collectionOf head (collectionNodes children ++ (reportNodes tagInputReport inputs ++
      (reportNodes tagOutputReport outputs ++ reportNodes tagFeatureReport features)))
      = ⟨head.collectionType,head.usagePage,head.usage,children,inputs,outputs,features⟩ := by
  simp only [collectionOf,List.filterMap_append,collections_of_nodes,collections_of_reports,reports_of_collections,
    reports_of_nodes]
  simp [tagInputReport,tagOutputReport,tagFeatureReport]

/-- The value of a collection node. -/
def collectionValue (c : Collection) : Bytes :=
  encodeHead c.collectionType c.usagePage c.usage ++ (encodeCollections c.children ++
    (c.inputReports.flatMap (encodeReport tagInputReport) ++ (c.outputReports.flatMap (encodeReport tagOutputReport) ++
    c.featureReports.flatMap (encodeReport tagFeatureReport))))

theorem encodeCollection_eq (c : Collection) : encodeCollection c = encodeNode tagCollection (collectionValue c) := by
  obtain ⟨collectionType,usagePage,usage,children,inputs,outputs,features⟩ := c
  rw [encodeCollection]
  rfl

/-- All items of a forest have the widths of their types and no strings. -/
def PlainForest (cs : List Collection) : Prop := ∀ rt, ∀ r ∈ listedReports rt cs, Plain r

mutual
theorem decodeNode_collection (side : Side) : ∀ c : Collection, (∀ rt, ∀ r ∈ c.listed rt, Plain r) →
    (collectionValue c).length < 2 ^ 32 → ∀ rest,
    decodeNode side tagCollection ⟨collectionValue c ++ rest,(collectionValue c).length⟩
      = some (.collection (mapItems (carried side) c))
  | ⟨collectionType,usagePage,usage,children,inputs,outputs,features⟩ => by
    intro plain short rest
    have below (rt : ReportType) : ∀ r ∈ listedReports rt children, Plain r := fun r inside =>
      plain rt r (by rw [Collection.listed]; exact List.mem_append_right _ inside)
    have own (rt : ReportType) : ∀ r ∈ Collection.reports _ rt, Plain r := fun r inside =>
      plain rt r (by rw [Collection.listed]; exact List.mem_append_left _ inside)
    have ownInputs : ∀ r ∈ inputs, Plain r := own .input
    have ownOutputs : ∀ r ∈ outputs, Plain r := own .output
    have ownFeatures : ∀ r ∈ features, Plain r := own .feature
    generalize value : collectionValue ⟨collectionType,usagePage,usage,children,inputs,outputs,features⟩ = bytes at short ⊢
    have split_bytes : bytes ++ rest = encodeHead collectionType usagePage usage ++ (encodeCollections children ++
        (inputs.flatMap (encodeReport tagInputReport) ++ (outputs.flatMap (encodeReport tagOutputReport) ++
        (features.flatMap (encodeReport tagFeatureReport) ++ rest)))) := by
      simp only [← value,collectionValue,List.append_assoc]
    have length : bytes.length - (encodeHead collectionType usagePage usage).length = (encodeCollections children).length +
        ((inputs.flatMap (encodeReport tagInputReport)).length + ((outputs.flatMap (encodeReport tagOutputReport)).length +
        (features.flatMap (encodeReport tagFeatureReport)).length)) := by
      simp only [← value,collectionValue,List.length_append]
      omega
    have head := decodeHead_append collectionType usagePage usage
      (encodeCollections children ++ (inputs.flatMap (encodeReport tagInputReport) ++
        (outputs.flatMap (encodeReport tagOutputReport) ++ (features.flatMap (encodeReport tagFeatureReport) ++ rest))))
      bytes.length
    rw [split_bytes,decodeNode,if_pos rfl]
    split
    · rename_i failed
      cases head.symm.trans failed
    · rename_i read
      cases head.symm.trans read
      have last := decodeNodes_reports side (.inr (.inr rfl)) ownFeatures (by omega) rest 0
      rw [decodeNodes_end,Nat.add_zero,Option.map_some,List.append_nil] at last
      rw [length,decodeNodes_collections side children below (by omega),
        decodeNodes_reports side (.inl rfl) ownInputs (by omega),
        decodeNodes_reports side (.inr (.inl rfl)) ownOutputs (by omega),last]
      simp only [Option.map_some,Option.some.injEq,Node.collection.injEq]
      have whole := collectionOf_nodes ⟨usagePage,usage,collectionType⟩ (mapForest (carried side) children)
        (inputs.map (mapReport (carried side))) (outputs.map (mapReport (carried side))) (features.map (mapReport (carried side)))
      simp only [reportNodes,List.map_map] at whole
      rw [mapItems,← whole]
      rfl
theorem decodeNodes_collections (side : Side) : ∀ cs : List Collection, PlainForest cs →
    (encodeCollections cs).length < 2 ^ 32 → ∀ rest more,
    decodeNodes side ⟨encodeCollections cs ++ rest,(encodeCollections cs).length + more⟩
      = (decodeNodes side ⟨rest,more⟩).map (collectionNodes (mapForest (carried side) cs) ++ ·)
  | [] => by
    intro _ _ rest more
    simp [encodeCollections,mapForest,collectionNodes]
  | c :: others => by
    intro plain short rest more
    have here (rt : ReportType) : ∀ r ∈ c.listed rt, Plain r := fun r inside =>
      plain rt r (by rw [listedReports]; exact List.mem_append_left _ inside)
    have later : PlainForest others := fun rt r inside =>
      plain rt r (by rw [listedReports]; exact List.mem_append_right _ inside)
    have length := length_encodeNode tagCollection (collectionValue c)
    rw [encodeCollections,List.length_append,encodeCollection_eq] at short
    have fits : (collectionValue c).length < 2 ^ 32 := by omega
    rw [encodeCollections,encodeCollection_eq,List.append_assoc,List.length_append,Nat.add_assoc,
      decodeNodes_node fits (decodeNode_collection side c here fits _),
      decodeNodes_collections side others later (by omega),Option.map_map,mapForest]
    rfl
end

/-- A forest comes back with what is carried of each item. -/
theorem decodeForest_encode (side : Side) {cs : List Collection} (plain : PlainForest cs)
    (short : (encodeCollections cs).length < 2 ^ 32) :
    decodeForest side (encodeCollections cs) = some (mapForest (carried side) cs) := by
  have nodes := decodeNodes_collections side cs plain short [] 0
  rw [List.append_nil,Nat.add_zero,decodeNodes_end,Option.map_some,List.append_nil] at nodes
  rw [decodeForest,nodes,Option.map_some,collections_of_nodes]

theorem deserialize_serialize (lib : Libraries) {cs : List Collection} (plain : PlainForest cs)
    (short : (encodeCollections cs).length < 2 ^ 32) :
    deserialize lib (serialize lib cs) = some (mapForest (carried (rust lib)) cs) := by
  rw [deserialize,serialize,lib.decode_encode,Option.bind_some,decodeForest_encode _ plain short]

theorem decodeCollectionsTlv_serialize (lib : Libraries) {cs : List Collection} (plain : PlainForest cs)
    (short : (encodeCollections cs).length < 2 ^ 32) :
    decodeCollectionsTlv lib (serialize lib cs) = some (mapForest (carried (js lib)) cs) := by
  have decoded := decodeForest_encode (js lib) plain short
  unfold decodeCollectionsTlv serialize
  split
  · rename_i empty
    have none : encodeCollections cs = [] := by
      have bytes := lib.decode_encode (encodeCollections cs)
      rw [empty,lib.decode_empty] at bytes
      exact (Option.some.inj bytes).symm
    rw [none,decodeForest] at decoded
    simpa [decodeNodes_end] using decoded
  · rw [lib.decode_encode,Option.bind_some,decoded]

/-! ### What is the same -/

/-- An empty list of usages is no list. -/
def settle (field : Field) : Field := { field with usages := if field.usages = some [] then none else field.usages }

/-- The same forest, but for empty lists of usages. -/
def Same (cs ds : List Collection) : Prop := mapForest settle cs = mapForest settle ds

mutual
theorem mapItems_comp (g h : Field → Field) : ∀ c, mapItems g (mapItems h c) = mapItems (g ∘ h) c
  | ⟨collectionType,usagePage,usage,children,inputs,outputs,features⟩ => by
    simp [mapItems,mapForest_comp g h children,mapReport,Function.comp_def]
theorem mapForest_comp (g h : Field → Field) : ∀ cs, mapForest g (mapForest h cs) = mapForest (g ∘ h) cs
  | [] => rfl
  | c :: rest => by rw [mapForest,mapForest,mapForest,mapItems_comp g h c,mapForest_comp g h rest]
end

theorem mapReports_eq_iff (g h : Field → Field) (rs : List Report) :
    rs.map (mapReport g) = rs.map (mapReport h) ↔ ∀ r ∈ rs, ∀ item ∈ r.items, g item = h item := by
  simp [mapReport]

mutual
theorem mapItems_eq_iff (g h : Field → Field) : ∀ c,
    mapItems g c = mapItems h c ↔ ∀ rt, ∀ r ∈ c.listed rt, ∀ item ∈ r.items, g item = h item
  | ⟨collectionType,usagePage,usage,children,inputs,outputs,features⟩ => by
    simp only [mapItems,Collection.mk.injEq,true_and,mapForest_eq_iff g h children,mapReports_eq_iff]
    constructor
    · rintro ⟨below,input,output,feature⟩ rt r inside
      rw [Collection.listed,List.mem_append] at inside
      rcases inside with own | later
      · cases rt with
        | input => exact input r own
        | output => exact output r own
        | feature => exact feature r own
      · exact below rt r later
    · intro all
      have own (rt : ReportType) : ∀ r ∈ Collection.reports _ rt, ∀ item ∈ r.items, g item = h item := fun r inside =>
        all rt r (by rw [Collection.listed]; exact List.mem_append_left _ inside)
      refine ⟨fun rt r inside => all rt r ?_,own .input,own .output,own .feature⟩
      rw [Collection.listed]
      exact List.mem_append_right _ inside
theorem mapForest_eq_iff (g h : Field → Field) : ∀ cs,
    mapForest g cs = mapForest h cs ↔ ∀ rt, ∀ r ∈ listedReports rt cs, ∀ item ∈ r.items, g item = h item
  | [] => by simp [mapForest,listedReports]
  | c :: rest => by
    rw [mapForest,mapForest,List.cons.injEq,mapItems_eq_iff g h c,mapForest_eq_iff g h rest]
    simp only [listedReports,List.mem_append,or_imp,forall_and]
end

/-- An item that loses nothing: its unit is a known one with exponents of one byte, and it
    has both bounds of a range and no usages beside it, or no bounds. -/
structure Survives (field : Field) : Prop where
  unitSystem : field.unitSystem ∈ unitSystems
  unitExponent : InRange 8 field.unitExponent
  length : InRange 8 field.unitFactorLengthExponent
  mass : InRange 8 field.unitFactorMassExponent
  time : InRange 8 field.unitFactorTimeExponent
  temperature : InRange 8 field.unitFactorTemperatureExponent
  current : InRange 8 field.unitFactorCurrentExponent
  luminousIntensity : InRange 8 field.unitFactorLuminousIntensityExponent
  minimum : field.usageMinimum.isSome = field.isRange
  maximum : field.usageMaximum.isSome = field.isRange
  list : field.isRange = true → field.usages = none ∨ field.usages = some []

theorem unitSystem_iff (s : String) : unitSystemFromTag (unitSystemToTag s) = s ↔ s ∈ unitSystems := by
  constructor
  · intro same
    have known : unitSystemFromTag (unitSystemToTag s) ∈ unitSystems := by
      unfold unitSystemFromTag
      cases found : unitSystems[unitSystemToTag s]? with
      | none => decide
      | some name => exact List.mem_of_getElem? found
    rwa [same] at known
  · intro known
    have all : ∀ s ∈ unitSystems, unitSystemFromTag (unitSystemToTag s) = s := by decide
    exact all s known

theorem carriedExponent_iff (value : Int) : carriedExponent value = value ↔ InRange 8 value :=
  toSigned_ofSigned_iff 8 value

/-- What a side makes of no usages is no list, or an empty one. -/
def Side.Settled (side : Side) : Prop := side.noUsages = none ∨ side.noUsages = some []

theorem carriedUsages_iff {side : Side} (settled : Side.Settled side) (field : Field) :
    (if (carriedUsages side field).usages = some [] then none else (carriedUsages side field).usages)
        = (if field.usages = some [] then none else field.usages) ∧
      (carriedUsages side field).usageMinimum = field.usageMinimum ∧
      (carriedUsages side field).usageMaximum = field.usageMaximum ↔
    field.usageMinimum.isSome = field.isRange ∧ field.usageMaximum.isSome = field.isRange ∧
      (field.isRange = true → field.usages = none ∨ field.usages = some []) := by
  have bound (n : Option Nat) : some (n.getD 0) = n ↔ n.isSome = true := by
    cases n <;> simp
  have absent (n : Option Nat) : none = n ↔ n.isSome = false := by
    cases n <;> simp
  have none_iff : none = (if field.usages = some [] then none else field.usages) ↔
      field.usages = none ∨ field.usages = some [] := by
    split
    · simp [*]
    · rename_i listed
      rw [eq_comm,or_iff_left listed]
  unfold carriedUsages
  cases range : field.isRange with
  | true =>
    simp only [if_true,reduceCtorEq,if_false,none_iff,bound,true_implies]
    rw [and_comm,and_assoc]
  | false =>
    have list : (if (carriedUsages side field).usages = some [] then none else (carriedUsages side field).usages)
        = (if field.usages = some [] then none else field.usages) := by
      unfold carriedUsages
      rw [range]
      rcases settled with same | same <;> rcases field.usages with _ | ⟨_ | ⟨first,rest⟩⟩ <;> simp [same]
    unfold carriedUsages at list
    rw [range] at list
    simp only [Bool.false_eq_true,if_false] at list ⊢
    rw [and_iff_right list]
    rcases field.usages with _ | ⟨_ | ⟨first,rest⟩⟩ <;> simp [absent]

theorem settle_carried_iff {side : Side} (settled : Side.Settled side) (field : Field) :
    settle (carried side field) = settle field ↔ Survives field := by
  have usages := carriedUsages_iff settled field
  simp only [settle,carried,Field.mk.injEq,unitSystem_iff,carriedExponent_iff,true_and,and_true]
  constructor
  · rintro ⟨list,minimum,maximum,exponent,system,length,mass,time,temperature,current,luminousIntensity⟩
    obtain ⟨low,high,free⟩ := usages.mp ⟨list,minimum,maximum⟩
    exact ⟨system,exponent,length,mass,time,temperature,current,luminousIntensity,low,high,free⟩
  · intro survives
    obtain ⟨list,minimum,maximum⟩ := usages.mpr ⟨survives.minimum,survives.maximum,survives.list⟩
    exact ⟨list,minimum,maximum,survives.unitExponent,survives.unitSystem,survives.length,survives.mass,survives.time,
      survives.temperature,survives.current,survives.luminousIntensity⟩

end FFWebHid.TlvRoundTrip
