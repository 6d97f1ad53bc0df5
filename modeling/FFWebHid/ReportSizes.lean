import Mathlib.Algebra.GroupWithZero.Nat
import Mathlib.Algebra.Order.BigOperators.Group.List
import Mathlib.Algebra.Order.Group.Nat
import FFWebHid.CollectionTrees
import FFWebHid.ReportProtection
import FFWebHid.Threads

/-!
The largest reports of a device. The tree keeps the fields of a report apart by
their innermost collections, and the largest size is taken over these parts:
the parts of one report are not added up.
-/
namespace FFWebHid.ReportSizes
open FFWebHid.Types FFWebHid.Descriptor FFWebHid.CollectionTrees FFWebHid.ReportBlocking

/-- The bits of a field. -/
def width : HidField → Nat
  | .variable v => v.bitsEnd - v.bitsStart
  | .array a => a.bitsEnd - a.bitsStart
  | .constant c => c.bitsEnd - c.bitsStart

/-- The bits of all fields that are declared for a report identifier. -/
def declaredBits (rdesc : ReportDescriptor) (rt : ReportType) (reportId : UInt8) : Nat :=
  (((rdesc.reports rt).filter (·.rid = reportId)).map fun report => (report.fields.map width).sum).sum

/-- The largest declared report of a type in bytes, 0 if there is none. -/
def declaredSize (rdesc : ReportDescriptor) (rt : ReportType) : Nat :=
  ((rdesc.reports rt).map fun report => (declaredBits rdesc rt report.rid + 7) / 8).foldl max 0

/-- The bits that the items count for a field. -/
def countedBits : HidField → Nat
  | .variable v => max (bitLength v.bitsStart v.bitsEnd) 1
  | .array a =>
    let count := max (a.reportCount % 2 ^ 32) 1
    max (bitLength a.bitsStart a.bitsEnd / count) 1 * count
  | .constant c => max (bitLength c.bitsStart c.bitsEnd) 1

/-- The size in bytes of the fields that a report has in one collection. -/
def sizeIn (report : HidReport) (key : Nat) : Nat :=
  (min (((fieldsIn (chained report) key).map countedBits).sum) 0xFFFFFFFF + 7) / 8

def itemBits (item : Field) : Nat := item.reportSize * item.reportCount

theorem foldl_saturating (items : List Nat) (max start : Nat) :
    (items.map (min · max)).foldl (fun a b => min (a + b) max) (min start max) = min (start + items.sum) max := by
  induction items generalizing start with
  | nil => rfl
  | cons item rest ih =>
    have next : min (min start max + min item max) max = min (start + item) max := by omega
    rw [List.map_cons,List.foldl_cons,next,ih,List.sum_cons,Nat.add_assoc]

theorem itemBits_variable (first : VariableField) (usages : List Nat) (count : Nat) :
    itemBits (makeAggregatedVariable first usages count)
      = max (bitLength first.bitsStart first.bitsEnd) 1 * max count 1 := rfl

theorem itemBits_array (a : ArrayField) : itemBits (makeArrayField a) = countedBits (.array a) := rfl

/-- A run counts its first field as often as it has fields. -/
def runBits (run : Option VariableRun) : Nat :=
  run.elim 0 fun r => max (bitLength r.first.bitsStart r.first.bitsEnd) 1 * max r.usages.length 1

theorem sum_run (run : Option VariableRun) : ((run.map (·.item)).toList.map itemBits).sum = runBits run := by
  cases run with
  | none => rfl
  | some r => simp [runBits,VariableRun.item,itemBits_variable]

/-- A run, if there is one, has a field. -/
def Begun (run : Option VariableRun) : Prop := ∀ r, run = some r → 0 < r.usages.length

theorem begun_start (v : VariableField) : Begun (some (.start v)) := by
  rintro r ⟨⟩
  exact Nat.one_pos

theorem runBits_start (v : VariableField) : runBits (some (.start v)) = countedBits (.variable v) := by
  simp [runBits,VariableRun.start,countedBits]

/-- A field that continues a run is as wide as the first field of it. -/
theorem runBits_continue {r : VariableRun} (begun : 0 < r.usages.length) {v : VariableField}
    (continues : r.continues v = true) :
    runBits (some ⟨r.first,packUsage v.usage :: r.usages,v.bitsEnd⟩) = runBits (some r) + countedBits (.variable v) := by
  simp only [VariableRun.continues,Bool.and_eq_true,beq_iff_eq] at continues
  have wide : bitLength v.bitsStart v.bitsEnd = bitLength r.first.bitsStart r.first.bitsEnd :=
    congrArg VarSig.reportSize continues.2
  have one : max r.usages.length 1 = r.usages.length := by omega
  simp only [runBits,Option.elim_some,countedBits,wide,List.length_cons,one]
  rw [Nat.max_eq_left (Nat.succ_pos _),Nat.mul_succ]

/-- The items count what the fields count. -/
theorem sum_convertFrom {run : Option VariableRun} (begun : Begun run) (fields : List HidField) :
    ((convertFrom run fields).map itemBits).sum = runBits run + (fields.map countedBits).sum := by
  induction fields generalizing run with
  | nil => rw [convertFrom,sum_run,List.map_nil,List.sum_nil,Nat.add_zero]
  | cons field rest ih =>
    have closed : Begun none := by rintro r ⟨⟩
    rw [List.map_cons,List.sum_cons]
    rcases field with v | a | c
    · cases run with
      | none =>
        rw [convertFrom,ih (begun_start v),runBits_start]
        simp [runBits]
      | some r =>
        rw [convertFrom]
        split
        · rename_i continues
          rw [ih (by rintro r' ⟨⟩; exact Nat.succ_pos _),runBits_continue (begun r rfl) continues,Nat.add_assoc]
        · rw [List.map_cons,List.sum_cons,ih (begun_start v),runBits_start]
          rfl
    · rw [convertFrom,List.map_append,List.sum_append,sum_run,List.map_cons,List.sum_cons,ih closed,itemBits_array]
      simp [runBits]
    · rw [convertFrom,List.map_append,List.sum_append,sum_run,List.map_cons,List.sum_cons,ih closed]
      simp [runBits,itemBits,countedBits]

/-- The size of a part of a report, by its fields. -/
theorem reportBytes_convert (reportId : UInt8) (fields : List HidField) :
    reportBytes ⟨reportId,convertFieldsAggregate fields⟩ = (min ((fields.map countedBits).sum) 0xFFFFFFFF + 7) / 8 := by
  have counted : ((convertFieldsAggregate fields).map itemBits).sum = (fields.map countedBits).sum := by
    have closed : Begun none := by rintro r ⟨⟩
    have sum := sum_convertFrom closed fields
    rwa [runBits,Option.elim_none,Nat.zero_add] at sum
  have saturated := foldl_saturating ((convertFieldsAggregate fields).map itemBits) 0xFFFFFFFF 0
  rw [counted,Nat.zero_add,List.map_map] at saturated
  rw [← saturated]
  rfl

theorem foldl_max_le_iff (sizes : List Nat) (start bound : Nat) :
    sizes.foldl max start ≤ bound ↔ start ≤ bound ∧ ∀ size ∈ sizes, size ≤ bound := by
  induction sizes generalizing start with
  | nil => simp
  | cons size rest ih => rw [List.foldl_cons,ih,List.forall_mem_cons,Nat.max_le,and_assoc]

theorem foldl_max_mem (sizes : List Nat) (start : Nat) :
    sizes.foldl max start = start ∨ sizes.foldl max start ∈ sizes := by
  induction sizes generalizing start with
  | nil => exact .inl rfl
  | cons size rest ih =>
    rw [List.foldl_cons]
    rcases ih (max start size) with same | inside
    · rcases Nat.le_total start size with below | above
      · right
        rw [same,Nat.max_eq_right below]
        exact List.mem_cons_self
      · left
        rw [same,Nat.max_eq_left above]
    · exact .inr (List.mem_cons_of_mem _ inside)

/-- The largest size of a type is the largest that a report has in one collection. -/
theorem maxReportSize_eq_iff (rdesc : ReportDescriptor) (rt : ReportType) (size : Nat) :
    maxReportSize (collectionsOf rdesc) rt = size ↔
      (∀ report ∈ rdesc.reports rt, ∀ key, sizeIn report key ≤ size) ∧
        (size = 0 ∨ ∃ report ∈ rdesc.reports rt, ∃ key, sizeIn report key = size) := by
  have bounded (bound : Nat) : maxReportSize (collectionsOf rdesc) rt ≤ bound ↔
      ∀ report ∈ rdesc.reports rt, ∀ key, sizeIn report key ≤ bound := by
    rw [maxReportSize,foldl_max_le_iff]
    simp only [Nat.zero_le,true_and,List.forall_mem_map,listed_collectionsOf]
    constructor
    · intro small report inside key
      by_cases none : fieldsIn (chained report) key = []
      · simp [sizeIn,none]
      · have part := small _ ⟨report,inside,key,none,rfl⟩
        rwa [reportBytes_convert] at part
    · rintro small x ⟨report,inside,key,-,rfl⟩
      rw [reportBytes_convert]
      exact small report inside key
  have attained : maxReportSize (collectionsOf rdesc) rt = 0 ∨
      ∃ report ∈ rdesc.reports rt, ∃ key, sizeIn report key = maxReportSize (collectionsOf rdesc) rt := by
    refine (foldl_max_mem _ 0).imp_right fun inside => ?_
    obtain ⟨x,listed,size⟩ := List.mem_map.mp inside
    obtain ⟨report,there,key,-,rfl⟩ := (listed_collectionsOf rdesc rt x).mp listed
    rw [reportBytes_convert] at size
    exact ⟨report,there,key,size⟩
  constructor
  · rintro rfl
    exact ⟨(bounded _).mp le_rfl,attained⟩
  · rintro ⟨small,reached⟩
    refine le_antisymm ((bounded size).mpr small) ?_
    rcases reached with rfl | ⟨report,inside,key,same⟩
    · exact Nat.zero_le _
    · exact same ▸ (bounded _).mp le_rfl report inside key

/-- The fields of a type count for as many bits as they have, and no report is longer than
    the counts reach. -/
structure Regular (rdesc : ReportDescriptor) (rt : ReportType) : Prop where
  counted : ∀ report ∈ rdesc.reports rt, ∀ field ∈ report.fields, countedBits field = width field
  bounded : ∀ report ∈ rdesc.reports rt, declaredBits rdesc rt report.rid ≤ 0xFFFFFFFF

/-- The bits that a report has in one collection. -/
def bitsIn (report : HidReport) (key : Nat) : Nat := ((fieldsIn (chained report) key).map width).sum

theorem bitsIn_le {rdesc : ReportDescriptor} {rt : ReportType} {report : HidReport} (inside : report ∈ rdesc.reports rt)
    (key : Nat) : bitsIn report key ≤ declaredBits rdesc rt report.rid := by
  have own : bitsIn report key ≤ (report.fields.map width).sum :=
    ((fieldsIn_sublist report key).map width).sum_le_sum (fun _ _ => Nat.zero_le _)
  have among : report ∈ (rdesc.reports rt).filter (·.rid = report.rid) := List.mem_filter.mpr ⟨inside,by simp⟩
  exact own.trans (List.le_sum_of_mem (List.mem_map_of_mem among))

theorem sizeIn_regular {rdesc : ReportDescriptor} {rt : ReportType} (regular : Regular rdesc rt) {report : HidReport}
    (inside : report ∈ rdesc.reports rt) (key : Nat) : sizeIn report key = (bitsIn report key + 7) / 8 := by
  have counted : (fieldsIn (chained report) key).map countedBits = (fieldsIn (chained report) key).map width :=
    List.map_congr_left fun field there =>
      regular.counted report inside field ((fieldsIn_sublist report key).subset there)
  have short := Nat.le_trans (bitsIn_le inside key) (regular.bounded report inside)
  unfold sizeIn
  rw [counted]
  exact congrArg (fun bits => (bits + 7) / 8) (Nat.min_eq_left short)

theorem le_declaredSize {rdesc : ReportDescriptor} {rt : ReportType} {report : HidReport}
    (inside : report ∈ rdesc.reports rt) : (declaredBits rdesc rt report.rid + 7) / 8 ≤ declaredSize rdesc rt :=
  ((foldl_max_le_iff _ _ _).mp le_rfl).2 _ (List.mem_map_of_mem inside)

/-! ### The sizes of a device -/

/-- Some report has as many bytes in one collection as the largest report has at all,
    and no report is counted for more. -/
def Undivided (rdesc : ReportDescriptor) (rt : ReportType) : Prop :=
  (∀ report ∈ rdesc.reports rt, ∀ key, sizeIn report key ≤ declaredSize rdesc rt) ∧
    (declaredSize rdesc rt = 0 ∨ ∃ report ∈ rdesc.reports rt, ∃ key, sizeIn report key = declaredSize rdesc rt)

/-- Without odd fields, only the division of the largest report matters. -/
theorem undivided_iff_of_regular {rdesc : ReportDescriptor} {rt : ReportType} (regular : Regular rdesc rt) :
    Undivided rdesc rt ↔ declaredSize rdesc rt = 0 ∨
      ∃ report ∈ rdesc.reports rt, ∃ key, (bitsIn report key + 7) / 8 = declaredSize rdesc rt := by
  have within : ∀ report ∈ rdesc.reports rt, ∀ key, sizeIn report key ≤ declaredSize rdesc rt := by
    intro report inside key
    have part := bitsIn_le inside key
    have whole := le_declaredSize inside
    rw [sizeIn_regular regular inside]
    omega
  rw [Undivided,and_iff_right within]
  refine or_congr_right (exists_congr fun report => and_congr_right fun inside => exists_congr fun key => ?_)
  rw [sizeIn_regular regular inside]

/-- The sizes of an open device are those of its descriptor, and its checks and its read
    buffer go by them. -/
structure Faithful (lib : Externals) (info : DeviceInfo) (rdesc : ReportDescriptor) : Prop where
  sizes (rt : ReportType) : maxReportSize info.collections rt = declaredSize rdesc rt
  accepted (numbered : Bool) (rt : ReportType) (reportId : UInt8) (len : Nat) : rt ≠ .input →
    numbered = (reportId != 0) → 0 < declaredSize rdesc rt → len ≤ declaredSize rdesc rt →
    (DeviceReportBlocking.new lib info numbered).validateReportSend reportId rt (some len) = true
  readable (rt : ReportType) : min (declaredSize rdesc rt + 1) Registry.DeviceManager.maxReadBuffer ≤ Threads.readBufSizeOf info

/-- A payload of a declared size passes the check of a send. -/
theorem validateReportSend_of_le (lib : Externals) (info : DeviceInfo) {numbered : Bool} {rt : ReportType}
    {reportId : UInt8} {len : Nat} (write : rt ≠ .input) (mode : numbered = (reportId != 0))
    (declared : 0 < maxReportSize info.collections rt) (fits : len ≤ maxReportSize info.collections rt) :
    (DeviceReportBlocking.new lib info numbered).validateReportSend reportId rt (some len) = true := by
  have valid : reportWriteValid numbered (maxReportSize info.collections rt) reportId (some len) = true := by
    unfold reportWriteValid
    rw [if_neg (not_not_intro mode),if_neg (Nat.pos_iff_ne_zero.mp declared)]
    exact decide_eq_true fits
  cases rt with
  | input => exact absurd rfl write
  | output => exact valid
  | feature => exact valid

theorem readBufSizeOf_ge (info : DeviceInfo) (rt : ReportType) :
    min (maxReportSize info.collections rt + 1) Registry.DeviceManager.maxReadBuffer ≤ Threads.readBufSizeOf info := by
  unfold Threads.readBufSizeOf maxInputReportSize maxOutputReportSize maxFeatureReportSize
  dsimp only
  cases rt <;> omega

/-- The sizes, the checks and the read buffer are those of the descriptor just when no type
    has its largest report divided among collections. -/
theorem faithful_iff (lib : Externals) (info : DeviceInfo) (rdesc : ReportDescriptor)
    (read : lib.tryFrom info.rawDescriptor = some rdesc)
    (parsed : parseReportDescriptor lib info.rawDescriptor = some info.collections) :
    Faithful lib info rdesc ↔ ∀ rt, Undivided rdesc rt := by
  have tree : info.collections = collectionsOf rdesc := by
    rw [parseReportDescriptor,read] at parsed
    exact (Option.some.inj parsed).symm
  have sizes (rt : ReportType) : maxReportSize info.collections rt = declaredSize rdesc rt ↔ Undivided rdesc rt := by
    rw [tree,maxReportSize_eq_iff]
    rfl
  constructor
  · exact fun faithful rt => (sizes rt).mp (faithful.sizes rt)
  · intro whole
    have same (rt : ReportType) := (sizes rt).mpr (whole rt)
    refine ⟨same,?_,?_⟩
    · intro numbered rt reportId len write mode some fits
      exact validateReportSend_of_le lib info write mode ((same rt).symm ▸ some) ((same rt).symm ▸ fits)
    · exact fun rt => same rt ▸ readBufSizeOf_ge info rt

/-- The sizes of a keyboard whose reports lie in one collection. -/
theorem faithful_keyboard :
    Faithful ReportProtection.paddedLib ReportProtection.paddedInfo ReportProtection.paddedKeyboard := by
  refine (faithful_iff _ _ _ rfl rfl).mpr fun rt => ?_
  exact (maxReportSize_eq_iff ReportProtection.paddedKeyboard rt _).mp (by cases rt <;> decide)

/-- Output report 5: a byte in a vendor collection, then two bytes in a keyboard collection. -/
def dividedReport : ReportDescriptor :=
  let vendor : HidCollection := ⟨0,1,[⟨0xFF00,1⟩]⟩
  let keyboard : HidCollection := ⟨1,1,[⟨1,6⟩]⟩
  let first : VariableField :=
    { bitsStart := 8, bitsEnd := 16, collections := [vendor], logicalMinimum := 0, logicalMaximum := 255,
      usage := ⟨0xFF00,2⟩ }
  let second : VariableField :=
    { bitsStart := 16, bitsEnd := 32, collections := [keyboard], logicalMinimum := 0, logicalMaximum := 255,
      usage := ⟨1,7⟩ }
  { inputReports := []
    outputReports := [⟨some 5,[.variable first,.variable second]⟩]
    featureReports := [] }

def dividedLib : Externals := ⟨fun _ => some dividedReport,id⟩

def dividedInfo : DeviceInfo :=
  let raw : Bytes :=
    [0x06,0x00,0xFF,0x09,0x01,0xA1,0x01,0x85,0x05,0x09,0x02,0x15,0x00,0x26,0xFF,0x00,0x75,0x08,0x95,0x01,0x91,0x02,0xC0,
      0x05,0x01,0x09,0x06,0xA1,0x01,0x09,0x07,0x15,0x00,0x26,0xFF,0x00,0x75,0x10,0x95,0x01,0x91,0x02,0xC0]
  { vendorId := 0x1234, productId := 0x5678, deviceId := 1, rawDescriptor := raw
    collections := descriptorCollections dividedLib raw }

/-- The report has three bytes, the tree knows of two, and a payload of three is refused. -/
theorem divided_report_refused :
    parseReportDescriptor dividedLib dividedInfo.rawDescriptor = some dividedInfo.collections ∧
      declaredSize dividedReport .output = 3 ∧ maxOutputReportSize dividedInfo.collections = 2 ∧
      (DeviceReportBlocking.new dividedLib dividedInfo true).validateReportSend 5 .output (some 3) = false ∧
      ¬ Faithful dividedLib dividedInfo dividedReport := by
  have three : declaredSize dividedReport .output = 3 := by decide
  have two : maxReportSize dividedInfo.collections .output = 2 := by decide
  have refused : reportWriteValid true (maxReportSize dividedInfo.collections .output) 5 (some 3) = false := by
    rw [two]
    decide
  refine ⟨rfl,three,two,refused,fun faithful => ?_⟩
  have same := faithful.sizes .output
  rw [two,three] at same
  cases same

end FFWebHid.ReportSizes
