import FFWebHid.BlockingMaps
import FFWebHid.HidDevices
import FFWebHid.TlvRoundTrip

/-!
Whether a device numbers its reports. The daemon scans the raw descriptor for a Report
ID item, the page looks for a number among the reports that it sees.
-/
namespace FFWebHid.NumberedReports
open FFWebHid.Types FFWebHid.Descriptor FFWebHid.CollectionTrees FFWebHid.ReportBlocking FFWebHid.ReportProtection
open FFWebHid.HidDevices FFWebHid.LosslessTrees

/-- A short item with its data, or a long item, which begins with 0xFE. -/
inductive Item where
  | short (first : UInt8) (data : Bytes) (notLong : first ≠ 0xFE) (length : data.length = payloadLength first)
  | long (size tag : UInt8) (data : Bytes) (length : data.length = size.toNat)

def Item.bytes : Item → Bytes
  | .short first data _ _ => first :: data
  | .long size tag data _ => 0xFE :: size :: tag :: data

/-- A global item with the tag of a report identifier, of any size. -/
def Item.isReportId : Item → Bool
  | .short first _ _ _ => first &&& 0xFC == 0x84
  | .long _ _ _ _ => false

/-- The identifier that an item declares. -/
def Item.reportId? : Item → Option UInt8
  | .short first data _ _ => if first &&& 0xFC = 0x84 then data.head? else none
  | .long _ _ _ _ => none

theorem isReportId_of_reportId? {item : Item} {reportId : UInt8} (declared : item.reportId? = some reportId) :
    item.isReportId = true := by
  cases item with
  | short first data notLong length =>
    rw [Item.reportId?] at declared
    split at declared
    · rename_i tagged
      rwa [Item.isReportId,beq_iff_eq]
    · cases declared
  | long size tag data length => cases declared

theorem scanNumbered_long (fuel : Nat) (size : UInt8) (rest : Bytes) :
    scanNumbered (fuel + 1) (0xFE :: size :: rest) = scanNumbered fuel (rest.drop (1 + size.toNat)) := rfl

theorem scanNumbered_short (fuel : Nat) {first : UInt8} (notLong : first ≠ 0xFE) (rest : Bytes) :
    scanNumbered (fuel + 1) (first :: rest)
      = if first &&& 0xFC = 0x84 then true else scanNumbered fuel (rest.drop (payloadLength first)) := by
  conv_lhs => unfold scanNumbered
  exact if_neg notLong

/-- The scan goes from item to item. -/
theorem scanNumbered_items {items : List Item} {fuel : Nat} (enough : (items.flatMap Item.bytes).length ≤ fuel) :
    scanNumbered fuel (items.flatMap Item.bytes) = items.any Item.isReportId := by
  induction items generalizing fuel with
  | nil => cases fuel <;> rfl
  | cons item rest ih =>
    rw [List.flatMap_cons] at enough ⊢
    cases item with
    | short first data notLong length =>
      have bytes : Item.bytes (.short first data notLong length) ++ rest.flatMap Item.bytes
          = first :: (data ++ rest.flatMap Item.bytes) := rfl
      rw [bytes,List.length_cons,List.length_append] at enough
      obtain ⟨fuel,rfl⟩ := Nat.exists_eq_add_one_of_ne_zero (Nat.ne_zero_of_lt enough)
      rw [bytes,scanNumbered_short fuel notLong,List.drop_left' length,List.any_cons,ih (by omega)]
      by_cases tagged : first &&& 0xFC = 0x84
      · simp [tagged,Item.isReportId]
      · simp [tagged,Item.isReportId]
    | long size tag data length =>
      have bytes : Item.bytes (.long size tag data length) ++ rest.flatMap Item.bytes
          = 0xFE :: size :: ((tag :: data) ++ rest.flatMap Item.bytes) := rfl
      rw [bytes,List.length_cons,List.length_cons,List.length_append] at enough
      obtain ⟨fuel,rfl⟩ := Nat.exists_eq_add_one_of_ne_zero (Nat.ne_zero_of_lt enough)
      have skipped : (tag :: data).length = 1 + size.toNat := by rw [List.length_cons,length,Nat.add_comm]
      rw [bytes,scanNumbered_long,List.drop_left' skipped,List.any_cons,ih (by omega),Item.isReportId,Bool.false_or]

theorem usesNumberedReports_items (items : List Item) :
    usesNumberedReports (items.flatMap Item.bytes) = items.any Item.isReportId := scanNumbered_items le_rfl

/-- The parser accepts sequences of items, and takes every report number from a Report ID item. -/
def ReadsItems (lib : Externals) : Prop :=
  ∀ raw rdesc, lib.tryFrom raw = some rdesc → ∃ items : List Item, raw = items.flatMap Item.bytes ∧
    ∀ rt, ∀ report ∈ rdesc.reports rt, report.rid ≠ 0 → ∃ item ∈ items, item.reportId? = some report.rid

mutual
def collectionUsesReportIds : Collection → Bool
  | ⟨_,_,_,children,inputReports,outputReports,featureReports⟩ =>
    if (inputReports ++ outputReports ++ featureReports).any (·.reportId != 0) then true else deviceUsesReportIds children
def deviceUsesReportIds : List Collection → Bool
  | [] => false
  | c :: rest => collectionUsesReportIds c || deviceUsesReportIds rest
end

/-- The `TypeError` that a page gets, or the identifier. -/
def validateReportId (reportId : UInt8) (collections : List Collection) : Except String UInt8 :=
  let usesReportIds := deviceUsesReportIds collections
  if reportId = 0 ∧ usesReportIds = true then .error "reportId must not be 0 for a device that uses report IDs"
  else if reportId ≠ 0 ∧ usesReportIds = false then
    .error "reportId must be 0 for a device that does not use report IDs"
  else .ok reportId

theorem validateReportId_iff (reportId : UInt8) (collections : List Collection) :
    validateReportId reportId collections = .ok reportId ↔ deviceUsesReportIds collections = (reportId != 0) := by
  unfold validateReportId
  by_cases zero : reportId = 0
  · cases deviceUsesReportIds collections <;> simp [zero]
  · cases deviceUsesReportIds collections <;> simp [zero]

theorem any_reports (f : Report → Bool) (rs : ReportType → List Report) :
    (rs .input ++ rs .output ++ rs .feature).any f = true ↔ ∃ rt, ∃ r ∈ rs rt, f r = true := by
  simp only [List.any_eq_true,List.mem_append]
  constructor
  · rintro ⟨r,(input | output) | feature,found⟩
    · exact ⟨.input,r,input,found⟩
    · exact ⟨.output,r,output,found⟩
    · exact ⟨.feature,r,feature,found⟩
  · rintro ⟨rt,r,inside,found⟩
    refine ⟨r,?_,found⟩
    cases rt with
    | input => exact .inl (.inl inside)
    | output => exact .inl (.inr inside)
    | feature => exact .inr inside

mutual
theorem collectionUsesReportIds_iff : ∀ c : Collection,
    collectionUsesReportIds c = true ↔ ∃ rt, ∃ r ∈ c.listed rt, r.reportId ≠ 0
  | ⟨ct,up,u,children,i,o,f⟩ => by
    have own := any_reports (·.reportId != 0) (Collection.reports ⟨ct,up,u,children,i,o,f⟩)
    have below := deviceUsesReportIds_iff children
    simp only [bne_iff_ne] at own
    simp only [Collection.listed,List.mem_append,or_and_right,exists_or,← own,← below]
    rw [collectionUsesReportIds]
    by_cases numbered : (i ++ o ++ f).any (·.reportId != 0) = true
    · rw [if_pos numbered]
      exact iff_of_true rfl (.inl numbered)
    · rw [if_neg numbered]
      exact (or_iff_right numbered).symm
theorem deviceUsesReportIds_iff : ∀ cs : List Collection,
    deviceUsesReportIds cs = true ↔ ∃ rt, ∃ r ∈ listedReports rt cs, r.reportId ≠ 0
  | [] => by simp [deviceUsesReportIds,listedReports]
  | c :: rest => by
    rw [deviceUsesReportIds,Bool.or_eq_true,collectionUsesReportIds_iff c,deviceUsesReportIds_iff rest]
    simp only [listedReports,List.mem_append,or_and_right,exists_or]
end

mutual
theorem collectionUsesReportIds_mapItems (g : Field → Field) : ∀ c : Collection,
    collectionUsesReportIds (TlvRoundTrip.mapItems g c) = collectionUsesReportIds c
  | ⟨ct,up,u,children,i,o,f⟩ => by
    have mapped (rs : List Report) :
        (rs.map (TlvRoundTrip.mapReport g)).any (·.reportId != 0) = rs.any (·.reportId != 0) := by
      rw [List.any_map]
      rfl
    rw [TlvRoundTrip.mapItems,collectionUsesReportIds,collectionUsesReportIds,deviceUsesReportIds_mapForest g children]
    simp only [List.any_append,mapped]
/-- The way to the page changes items at most, and the check does not look at them. -/
theorem deviceUsesReportIds_mapForest (g : Field → Field) : ∀ cs : List Collection,
    deviceUsesReportIds (TlvRoundTrip.mapForest g cs) = deviceUsesReportIds cs
  | [] => rfl
  | c :: rest => by
    rw [TlvRoundTrip.mapForest,deviceUsesReportIds,deviceUsesReportIds,collectionUsesReportIds_mapItems g c,
      deviceUsesReportIds_mapForest g rest]
end

/-- Some numbered report has a field in a collection and is not protected: no data field of it
    lies in a protecting chain. -/
def ShowsNumber (info : DeviceInfo) (rdesc : ReportDescriptor) : Prop :=
  ∃ rt, ∃ report ∈ rdesc.reports rt, report.rid ≠ 0 ∧ (∃ field ∈ report.fields, field.collections ≠ []) ∧
    ¬ SomeDataField rdesc rt report.rid (ChainProtects info rt report.rid)

/-- A report is in the tree when one of its fields lies in a collection. -/
theorem exists_fieldsIn_iff (report : HidReport) :
    (∃ key, fieldsIn (chained report) key ≠ []) ↔ ∃ field ∈ report.fields, field.collections ≠ [] := by
  constructor
  · rintro ⟨key,filled⟩
    rw [fieldsIn_eq] at filled
    obtain ⟨field,inside⟩ := List.exists_mem_of_ne_nil _ filled
    obtain ⟨position,member,-⟩ := List.mem_filterMap.mp inside
    have some : chainOf report.fields position ≠ [] := by
      intro none
      rw [members,List.mem_filter,none] at member
      simp at member
    obtain ⟨other,among,same⟩ := chainOf_mem some
    exact ⟨other,among,same ▸ some⟩
  · rintro ⟨field,inside,own⟩
    obtain ⟨position,below,rfl⟩ := List.getElem_of_mem inside
    have there := List.getElem?_eq_getElem below
    have chain := BlockingMaps.chainOf_own there own
    obtain ⟨above,col,split⟩ := (List.eq_nil_or_concat' report.fields[position].collections).resolve_left own
    refine ⟨col.id,?_⟩
    rw [fieldsIn_eq]
    have member : position ∈ members report col.id := by
      rw [members,List.mem_filter,chain,split,List.getLast?_concat]
      simp [below]
    exact List.ne_nil_of_mem (List.mem_filterMap.mpr ⟨position,member,there⟩)

/-- Pruning keeps what the rule does not protect, whether it has data or not. -/
theorem reportKept_eq {lib : Externals} {info : DeviceInfo} {rdesc : ReportDescriptor}
    (present : info.collections ≠ []) (built : buildReportCollectionMap lib info = mapFromParsedDescriptor rdesc)
    (rt : ReportType) (r : Report) :
    reportKept (buildReportCollectionMap lib info) info.vendorId info.productId rt r = true ↔
      ¬ SomeDataField rdesc rt r.reportId (ChainProtects info rt r.reportId) := by
  rw [reportKept_iff built true rt r,← Bool.not_eq_true,isReportProtected_iff present built,Specified]
  by_cases declared : DeclaresData rdesc rt r.reportId
  · simp [declared]
  · refine iff_of_true (fun data => absurd data declared) ?_
    rintro ⟨report,listed,same,field,inside,data,-⟩
    exact declared ⟨report,listed,same,field,inside,data,trivial⟩

theorem deviceUsesReportIds_pruned {lib : Externals} {info pruned : DeviceInfo} {rdesc : ReportDescriptor}
    (parsed : Parsed lib info) (read : lib.tryFrom info.rawDescriptor = some rdesc)
    (visible : ReportBlocking.pruneDeviceInfo lib info = some pruned) :
    deviceUsesReportIds pruned.collections = true ↔ ShowsNumber info rdesc := by
  obtain ⟨other,same,built⟩ := parsed_descriptor parsed
  obtain rfl : rdesc = other := Option.some.inj (read.symm.trans same)
  have tree : info.collections = collectionsOf rdesc := by
    have collections := parsed.2
    rw [descriptorCollections,parseReportDescriptor,read] at collections
    split at collections
    · exact absurd collections parsed.1
    · exact collections
  have seen (rt : ReportType) : listedReports rt pruned.collections = visibleReports lib info rt := by
    rw [visibleReports,visible]
  simp only [deviceUsesReportIds_iff,seen,visibleReports_eq,List.mem_filter,reportKept_eq parsed.1 built,tree,
    listed_collectionsOf]
  constructor
  · rintro ⟨rt,r,⟨⟨report,listed,key,filled,rfl⟩,free⟩,numbered⟩
    exact ⟨rt,report,listed,numbered,(exists_fieldsIn_iff report).mp ⟨key,filled⟩,free⟩
  · rintro ⟨rt,report,listed,numbered,covered,free⟩
    obtain ⟨key,filled⟩ := (exists_fieldsIn_iff report).mpr covered
    exact ⟨rt,_,⟨⟨report,listed,key,filled,rfl⟩,free⟩,numbered⟩

/-! ### The two answers -/

/-- The scan says whether some parsed report has a number, the page says the same, and the page
    accepts an identifier just when the daemon takes it as numbered or unnumbered. -/
structure NumberedAlike (info pruned : DeviceInfo) (rdesc : ReportDescriptor) : Prop where
  scanned : usesNumberedReports info.rawDescriptor = true ↔ ∃ rt, ∃ report ∈ rdesc.reports rt, report.rid ≠ 0
  page : usesNumberedReports info.rawDescriptor = deviceUsesReportIds pruned.collections
  accepted (reportId : UInt8) (maxSize : Nat) (payloadLen : Option Nat) : 0 < maxSize →
    (∀ len, payloadLen = some len → len ≤ maxSize) →
    (validateReportId reportId pruned.collections = .ok reportId ↔
      reportWriteValid (usesNumberedReports info.rawDescriptor) maxSize reportId payloadLen = true)

/-- With a declared size that the payload fits, only the number matters. -/
theorem reportWriteValid_iff (numbered : Bool) (reportId : UInt8) {maxSize : Nat} {payloadLen : Option Nat}
    (declared : 0 < maxSize) (fits : ∀ len, payloadLen = some len → len ≤ maxSize) :
    reportWriteValid numbered maxSize reportId payloadLen = true ↔ numbered = (reportId != 0) := by
  unfold reportWriteValid
  by_cases mode : numbered = (reportId != 0)
  · rw [if_neg (not_not_intro mode),if_neg (Nat.pos_iff_ne_zero.mp declared)]
    cases payloadLen with
    | none => simp [mode]
    | some len => simp [mode,fits len rfl]
  · simp [mode]

/-- The two sides agree just when the descriptor has no Report ID item, or a numbered report
    stays visible. -/
theorem numbered_alike_iff {lib : Externals} (reads : ReadsItems lib) {info pruned : DeviceInfo}
    {rdesc : ReportDescriptor} (parsed : Parsed lib info) (read : lib.tryFrom info.rawDescriptor = some rdesc)
    (visible : ReportBlocking.pruneDeviceInfo lib info = some pruned) {items : List Item}
    (split : info.rawDescriptor = items.flatMap Item.bytes) :
    NumberedAlike info pruned rdesc ↔ (∀ item ∈ items, item.isReportId = false) ∨ ShowsNumber info rdesc := by
  have shown := deviceUsesReportIds_pruned parsed read visible
  have scanned : usesNumberedReports info.rawDescriptor = true ↔ ∃ item ∈ items, item.isReportId = true := by
    rw [split,usesNumberedReports_items,List.any_eq_true]
  have numbered : (∃ rt, ∃ report ∈ rdesc.reports rt, report.rid ≠ 0) →
      usesNumberedReports info.rawDescriptor = true := by
    rintro ⟨rt,report,listed,number⟩
    obtain ⟨others,same,declared⟩ := reads _ _ read
    obtain ⟨item,inside,names⟩ := declared rt report listed number
    rw [same,usesNumberedReports_items,List.any_eq_true]
    exact ⟨item,inside,isReportId_of_reportId? names⟩
  have among : ShowsNumber info rdesc → ∃ rt, ∃ report ∈ rdesc.reports rt, report.rid ≠ 0 := by
    rintro ⟨rt,report,listed,number,-⟩
    exact ⟨rt,report,listed,number⟩
  constructor
  · intro alike
    cases scan : usesNumberedReports info.rawDescriptor with
    | false =>
      left
      intro item inside
      by_contra tagged
      have found := scanned.mpr ⟨item,inside,by simpa using tagged⟩
      rw [scan] at found
      cases found
    | true => exact .inr (shown.mp (alike.page.symm.trans scan))
  · intro holds
    have whole : usesNumberedReports info.rawDescriptor = true → ShowsNumber info rdesc := by
      intro scan
      obtain ⟨item,inside,tagged⟩ := scanned.mp scan
      rcases holds with none | shows
      · rw [none item inside] at tagged
        cases tagged
      · exact shows
    have page : usesNumberedReports info.rawDescriptor = deviceUsesReportIds pruned.collections := by
      rw [Bool.eq_iff_iff,shown]
      exact ⟨whole,fun shows => numbered (among shows)⟩
    refine ⟨⟨fun scan => among (whole scan),numbered⟩,page,fun reportId maxSize payloadLen declared fits => ?_⟩
    rw [validateReportId_iff,reportWriteValid_iff _ _ declared fits,page]

/-- A parser that knows one descriptor. -/
def onlyReads (items : List Item) (rdesc : ReportDescriptor) : Externals where
  tryFrom raw := if raw = items.flatMap Item.bytes then some rdesc else none
  sha256Hex := id

theorem onlyReads_readsItems {items : List Item} {rdesc : ReportDescriptor}
    (declared : ∀ rt, ∀ report ∈ rdesc.reports rt, report.rid ≠ 0 → ∃ item ∈ items, item.reportId? = some report.rid) :
    ReadsItems (onlyReads items rdesc) := by
  intro raw other read
  rw [onlyReads] at read
  dsimp only at read
  split at read
  · rename_i same
    obtain rfl := Option.some.inj read
    exact ⟨items,same,declared⟩
  · cases read

def infoOf (items : List Item) (rdesc : ReportDescriptor) : DeviceInfo :=
  { vendorId := 0x1234, productId := 0x5678, deviceId := 1, rawDescriptor := items.flatMap Item.bytes
    collections := descriptorCollections (onlyReads items rdesc) (items.flatMap Item.bytes) }

/-- A byte of output in a vendor collection. -/
def vendorByte : HidField :=
  .variable { bitsStart := 8, bitsEnd := 16, collections := [⟨0,1,[⟨0xFF00,1⟩]⟩], logicalMinimum := 0, logicalMaximum := 255,
              usage := ⟨0xFF00,2⟩ }

/-- The items of a vendor collection around an output report of one byte. -/
def vendorItems (numbered : Bool) : List Item :=
  [.short 0x06 [0x00,0xFF] (by decide) rfl,.short 0x09 [0x01] (by decide) rfl,.short 0xA1 [0x01] (by decide) rfl] ++
    (if numbered then [.short 0x85 [0x01] (by decide) rfl] else []) ++
    [.short 0x09 [0x02] (by decide) rfl,.short 0x15 [0x00] (by decide) rfl,.short 0x26 [0xFF,0x00] (by decide) rfl,
      .short 0x75 [0x08] (by decide) rfl,.short 0x95 [0x01] (by decide) rfl,.short 0x91 [0x02] (by decide) rfl,
      .short 0xC0 [] (by decide) rfl]

/-- Output report 1 of a vendor collection. -/
def numberedVendor : ReportDescriptor := ⟨[],[⟨some 1,[vendorByte]⟩],[]⟩

theorem numbered_vendor_alike : ∃ pruned,
    ReportBlocking.pruneDeviceInfo (onlyReads (vendorItems true) numberedVendor) (infoOf (vendorItems true) numberedVendor)
        = some pruned ∧
      (NumberedAlike (infoOf (vendorItems true) numberedVendor) pruned numberedVendor ↔
        (∀ item ∈ vendorItems true, item.isReportId = false) ∨
          ShowsNumber (infoOf (vendorItems true) numberedVendor) numberedVendor) := by
  have reads : ReadsItems (onlyReads (vendorItems true) numberedVendor) :=
    onlyReads_readsItems (by intro rt; cases rt <;> decide)
  obtain ⟨pruned,visible⟩ : ∃ pruned, ReportBlocking.pruneDeviceInfo (onlyReads (vendorItems true) numberedVendor)
      (infoOf (vendorItems true) numberedVendor) = some pruned := Option.isSome_iff_exists.mp (by decide)
  exact ⟨pruned,visible,
    numbered_alike_iff reads ⟨List.ne_nil_of_length_pos (by decide),rfl⟩ (by rfl) visible rfl⟩

/-- An unnumbered output report of a vendor collection, and input report 1 of a keyboard. -/
def vendorWithKeyboard : ReportDescriptor :=
  let key : VariableField :=
    { bitsStart := 8, bitsEnd := 16, collections := [⟨1,1,[⟨1,6⟩]⟩], logicalMinimum := 0, logicalMaximum := 255,
      usage := ⟨7,4⟩ }
  { inputReports := [⟨some 1,[.variable key]⟩]
    outputReports := [⟨none,[vendorByte]⟩]
    featureReports := [] }

def vendorWithKeyboardItems : List Item :=
  vendorItems false ++
    [.short 0x05 [0x01] (by decide) rfl,.short 0x09 [0x06] (by decide) rfl,.short 0xA1 [0x01] (by decide) rfl,
      .short 0x85 [0x01] (by decide) rfl,.short 0x05 [0x07] (by decide) rfl,.short 0x09 [0x04] (by decide) rfl,
      .short 0x81 [0x02] (by decide) rfl,.short 0xC0 [] (by decide) rfl]

/-- The keyboard is hidden from the page, which then refuses every number, and the daemon, which
    has seen the Report ID item, refuses 0: nothing can be sent to the vendor collection. -/
theorem hidden_number_refused :
    let lib := onlyReads vendorWithKeyboardItems vendorWithKeyboard
    let info := infoOf vendorWithKeyboardItems vendorWithKeyboard
    Parsed lib info ∧ lib.tryFrom info.rawDescriptor = some vendorWithKeyboard ∧ ReadsItems lib ∧
      ∃ pruned, ReportBlocking.pruneDeviceInfo lib info = some pruned ∧
        usesNumberedReports info.rawDescriptor = true ∧ deviceUsesReportIds pruned.collections = false ∧
        (∀ reportId, validateReportId reportId pruned.collections = .ok reportId →
          (DeviceReportBlocking.new lib info true).validateReportSend reportId .output (some 1) = false) ∧
        ¬ NumberedAlike info pruned vendorWithKeyboard := by
  intro lib info
  obtain ⟨pruned,visible⟩ : ∃ pruned, ReportBlocking.pruneDeviceInfo lib info = some pruned :=
    Option.isSome_iff_exists.mp (by decide)
  have scan : usesNumberedReports info.rawDescriptor = true := by decide
  have page : deviceUsesReportIds pruned.collections = false := by
    have found : (ReportBlocking.pruneDeviceInfo lib info).map (fun p => deviceUsesReportIds p.collections) = some false := by
      decide
    rw [visible] at found
    exact Option.some.inj found
  refine ⟨⟨List.ne_nil_of_length_pos (by decide),rfl⟩,by rfl,onlyReads_readsItems (by intro rt; cases rt <;> decide),
    pruned,visible,scan,page,?_,fun alike => ?_⟩
  · intro reportId accepted
    rw [validateReportId_iff,page] at accepted
    have zero : reportId = 0 := by simpa using accepted.symm
    rw [zero]
    decide
  · have same := alike.page
    rw [scan,page] at same
    cases same

end FFWebHid.NumberedReports
