import FFWebHid.Types
import FFWebHid.LittleEndian
import FFWebHid.PackedNumbers

/-!
Collection trees as tagged nodes of bytes: written by the daemon, read back by
the daemon and by the script of the extension.
-/
namespace FFWebHid.CollectionsTlv
open FFWebHid.Types FFWebHid.LittleEndian FFWebHid.PackedNumbers

def tagCollection : UInt8 := 0x01
def tagInputReport : UInt8 := 0x02
def tagOutputReport : UInt8 := 0x03
def tagFeatureReport : UInt8 := 0x04
def tagField : UInt8 := 0x05

/-- The tag of a unit system is its place here. -/
def unitSystems : List String :=
  ["none","si-linear","si-rotation","english-linear","english-rotation","vendor-defined","reserved"]

def unitSystemToTag (s : String) : Nat := (unitSystems.findIdx? (· == s)).getD 6

def unitSystemFromTag (tag : Nat) : String := unitSystems[tag]?.getD "reserved"

/-- The length is written as a number of 32 bits. -/
def encodeNode (tag : UInt8) (value : Bytes) : Bytes := tag :: (writeVarint (value.length % 2 ^ 32) ++ value)

def encodeFieldFlags (field : Field) : Nat :=
  flagsOf [field.isAbsolute,field.isArray,field.isRange,field.isConstant,field.isLinear,field.isVolatile,
    field.isBufferedBytes,field.hasNull,field.hasPreferredState,field.wrap]

def encodeFieldUsages (field : Field) : Bytes :=
  if field.isRange then toLe 4 (field.usageMinimum.getD 0) ++ toLe 4 (field.usageMaximum.getD 0)
  else
    match field.usages with
    | some usages => writeVarint (usages.length % 2 ^ 32) ++ usages.flatMap (toLe 4)
    | none => writeVarint 0

def encodeFieldStrings (strings : List String) : Bytes :=
  writeVarint (strings.length % 2 ^ 32) ++ strings.flatMap fun s =>
    writeVarint (s.toUTF8.toList.length % 2 ^ 32) ++ s.toUTF8.toList

/-- The unit of a field: its exponent, its system and the exponents of its factors. -/
def encodeUnit (field : Field) : Bytes :=
  toLe 1 (ofSigned 8 field.unitExponent) ++ (toLe 1 (unitSystemToTag field.unitSystem) ++
    (toLe 1 (ofSigned 8 field.unitFactorLengthExponent) ++ (toLe 1 (ofSigned 8 field.unitFactorMassExponent) ++
    (toLe 1 (ofSigned 8 field.unitFactorTimeExponent) ++ (toLe 1 (ofSigned 8 field.unitFactorTemperatureExponent) ++
    (toLe 1 (ofSigned 8 field.unitFactorCurrentExponent) ++
    toLe 1 (ofSigned 8 field.unitFactorLuminousIntensityExponent)))))))

def encodeRanges (field : Field) : Bytes :=
  toLe 4 (ofSigned 32 field.logicalMinimum) ++ (toLe 4 (ofSigned 32 field.logicalMaximum) ++
    (toLe 4 (ofSigned 32 field.physicalMinimum) ++ toLe 4 (ofSigned 32 field.physicalMaximum)))

def encodeFieldValue (field : Field) : Bytes :=
  toLe 2 (encodeFieldFlags field) ++ (writeVarint field.reportSize ++ (writeVarint field.reportCount ++
    (encodeRanges field ++ (encodeUnit field ++ (encodeFieldUsages field ++ encodeFieldStrings field.strings)))))

def encodeField (field : Field) : Bytes := encodeNode tagField (encodeFieldValue field)

def encodeReport (tag : UInt8) (report : Report) : Bytes :=
  encodeNode tag (report.reportId :: report.items.flatMap encodeField)

/-- Which of the usage page and the usage a collection has. -/
def presence (usagePage usage : Option UInt16) : Nat := flagsOf [usagePage.isSome,usage.isSome]

def encodeHead (collectionType : UInt8) (usagePage usage : Option UInt16) : Bytes :=
  toLe 1 (presence usagePage usage) ++ ((usagePage.map fun u => toLe 2 u.toNat).getD [] ++
    ((usage.map fun u => toLe 2 u.toNat).getD [] ++ toLe 1 collectionType.toNat))

mutual
def encodeCollection : Collection → Bytes
  | ⟨collectionType,usagePage,usage,children,inputReports,outputReports,featureReports⟩ =>
    encodeNode tagCollection (encodeHead collectionType usagePage usage ++ (encodeCollections children ++
      (inputReports.flatMap (encodeReport tagInputReport) ++ (outputReports.flatMap (encodeReport tagOutputReport) ++
      featureReports.flatMap (encodeReport tagFeatureReport)))))
/-- The collections of a forest, one after another. -/
def encodeCollections : List Collection → Bytes
  | [] => []
  | c :: rest => encodeCollection c ++ encodeCollections rest
end

/-! ### Reading -/

/-- The bytes from a position on, and how many of them lie before the end of the node
    that is read; none if the position is past that end. -/
structure Cursor where
  bytes : Bytes
  left : Nat

namespace Cursor

/-- Unsigned numbers; there is none behind the last byte. -/
def number (width : Nat) (c : Cursor) : Option (Nat × Cursor) :=
  (readLe width c.bytes).map fun (n,rest) => (n,⟨rest,c.left - width⟩)

def signed (width : Nat) (c : Cursor) : Option (Int × Cursor) :=
  (c.number width).map fun (n,c) => (toSigned (8 * width) n,c)

def varint (c : Cursor) : Option (Nat × Cursor) :=
  (readVarint c.bytes).map fun (n,rest) => (n,⟨rest,c.left - (c.bytes.length - rest.length)⟩)

/-- As many bytes. -/
def slice (count : Nat) (c : Cursor) : Option (Bytes × Cursor) :=
  (readExact count c.bytes).map fun (bytes,rest) => (bytes,⟨rest,c.left - count⟩)

def numbers (width : Nat) : Nat → Cursor → Option (List Nat × Cursor)
  | 0, c => some ([],c)
  | count + 1, c => do
    let (n,c) ← c.number width
    let (rest,c) ← numbers width count c
    return (n :: rest,c)

/-- A number of 16 bits, if it is there. -/
def optional (present : Bool) (c : Cursor) : Option (Option UInt16 × Cursor) :=
  if present then (c.number 2).map fun (n,c) => (some (UInt16.ofNat n),c) else some (none,c)

end Cursor

inductive Node where
  | collection (c : Collection)
  | report (r : Report)
  | field (f : Field)
  | null

/-- Where the two readers differ: whether a field is checked against the end of its node,
    what stands for an empty list of usages and for a node of an unknown tag, and how bytes
    become text. -/
structure Side where
  checked : Bool
  noUsages : Option (List Nat)
  unknown : Node
  text : Bytes → String

structure FieldFixed where
  flags : Nat
  reportSize : Nat
  reportCount : Nat
  logicalMinimum : Int
  logicalMaximum : Int
  physicalMinimum : Int
  physicalMaximum : Int
  unitExponent : Int
  unitSystem : String
  unitFactorLengthExponent : Int
  unitFactorMassExponent : Int
  unitFactorTimeExponent : Int
  unitFactorTemperatureExponent : Int
  unitFactorCurrentExponent : Int
  unitFactorLuminousIntensityExponent : Int

/-- Cut short: there are fewer bytes up to the end of the node than are needed. -/
def Side.short (side : Side) (c : Cursor) (needed : Nat) : Bool := side.checked && decide (c.left < needed)

/-- The part of a field before its usages, unless it is cut short. -/
def decodeFieldFixed (side : Side) (c : Cursor) : Option (Option FieldFixed × Cursor) :=
  if side.short c 2 then some (none,c)
  else do
    let (flags,c) ← c.number 2
    let (reportSize,c) ← c.varint
    let (reportCount,c) ← c.varint
    if side.short c 16 then return (none,c)
    let (logicalMinimum,c) ← c.signed 4
    let (logicalMaximum,c) ← c.signed 4
    let (physicalMinimum,c) ← c.signed 4
    let (physicalMaximum,c) ← c.signed 4
    let (unitExponent,c) ← c.signed 1
    let (unitSystem,c) ← c.number 1
    let (unitFactorLengthExponent,c) ← c.signed 1
    let (unitFactorMassExponent,c) ← c.signed 1
    let (unitFactorTimeExponent,c) ← c.signed 1
    let (unitFactorTemperatureExponent,c) ← c.signed 1
    let (unitFactorCurrentExponent,c) ← c.signed 1
    let (unitFactorLuminousIntensityExponent,c) ← c.signed 1
    return (some
      { flags, reportSize, reportCount, logicalMinimum, logicalMaximum, physicalMinimum, physicalMaximum, unitExponent
        unitSystem := unitSystemFromTag unitSystem
        unitFactorLengthExponent, unitFactorMassExponent, unitFactorTimeExponent, unitFactorTemperatureExponent
        unitFactorCurrentExponent, unitFactorLuminousIntensityExponent },c)

/-- The usages of a field, and the bounds of their range. -/
structure DecodedUsages where
  usages : Option (List Nat)
  usageMinimum : Option Nat
  usageMaximum : Option Nat

def decodeFieldUsages (side : Side) (isRange : Bool) (c : Cursor) : Option (Option DecodedUsages × Cursor) :=
  if isRange then
    if side.short c 8 then some (none,c)
    else do
      let (minimum,c) ← c.number 4
      let (maximum,c) ← c.number 4
      return (some ⟨none,some minimum,some maximum⟩,c)
  else do
    let (count,c) ← c.varint
    if side.short c (count * 4) then return (none,c)
    let (usages,c) ← c.numbers 4 count
    return (some ⟨if usages = [] then side.noUsages else some usages,none,none⟩,c)

/-- The script does not notice when a string ends behind the last byte. -/
def decodeString (side : Side) (c : Cursor) : Option (Option String × Cursor) := do
  let (byteLen,c) ← c.varint
  if side.short c byteLen then return (none,c)
  let (bytes,c) ← if side.checked then c.slice byteLen
    else some (c.bytes.take byteLen,⟨c.bytes.drop byteLen,c.left - byteLen⟩)
  return (some (side.text bytes),c)

def decodeFieldStrings (side : Side) : Nat → Cursor → Option (Option (List String) × Cursor)
  | 0, c => some (some [],c)
  | count + 1, c => do
    let (s,c) ← decodeString side c
    match s with
    | none => return (none,c)
    | some s =>
      let (rest,c) ← decodeFieldStrings side count c
      return (rest.map (s :: ·),c)

def fieldOf (fixed : FieldFixed) (usages : DecodedUsages) (strings : List String) : Field where
  usages := usages.usages
  usageMinimum := usages.usageMinimum
  usageMaximum := usages.usageMaximum
  reportSize := fixed.reportSize
  reportCount := fixed.reportCount
  logicalMinimum := fixed.logicalMinimum
  logicalMaximum := fixed.logicalMaximum
  physicalMinimum := fixed.physicalMinimum
  physicalMaximum := fixed.physicalMaximum
  unitExponent := fixed.unitExponent
  unitSystem := fixed.unitSystem
  unitFactorLengthExponent := fixed.unitFactorLengthExponent
  unitFactorMassExponent := fixed.unitFactorMassExponent
  unitFactorTimeExponent := fixed.unitFactorTimeExponent
  unitFactorTemperatureExponent := fixed.unitFactorTemperatureExponent
  unitFactorCurrentExponent := fixed.unitFactorCurrentExponent
  unitFactorLuminousIntensityExponent := fixed.unitFactorLuminousIntensityExponent
  isAbsolute := fixed.flags.testBit 0
  isArray := fixed.flags.testBit 1
  isRange := fixed.flags.testBit 2
  isConstant := fixed.flags.testBit 3
  isLinear := fixed.flags.testBit 4
  isVolatile := fixed.flags.testBit 5
  isBufferedBytes := fixed.flags.testBit 6
  hasNull := fixed.flags.testBit 7
  hasPreferredState := fixed.flags.testBit 8
  wrap := fixed.flags.testBit 9
  strings := strings

/-- A field that is cut short becomes an empty one. -/
def decodeField (side : Side) (c : Cursor) : Option Field := do
  let (fixed,c) ← decodeFieldFixed side c
  match fixed with
  | none => return {}
  | some fixed =>
    let (usages,c) ← decodeFieldUsages side (fixed.flags.testBit 2) c
    match usages with
    | none => return {}
    | some usages =>
      let (count,c) ← c.varint
      let (strings,_) ← decodeFieldStrings side count c
      match strings with
      | none => return {}
      | some strings => return fieldOf fixed usages strings

/-- What stands in a collection before its nodes. -/
structure Head where
  usagePage : Option UInt16
  usage : Option UInt16
  collectionType : UInt8

def decodeHead (c : Cursor) : Option (Head × Cursor) := do
  let (presence,c) ← c.number 1
  let (usagePage,c) ← c.optional (presence.testBit 0)
  let (usage,c) ← c.optional (presence.testBit 1)
  let (collectionType,c) ← c.number 1
  return (⟨usagePage,usage,UInt8.ofNat collectionType⟩,c)

/-- The tag and the length of a node, and what follows them. -/
def decodeTag (bytes : Bytes) : Option (UInt8 × Nat × Bytes) :=
  match bytes with
  | [] => none
  | tag :: rest => (readVarint rest).map fun (len,rest) => (tag,len,rest)

def Node.collection? : UInt8 × Node → Option Collection
  | (tag,.collection c) => if tag = tagCollection then some c else none
  | _ => none

def Node.report? (wanted : UInt8) : UInt8 × Node → Option Report
  | (tag,.report r) => if tag = wanted then some r else none
  | _ => none

def Node.field? : UInt8 × Node → Option Field
  | (_,.field f) => some f
  | _ => none

def collectionOf (head : Head) (nodes : List (UInt8 × Node)) : Collection where
  collectionType := head.collectionType
  usagePage := head.usagePage
  usage := head.usage
  children := nodes.filterMap Node.collection?
  inputReports := nodes.filterMap (Node.report? tagInputReport)
  outputReports := nodes.filterMap (Node.report? tagOutputReport)
  featureReports := nodes.filterMap (Node.report? tagFeatureReport)

theorem number_shorter {width n : Nat} {c rest : Cursor} (read : c.number width = some (n,rest)) :
    rest.bytes.length + width = c.bytes.length := by
  obtain ⟨⟨n',left⟩,found,made⟩ := Option.map_eq_some_iff.mp read
  cases made
  exact readLe_shorter found

theorem optional_shorter {present : Bool} {u : Option UInt16} {c rest : Cursor}
    (read : c.optional present = some (u,rest)) : rest.bytes.length ≤ c.bytes.length := by
  unfold Cursor.optional at read
  split at read
  · obtain ⟨⟨n,left⟩,found,made⟩ := Option.map_eq_some_iff.mp read
    cases made
    have shorter := number_shorter found
    omega
  · cases read
    exact Nat.le_refl _

theorem decodeHead_shorter {c rest : Cursor} {head : Head} (read : decodeHead c = some (head,rest)) :
    rest.bytes.length < c.bytes.length := by
  simp only [decodeHead,bind,Option.bind_eq_some_iff,pure,Option.some.injEq] at read
  obtain ⟨⟨presence,c₁⟩,first,⟨usagePage,c₂⟩,second,⟨usage,c₃⟩,third,⟨collectionType,c₄⟩,fourth,made⟩ := read
  cases made
  have one := number_shorter first
  have two := optional_shorter second
  have three := optional_shorter third
  have four := number_shorter fourth
  dsimp only at *
  omega

theorem decodeTag_shorter {bytes body : Bytes} {tag : UInt8} {len : Nat} (read : decodeTag bytes = some (tag,len,body)) :
    body.length < bytes.length := by
  cases bytes with
  | nil => cases read
  | cons first rest =>
    obtain ⟨⟨n,left⟩,found,made⟩ := Option.map_eq_some_iff.mp read
    cases made
    exact Nat.lt_succ_of_lt (readVarint_shorter found)

mutual
/-- The nodes up to the end of the node around them. Each is left at its own end, however
    much of it has been read. -/
def decodeNodes (side : Side) (c : Cursor) : Option (List (UInt8 × Node)) :=
  if c.left = 0 then some []
  else
    match _read : decodeTag c.bytes with
    | none => none
    | some (tag,len,body) =>
      match decodeNode side tag ⟨body,len⟩ with
      | none => none
      | some node =>
        (decodeNodes side ⟨body.drop len,c.left - (c.bytes.length - body.length) - len⟩).map ((tag,node) :: ·)
termination_by c.bytes.length
decreasing_by
  · exact decodeTag_shorter _read
  · have shorter := decodeTag_shorter _read
    rw [List.length_drop]
    omega
/-- The value of one node. A report keeps the fields among its nodes; no encoder writes
    others there. -/
def decodeNode (side : Side) (tag : UInt8) (c : Cursor) : Option Node :=
  if tag = tagCollection then
    match _read : decodeHead c with
    | none => none
    | some (head,rest) => (decodeNodes side rest).map fun nodes => .collection (collectionOf head nodes)
  else if tag = tagInputReport ∨ tag = tagOutputReport ∨ tag = tagFeatureReport then
    match _read : c.number 1 with
    | none => none
    | some (reportId,rest) =>
      (decodeNodes side rest).map fun nodes => .report ⟨UInt8.ofNat reportId,nodes.filterMap Node.field?⟩
  else if tag = tagField then (decodeField side c).map .field
  else some side.unknown
termination_by c.bytes.length
decreasing_by
  · exact decodeHead_shorter _read
  · have shorter := number_shorter _read
    omega
end

/-- The forest that some bytes stand for. -/
def decodeForest (side : Side) (bytes : Bytes) : Option (List Collection) :=
  (decodeNodes side ⟨bytes,bytes.length⟩).map (·.filterMap Node.collection?)

/-- The codec of base64, and how bytes become text on either side. -/
structure Libraries where
  encode : Bytes → String
  decode : String → Option Bytes
  decode_encode (bytes : Bytes) : decode (encode bytes) = some bytes
  decode_empty : decode "" = some []
  fromUtf8Lossy : Bytes → String
  textDecoder : Bytes → String

/-- The daemon's reader. -/
def rust (lib : Libraries) : Side where
  checked := true
  noUsages := none
  unknown := .field {}
  text := lib.fromUtf8Lossy

/-- The extension's reader. -/
def js (lib : Libraries) : Side where
  checked := false
  noUsages := some []
  unknown := .null
  text := lib.textDecoder

def serialize (lib : Libraries) (collections : List Collection) : String := lib.encode (encodeCollections collections)

def deserialize (lib : Libraries) (encoded : String) : Option (List Collection) :=
  (lib.decode encoded).bind (decodeForest (rust lib))

def decodeCollectionsTlv (lib : Libraries) (b64 : String) : Option (List Collection) :=
  if b64 = "" then some [] else (lib.decode b64).bind (decodeForest (js lib))

end FFWebHid.CollectionsTlv
