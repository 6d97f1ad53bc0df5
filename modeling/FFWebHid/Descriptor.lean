import Mathlib.Algebra.Group.Nat.Defs
import Mathlib.Data.List.AList
import FFWebHid.Maps
import FFWebHid.Types

/-!
From a parsed report descriptor to the page-visible collection tree: adjacent
variable fields are aggregated, the fields of a report are distributed over the
collections that contain them, and the tree is read off the nodes.
-/
namespace FFWebHid.Descriptor
open FFWebHid.Types FFWebHid.Maps

structure Usage where
  usagePage : UInt16
  usageId : UInt16
  deriving DecidableEq, Repr

/-- A collection of the descriptor; `id` tells apart collections that look alike. -/
structure HidCollection where
  id : Nat
  collectionType : UInt8
  usages : List Usage
  deriving DecidableEq, Repr

/-- What variable and array fields have in common. -/
structure FieldAttributes where
  bitsStart : Nat
  bitsEnd : Nat
  collections : List HidCollection
  logicalMinimum : Int
  logicalMaximum : Int
  physicalMinimum : Option Int := none
  physicalMaximum : Option Int := none
  unitExponent : Option Int := none
  unit : Option UInt32 := none
  isAbsolute : Bool := true
  isLinear : Bool := true
  isVolatile : Option Bool := none
  isBufferedBytes : Bool := false
  hasNullState : Bool := false
  hasPreferredState : Bool := true
  wraps : Bool := false
  deriving DecidableEq, Repr

structure VariableField extends FieldAttributes where
  usage : Usage
  deriving DecidableEq, Repr

structure ArrayField extends FieldAttributes where
  usages : List Usage
  isUsageRange : Bool := false
  usageRange : Option (Usage × Usage) := none
  reportCount : Nat
  deriving DecidableEq, Repr

structure ConstantField where
  bitsStart : Nat
  bitsEnd : Nat
  collections : List HidCollection
  deriving DecidableEq, Repr

inductive HidField where
  | variable (v : VariableField)
  | array (a : ArrayField)
  | constant (c : ConstantField)
  deriving DecidableEq, Repr

def HidField.collections : HidField → List HidCollection
  | .variable v => v.collections
  | .array a => a.collections
  | .constant c => c.collections

/-- Variable and array fields; constant fields carry no data. -/
def HidField.isData : HidField → Bool
  | .variable _ => true
  | .array _ => true
  | .constant _ => false

structure HidReport where
  reportId : Option UInt8
  fields : List HidField
  deriving DecidableEq, Repr

/-- An unnumbered report has identifier 0. -/
def HidReport.rid (r : HidReport) : UInt8 := r.reportId.getD 0

structure ReportDescriptor where
  inputReports : List HidReport
  outputReports : List HidReport
  featureReports : List HidReport
  deriving DecidableEq, Repr

def ReportDescriptor.reports (rdesc : ReportDescriptor) : ReportType → List HidReport
  | .input => rdesc.inputReports
  | .output => rdesc.outputReports
  | .feature => rdesc.featureReports

def packUsage (u : Usage) : Nat := u.usagePage.toNat * 0x10000 + u.usageId.toNat

def nibbleAsI8 (n : Nat) : Int := if n < 8 then n else (n : Int) - 16

def unitSystemFromNibble : Nat → String
  | 0 => "none"
  | 1 => "si-linear"
  | 2 => "si-rotation"
  | 3 => "english-linear"
  | 4 => "english-rotation"
  | 15 => "vendor-defined"
  | _ => "reserved"

structure DecodedUnit where
  unitSystem : String
  unitLen : Int
  unitMass : Int
  unitTime : Int
  unitTemp : Int
  unitCur : Int
  unitLum : Int
  deriving DecidableEq, Repr

def decodeUnitSafe : Option UInt32 → DecodedUnit
  | none => ⟨"none",0,0,0,0,0,0⟩
  | some u =>
    let nibble (i : Nat) : Nat := u.toNat / 16 ^ i % 16
    let nibbleSigned (i : Nat) : Int := nibbleAsI8 (nibble i)
    ⟨unitSystemFromNibble (nibble 0),nibbleSigned 1,nibbleSigned 2,nibbleSigned 3,nibbleSigned 4,nibbleSigned 5,
      nibbleSigned 6⟩

/-- The length of a bit range as a 32-bit number. -/
def bitLength (bitsStart bitsEnd : Nat) : Nat := (bitsEnd - bitsStart) % 2 ^ 32

structure VarSig where
  reportSize : Nat
  logicalMin : Int
  logicalMax : Int
  physicalMin : Int
  physicalMax : Int
  unitExponent : Int
  unit : DecodedUnit
  isAbsolute : Bool
  isLinear : Bool
  isVolatile : Bool
  isBufferedBytes : Bool
  hasNull : Bool
  hasPreferredState : Bool
  wrap : Bool
  deriving DecidableEq, Repr

def varSignature (v : FieldAttributes) : VarSig where
  reportSize := bitLength v.bitsStart v.bitsEnd
  logicalMin := v.logicalMinimum
  logicalMax := v.logicalMaximum
  physicalMin := v.physicalMinimum.getD 0
  physicalMax := v.physicalMaximum.getD 0
  unitExponent := v.unitExponent.getD 0
  unit := decodeUnitSafe v.unit
  isAbsolute := v.isAbsolute
  isLinear := v.isLinear
  isVolatile := v.isVolatile.getD false
  isBufferedBytes := v.isBufferedBytes
  hasNull := v.hasNullState
  hasPreferredState := v.hasPreferredState
  wrap := v.wraps

/-- The item that a signature describes, before its usages and counts are set. -/
def VarSig.item (sig : VarSig) : Field where
  logicalMinimum := sig.logicalMin
  logicalMaximum := sig.logicalMax
  physicalMinimum := sig.physicalMin
  physicalMaximum := sig.physicalMax
  unitExponent := sig.unitExponent
  unitSystem := sig.unit.unitSystem
  unitFactorLengthExponent := sig.unit.unitLen
  unitFactorMassExponent := sig.unit.unitMass
  unitFactorTimeExponent := sig.unit.unitTime
  unitFactorTemperatureExponent := sig.unit.unitTemp
  unitFactorCurrentExponent := sig.unit.unitCur
  unitFactorLuminousIntensityExponent := sig.unit.unitLum
  isAbsolute := sig.isAbsolute
  isLinear := sig.isLinear
  isVolatile := sig.isVolatile
  isBufferedBytes := sig.isBufferedBytes
  hasNull := sig.hasNull
  hasPreferredState := sig.hasPreferredState
  wrap := sig.wrap

/-- The usages of an item: an explicit list, or a range with its bounds. -/
structure UsageList where
  usages : List Nat
  isRange : Bool
  usageMinimum : Option Nat
  usageMaximum : Option Nat
  deriving DecidableEq, Repr

/-- Usages of one page with consecutive identifiers become a range. The
    identifiers are compared with saturating 16-bit addition, the upper bound is
    computed with wrapping addition. -/
def detectContiguousRange (usages : List Nat) : UsageList :=
  match usages with
  | first :: _ :: _ =>
    let page := first / 0x10000
    let lo := first % 0x10000
    let samePage := usages.all fun u => u / 0x10000 == page
    let sequential := usages.zipIdx.all fun (u,i) => u % 0x10000 == min (lo + i % 0x10000) 0xFFFF
    if samePage && sequential then
      let hi := (lo + usages.length % 0x10000 + 0xFFFF) % 0x10000
      ⟨[],true,some (page * 0x10000 + lo),some (page * 0x10000 + hi)⟩
    else ⟨usages,false,none,none⟩
  | _ => ⟨usages,false,none,none⟩

def makeAggregatedVariable (first : VariableField) (usages : List Nat) (count : Nat) : Field :=
  let sig := varSignature first.toFieldAttributes
  let found := detectContiguousRange usages
  { sig.item with
    usages := if found.isRange then none else some found.usages
    usageMinimum := found.usageMinimum
    usageMaximum := found.usageMaximum
    reportSize := max sig.reportSize 1
    reportCount := max count 1
    isArray := false
    isRange := found.isRange }

/-- A declared usage range stays a range, on the page of its lower bound; an
    explicit list stays explicit. -/
def arrayUsageRange (a : ArrayField) : UsageList :=
  if a.isUsageRange then
    match a.usageRange with
    | some (minimum,maximum) =>
      let page := minimum.usagePage.toNat * 0x10000
      ⟨[],true,some (page + minimum.usageId.toNat),some (page + maximum.usageId.toNat)⟩
    | none => ⟨[],true,none,none⟩
  else ⟨a.usages.map packUsage,false,none,none⟩

def makeArrayField (a : ArrayField) : Field :=
  let found := arrayUsageRange a
  let count := max (a.reportCount % 2 ^ 32) 1
  { (varSignature a.toFieldAttributes).item with
    usages := if found.isRange then none else some found.usages
    usageMinimum := found.usageMinimum
    usageMaximum := found.usageMaximum
    reportSize := max (bitLength a.bitsStart a.bitsEnd / count) 1
    reportCount := count
    isArray := true
    isRange := found.isRange }

/-- A run of variable fields that directly follow one another in the report and
    share the signature of the first; the usages are kept last first. -/
structure VariableRun where
  first : VariableField
  usages : List Nat
  prevEnd : Nat

def VariableRun.start (v : VariableField) : VariableRun := ⟨v,[packUsage v.usage],v.bitsEnd⟩

def VariableRun.item (r : VariableRun) : Field := makeAggregatedVariable r.first r.usages.reverse r.usages.length

def VariableRun.continues (r : VariableRun) (v : VariableField) : Bool :=
  v.bitsStart == r.prevEnd && varSignature v.toFieldAttributes == varSignature r.first.toFieldAttributes

/-- The items of the fields that are left, with the run that is open before them. -/
def convertFrom : Option VariableRun → List HidField → List Field
  | run, [] => (run.map (·.item)).toList
  | some r, .variable v :: rest =>
    if r.continues v then convertFrom (some ⟨r.first,packUsage v.usage :: r.usages,v.bitsEnd⟩) rest
    else r.item :: convertFrom (some (.start v)) rest
  | none, .variable v :: rest => convertFrom (some (.start v)) rest
  | run, .array a :: rest => (run.map (·.item)).toList ++ makeArrayField a :: convertFrom none rest
  | run, .constant c :: rest =>
    (run.map (·.item)).toList ++
      { reportSize := max (bitLength c.bitsStart c.bitsEnd) 1, reportCount := 1, isConstant := true } ::
        convertFrom none rest

/-- The items of a bucket of fields, adjacent equal variable fields as one. -/
def convertFieldsAggregate (fields : List HidField) : List Field := convertFrom none fields

/-! ### The collection tree -/

/-- A node under construction; its children are named by identifier. -/
structure ColNode where
  collectionType : UInt8
  usagePage : Option UInt16
  usage : Option UInt16
  children : List Nat := []
  inputReports : List Report := []
  outputReports : List Report := []
  featureReports : List Report := []

structure CollectionTreeBuilder where
  nodes : HashMap Nat ColNode := ∅
  rootIds : List Nat := []

namespace CollectionTreeBuilder

/-- Insert the collections of a chain that are new; a new collection becomes a
    root at the head of the chain and a child of its predecessor elsewhere. -/
def ensureFrom (builder : CollectionTreeBuilder) : Option HidCollection → List HidCollection → CollectionTreeBuilder
  | _, [] => builder
  | parent, col :: rest =>
    if col.id ∈ builder.nodes then ensureFrom builder (some col) rest
    else
      let linked : CollectionTreeBuilder :=
        match parent with
        | none => { builder with rootIds := builder.rootIds ++ [col.id] }
        | some p =>
          { builder with
            nodes := modify builder.nodes p.id fun n =>
              if col.id ∈ n.children then n else { n with children := n.children ++ [col.id] } }
      let node : ColNode :=
        { collectionType := col.collectionType
          usagePage := col.usages.head?.map (·.usagePage)
          usage := col.usages.head?.map (·.usageId) }
      ensureFrom { linked with nodes := linked.nodes.insert col.id node } (some col) rest

def ensureChain (builder : CollectionTreeBuilder) (chain : List HidCollection) : CollectionTreeBuilder :=
  ensureFrom builder none chain

/-- The chain of each field; a field without one takes that of the nearest field
    before it, else of the nearest one after it. -/
def resolveChains (before : List HidField) : List HidField → List (HidField × List HidCollection)
  | [] => []
  | field :: rest =>
    let own := field.collections
    let resolved := if own ≠ [] then own
      else ((before ++ rest).map HidField.collections |>.find? (· ≠ [])).getD []
    (field,resolved) :: resolveChains (field :: before) rest

/-- Append a field to the bucket of its innermost collection. -/
def addToBucket (buckets : List (Nat × List HidField)) (key : Nat) (field : HidField) :
    List (Nat × List HidField) :=
  if buckets.any (·.1 == key) then
    buckets.map fun (k,fields) => if k = key then (k,fields ++ [field]) else (k,fields)
  else buckets ++ [(key,[field])]

def ColNode.addReport (n : ColNode) (report : Report) : ReportType → ColNode
  | .input => { n with inputReports := n.inputReports ++ [report] }
  | .output => { n with outputReports := n.outputReports ++ [report] }
  | .feature => { n with featureReports := n.featureReports ++ [report] }

/-- One field of a report: its chain is entered into the tree and the field into
    its bucket. -/
def addField (acc : CollectionTreeBuilder × List (Nat × List HidField))
    (field : HidField × List HidCollection) : CollectionTreeBuilder × List (Nat × List HidField) :=
  match field.2.getLast? with
  | none => acc
  | some last => (acc.1.ensureChain field.2,addToBucket acc.2 last.id field.1)

def addBucket (report : HidReport) (rtype : ReportType) (builder : CollectionTreeBuilder)
    (bucket : Nat × List HidField) : CollectionTreeBuilder :=
  let items := convertFieldsAggregate bucket.2
  if items = [] then builder
  else { builder with nodes := modify builder.nodes bucket.1 fun n => ColNode.addReport n ⟨report.rid,items⟩ rtype }

def addReport (rtype : ReportType) (builder : CollectionTreeBuilder) (report : HidReport) : CollectionTreeBuilder :=
  let (ensured,buckets) := (resolveChains [] report.fields).foldl addField (builder,[])
  buckets.foldl (addBucket report rtype) ensured

/-- The subtree below a node. A node enters the map after its parent, so no path
    is longer than the map; `depth` bounds the recursion by that. -/
def buildNode (builder : CollectionTreeBuilder) : Nat → Nat → Option Collection
  | 0, _ => none
  | depth + 1, id =>
    (builder.nodes.lookup id).map fun n =>
      { collectionType := n.collectionType
        usagePage := n.usagePage
        usage := n.usage
        children := n.children.filterMap (buildNode builder depth)
        inputReports := n.inputReports
        outputReports := n.outputReports
        featureReports := n.featureReports }

/-- A descriptor without collections yields one empty collection. -/
def build (builder : CollectionTreeBuilder) : List Collection :=
  match builder.rootIds.filterMap (builder.buildNode builder.nodes.entries.length) with
  | [] => [⟨1,none,none,[],[],[],[]⟩]
  | result => result

end CollectionTreeBuilder

def collectionsOf (rdesc : ReportDescriptor) : List Collection :=
  let inputs := rdesc.inputReports.foldl (CollectionTreeBuilder.addReport .input) {}
  let outputs := rdesc.outputReports.foldl (CollectionTreeBuilder.addReport .output) inputs
  (rdesc.featureReports.foldl (CollectionTreeBuilder.addReport .feature) outputs).build

/-- The library functions that the daemon calls and does not define: the parser
    of raw report descriptors, with `none` for a rejected one, and SHA-256 in
    hexadecimal. -/
structure Externals where
  tryFrom : Bytes → Option ReportDescriptor
  sha256Hex : String → String

def parseReportDescriptor (lib : Externals) (bytes : Bytes) : Option (List Collection) :=
  (lib.tryFrom bytes).map collectionsOf

/-- The collections that a device description carries for a raw descriptor: none
    when it is empty or rejected. -/
def descriptorCollections (lib : Externals) (raw : Bytes) : List Collection :=
  if raw = [] then [] else (parseReportDescriptor lib raw).getD []

/-- The payload of a report in bytes; bits are counted with saturation. -/
def reportBytes (r : Report) : Nat :=
  let bits := (r.items.map fun f => min (f.reportSize * f.reportCount) 0xFFFFFFFF).foldl
    (fun a b => min (a + b) 0xFFFFFFFF) 0
  (bits + 7) / 8

/-- The largest payload of one direction over a forest, 0 if there is none. -/
def maxReportSize (collections : List Collection) (rt : ReportType) : Nat :=
  ((listedReports rt collections).map reportBytes).foldl max 0

def maxInputReportSize (collections : List Collection) : Nat := maxReportSize collections .input
def maxOutputReportSize (collections : List Collection) : Nat := maxReportSize collections .output
def maxFeatureReportSize (collections : List Collection) : Nat := maxReportSize collections .feature

end FFWebHid.Descriptor
