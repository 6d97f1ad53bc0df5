import Mathlib.Data.List.AList
import FFWebHid.Maps
import FFWebHid.Types
import FFWebHid.Blocklist
import FFWebHid.Descriptor

/-!
Which reports of a device a page may see, receive and send. The verdict is
computed in three places: when the collection tree is pruned for the page, when
a send is checked, and in the filter of the reader thread.
-/
namespace FFWebHid.ReportBlocking
open FFWebHid.Types FFWebHid.Maps FFWebHid.Blocklist FFWebHid.Descriptor

/-- One collection on the chain of a report. -/
structure ReportAssociation where
  usagePage : Option UInt16
  usage : Option UInt16
  isApplication : Bool
  deriving DecidableEq, Repr

/-- The collections of each report. The source encodes the direction as a byte,
    0 for input, 1 for output and 2 for feature. -/
abbrev ReportCollectionMap := HashMap (UInt8 × ReportType) (List ReportAssociation)

def associationOf (c : HidCollection) : ReportAssociation :=
  ⟨c.usages.head?.map (·.usagePage),c.usages.head?.map (·.usageId),c.collectionType == 1⟩

def pushNew (entry : List ReportAssociation) (assoc : ReportAssociation) : List ReportAssociation :=
  if assoc ∈ entry then entry else entry ++ [assoc]

/-- A data field adds its whole chain to the entry of its report, which exists
    from then on; a constant field is skipped. -/
def addFieldChain (key : UInt8 × ReportType) (map : ReportCollectionMap) (field : HidField) : ReportCollectionMap :=
  if field.isData then
    map.insert key ((field.collections.map associationOf).foldl pushNew ((map.lookup key).getD []))
  else map

def addReportChains (rt : ReportType) (map : ReportCollectionMap) (report : HidReport) : ReportCollectionMap :=
  report.fields.foldl (addFieldChain (report.rid,rt)) map

def mapFromParsedDescriptor (rdesc : ReportDescriptor) : ReportCollectionMap :=
  let inputs := rdesc.inputReports.foldl (addReportChains .input) ∅
  let outputs := rdesc.outputReports.foldl (addReportChains .output) inputs
  rdesc.featureReports.foldl (addReportChains .feature) outputs

/-- Append a chain to the entry of each listed report. -/
def extendEntries (rt : ReportType) (chain : List ReportAssociation) (map : ReportCollectionMap)
    (reports : List Report) : ReportCollectionMap :=
  reports.foldl (fun m r => m.insert (r.reportId,rt) ((m.lookup (r.reportId,rt)).getD [] ++ chain)) map

mutual
/-- The walk over one node, with the associations of its ancestors. -/
def walk (ancestors : List ReportAssociation) (map : ReportCollectionMap) : Collection → ReportCollectionMap
  | ⟨collectionType,usagePage,usage,children,inputs,outputs,features⟩ =>
    let chain := ancestors ++ [⟨usagePage,usage,collectionType == 1⟩]
    let listed := extendEntries .feature chain
      (extendEntries .output chain (extendEntries .input chain map inputs) outputs) features
    walkAll chain listed children
def walkAll (ancestors : List ReportAssociation) (map : ReportCollectionMap) : List Collection → ReportCollectionMap
  | [] => map
  | c :: rest => walkAll ancestors (walk ancestors map c) rest
end

def mapFromCollectionTree (info : DeviceInfo) : ReportCollectionMap := walkAll [] ∅ info.collections

/-- The complete descriptor decides when it parses, the tree otherwise. -/
def buildReportCollectionMap (lib : Externals) (info : DeviceInfo) : ReportCollectionMap :=
  if info.rawDescriptor = [] then mapFromCollectionTree info
  else
    match lib.tryFrom info.rawDescriptor with
    | some rdesc => mapFromParsedDescriptor rdesc
    | none => mapFromCollectionTree info

/-! ### The verdicts -/

/-- A collection protects a report by a rule, or as an always-protected
    application collection. -/
def ReportAssociation.protects (vendorId productId : UInt16) (reportId : UInt8) (rt : ReportType)
    (a : ReportAssociation) : Bool :=
  isReportBlocked blocklistRules vendorId productId a.usagePage a.usage reportId rt ||
    (a.isApplication && isAlwaysProtected a.usagePage a.usage rt)

def associationsAnyProtected (vendorId productId : UInt16) (associations : List ReportAssociation)
    (reportId : UInt8) (rt : ReportType) : Bool :=
  !associations.isEmpty && associations.any (ReportAssociation.protects vendorId productId reportId rt)

def hasAlwaysProtectedCollection (info : DeviceInfo) (rt : ReportType) : Bool :=
  info.collections.any fun c => isAlwaysProtected c.usagePage c.usage rt

def interfaceProtected (info : DeviceInfo) (rt : ReportType) : Bool :=
  if info.collections.isEmpty then
    isReportBlocked blocklistRules info.vendorId info.productId info.usagePage info.usage 0 rt ||
      isAlwaysProtected info.usagePage info.usage rt
  else false

/-- Pruning keeps a report that is not protected, and one without an entry. -/
def reportKept (map : ReportCollectionMap) (vendorId productId : UInt16) (rt : ReportType) (r : Report) : Bool :=
  !((map.lookup (r.reportId,rt)).map fun associations =>
    associationsAnyProtected vendorId productId associations r.reportId rt).getD false

def pruneReports (map : ReportCollectionMap) (vendorId productId : UInt16) (rt : ReportType)
    (reports : List Report) : List Report :=
  reports.filter (reportKept map vendorId productId rt)

mutual
/-- A node that is left without reports and without children disappears. -/
def pruneCollection (map : ReportCollectionMap) (vendorId productId : UInt16) : Collection → Option Collection
  | ⟨collectionType,usagePage,usage,children,inputs,outputs,features⟩ =>
    let children := pruneCollections map vendorId productId children
    let inputReports := pruneReports map vendorId productId .input inputs
    let outputReports := pruneReports map vendorId productId .output outputs
    let featureReports := pruneReports map vendorId productId .feature features
    if inputReports.isEmpty && outputReports.isEmpty && featureReports.isEmpty && children.isEmpty then none
    else some ⟨collectionType,usagePage,usage,children,inputReports,outputReports,featureReports⟩
def pruneCollections (map : ReportCollectionMap) (vendorId productId : UInt16) : List Collection → List Collection
  | [] => []
  | c :: rest =>
    (pruneCollection map vendorId productId c).toList ++ pruneCollections map vendorId productId rest
end

/-- The description that pages see, if any: a device without collections and one
    that loses all of them are hidden. -/
def pruneDeviceInfo (lib : Externals) (info : DeviceInfo) : Option DeviceInfo :=
  if info.collections.isEmpty then none
  else
    let map := buildReportCollectionMap lib info
    match pruneCollections map info.vendorId info.productId info.collections with
    | [] => none
    | collections => some { info with collections := collections }

def reportWriteValid (numberedReports : Bool) (maxSize : Nat) (reportId : UInt8) (payloadLen : Option Nat) : Bool :=
  if numberedReports ≠ (reportId != 0) then false
  else if maxSize = 0 then false
  else
    match payloadLen with
    | some len => len ≤ maxSize
    | none => true

/-- The blocking state of one open device, computed once at open. -/
structure DeviceReportBlocking where
  map : ReportCollectionMap
  alwaysProtected : ReportType → Bool
  interfaceProtected : ReportType → Bool
  numberedReports : Bool
  maxOutputReportSize : Nat
  maxFeatureReportSize : Nat

namespace DeviceReportBlocking

def new (lib : Externals) (info : DeviceInfo) (numberedReports : Bool) : DeviceReportBlocking where
  map := buildReportCollectionMap lib info
  alwaysProtected := hasAlwaysProtectedCollection info
  interfaceProtected := ReportBlocking.interfaceProtected info
  numberedReports := numberedReports
  maxOutputReportSize := Descriptor.maxOutputReportSize info.collections
  maxFeatureReportSize := Descriptor.maxFeatureReportSize info.collections

/-- `compute_blocked_input_ids` over the entries of the map. -/
def blockedInputIds (b : DeviceReportBlocking) (vendorId productId : UInt16) : List UInt8 :=
  (b.map.entries.filter fun entry => entry.1.2 == .input &&
    associationsAnyProtected vendorId productId entry.2 entry.1.1 .input).map fun entry => entry.1.1

def declaredInputIds (b : DeviceReportBlocking) : List UInt8 :=
  (b.map.keys.filter fun key => key.2 == .input).map Prod.fst

/-- A report without an entry falls back to the always-protected collections. -/
def isReportProtected (b : DeviceReportBlocking) (vendorId productId : UInt16) (reportId : UInt8)
    (rt : ReportType) : Bool :=
  match b.map.lookup (reportId,rt) with
  | some associations => associationsAnyProtected vendorId productId associations reportId rt
  | none => b.alwaysProtected rt || b.interfaceProtected rt

/-- The pre-checks of a send, or of a feature read when there is no payload. -/
def validateReportSend (b : DeviceReportBlocking) (reportId : UInt8) (rt : ReportType) (payloadLen : Option Nat) :
    Bool :=
  match rt with
  | .output => reportWriteValid b.numberedReports b.maxOutputReportSize reportId payloadLen
  | .feature => reportWriteValid b.numberedReports b.maxFeatureReportSize reportId payloadLen
  | .input => false

end DeviceReportBlocking

/-- What the reader thread of a device knows about protection. -/
structure InputFilter where
  blockedInputIds : List UInt8
  declaredInputIds : List UInt8
  alwaysProtectedInput : Bool
  interfaceProtectedInput : Bool

def inputFilter (b : DeviceReportBlocking) (vendorId productId : UInt16) : InputFilter where
  blockedInputIds := b.blockedInputIds vendorId productId
  declaredInputIds := b.declaredInputIds
  alwaysProtectedInput := b.alwaysProtected .input
  interfaceProtectedInput := b.interfaceProtected .input

/-- The condition under which the reader drops an input report. -/
def InputFilter.drops (f : InputFilter) (reportId : UInt8) : Bool :=
  f.blockedInputIds.contains reportId || f.interfaceProtectedInput ||
    (!f.declaredInputIds.contains reportId && f.alwaysProtectedInput)

end FFWebHid.ReportBlocking
