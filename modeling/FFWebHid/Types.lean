import Mathlib.Data.List.Basic

/-!
The data that the daemon passes around: device descriptions with their
collection trees, and the events of its broadcast channel. Identifiers keep the
widths of the source; sizes and counts are natural numbers, with the wrapping
or saturating operations of the source written out where they are used.
-/
namespace FFWebHid.Types

abbrev DeviceId := UInt32
/-- Report data and descriptors are byte strings. -/
abbrev Bytes := List UInt8

/-- `blocklist::ReportType`. -/
inductive ReportType where
  | input
  | output
  | feature
  deriving DecidableEq, Repr

/-- One report item, `webhid::types::Field`. A packed usage holds the page in its
    upper 16 bits. -/
structure Field where
  usages : Option (List Nat) := none
  usageMinimum : Option Nat := none
  usageMaximum : Option Nat := none
  reportSize : Nat := 0
  reportCount : Nat := 0
  logicalMinimum : Int := 0
  logicalMaximum : Int := 0
  physicalMinimum : Int := 0
  physicalMaximum : Int := 0
  unitExponent : Int := 0
  unitSystem : String := ""
  unitFactorLengthExponent : Int := 0
  unitFactorMassExponent : Int := 0
  unitFactorTimeExponent : Int := 0
  unitFactorTemperatureExponent : Int := 0
  unitFactorCurrentExponent : Int := 0
  unitFactorLuminousIntensityExponent : Int := 0
  isAbsolute : Bool := false
  isArray : Bool := false
  isRange : Bool := false
  isConstant : Bool := false
  isLinear : Bool := false
  isVolatile : Bool := false
  isBufferedBytes : Bool := false
  hasNull : Bool := false
  hasPreferredState : Bool := false
  wrap : Bool := false
  strings : List String := []
  deriving DecidableEq, Repr

/-- `webhid::types::Report`. -/
structure Report where
  reportId : UInt8
  items : List Field
  deriving DecidableEq, Repr

/-- `webhid::types::Collection`: one node of the page-visible tree. -/
structure Collection where
  collectionType : UInt8
  usagePage : Option UInt16
  usage : Option UInt16
  children : List Collection
  inputReports : List Report
  outputReports : List Report
  featureReports : List Report

/-- The reports of one direction that a node lists itself. -/
def Collection.reports (c : Collection) : ReportType → List Report
  | .input => c.inputReports
  | .output => c.outputReports
  | .feature => c.featureReports

mutual
/-- The reports of one direction that a node and its descendants list. -/
def Collection.listed (rt : ReportType) : Collection → List Report
  | ⟨ct,up,u,children,i,o,f⟩ => Collection.reports ⟨ct,up,u,children,i,o,f⟩ rt ++ listedReports rt children
/-- The reports of one direction that a forest lists. -/
def listedReports (rt : ReportType) : List Collection → List Report
  | [] => []
  | c :: rest => c.listed rt ++ listedReports rt rest
end

theorem listedReports_append (rt : ReportType) (first second : List Collection) :
    listedReports rt (first ++ second) = listedReports rt first ++ listedReports rt second := by
  induction first with
  | nil => rfl
  | cons c rest ih => simp [listedReports,ih]

/-- `webhid::types::DeviceInfo`. -/
structure DeviceInfo where
  vendorId : UInt16
  productId : UInt16
  productName : String := ""
  manufacturer : Option String := none
  serialNumber : Option String := none
  usagePage : Option UInt16 := none
  usage : Option UInt16 := none
  deviceId : DeviceId
  collections : List Collection
  maxInputReportSize : Nat := 0
  descriptorParseFailed : Bool := false
  rawDescriptor : Bytes

/-- `webhid::types::IpcResponse`, the events of the broadcast channel. -/
inductive IpcResponse where
  | deviceConnected (device : DeviceInfo)
  | deviceDisconnected (device : DeviceInfo)
  | inputReport (deviceId : DeviceId) (reportId : UInt8) (data : Bytes)

end FFWebHid.Types
