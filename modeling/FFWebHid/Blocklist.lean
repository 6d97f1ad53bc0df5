import FFWebHid.Types

/-!
The blocklist rules and the always-protected usages, which decide for one
collection whether a report in it may reach a page.
-/
namespace FFWebHid.Blocklist
open FFWebHid.Types

/-- A rule; an absent field matches everything. -/
structure BlocklistRule where
  vendor : Option UInt16
  product : Option UInt16
  usagePage : Option UInt16
  usage : Option UInt16
  reportId : Option UInt8
  reportType : Option ReportType
  deriving DecidableEq, Repr

/-- One line of the rule table, in the column order of the source. -/
def rule (vendor product usagePage usage : Option UInt16) (reportId : Option UInt8) (reportType : Option ReportType) :
    BlocklistRule :=
  ⟨vendor,product,usagePage,usage,reportId,reportType⟩

def blocklistRules : List BlocklistRule :=
  [rule none none (some 0xF1D0) none none none,
   rule none none (some 0x0001) (some 0x0002) none none,
   rule none none (some 0x0001) (some 0x0006) none none,
   rule none none (some 0x0001) (some 0x0007) none none,
   rule none none (some 0x0001) (some 0x0080) none none,
   rule (some 0x0b0e) none (some 0xff00) none (some 0x05) (some .output),
   rule (some 0x1d50) (some 0x60fc) none none none none]

/-- The layer above the rules: usage page 7, and pointer, mouse, keyboard,
    keypad (not for feature reports), system control and system dock usages. -/
def isAlwaysProtected (usagePage usage : Option UInt16) (reportType : ReportType) : Bool :=
  match usagePage with
  | none => false
  | some up =>
    if up = 0x0007 then true
    else if up ≠ 0x0001 then false
    else
      match usage with
      | none => false
      | some u =>
        if u = 0x0001 ∨ u = 0x0002 ∨ u = 0x0006 ∨ u = 0x0007 then reportType != .feature
        else if 0x0080 ≤ u ∧ u ≤ 0x008f then true
        else if 0x00a0 ≤ u ∧ u ≤ 0x00b6 then true
        else false

/-- A field of a rule lets a value pass when it is absent or equal to it. -/
private def passes {α : Type} [DecidableEq α] (wanted : Option α) (value : Option α) : Bool :=
  wanted.isNone || wanted == value

/-- Some rule matches the report in a collection with the given usage. -/
def isReportBlocked (rules : List BlocklistRule) (vendorId productId : UInt16)
    (collectionUsagePage collectionUsage : Option UInt16) (reportId : UInt8) (reportType : ReportType) : Bool :=
  rules.any fun r =>
    passes r.vendor (some vendorId) && passes r.product (some productId) &&
    passes r.usagePage collectionUsagePage && passes r.usage collectionUsage &&
    passes r.reportId (some reportId) && passes r.reportType (some reportType)

/-- A rule that names a vendor, perhaps a product and nothing else blocks the
    whole device. -/
def deviceIsBlocked (rules : List BlocklistRule) (vendorId productId : UInt16) : Bool :=
  rules.any fun r =>
    r.reportId.isNone && r.reportType.isNone && r.usagePage.isNone && r.usage.isNone &&
    r.vendor == some vendorId && passes r.product (some productId)

/-- A keyboard collection blocks every report in it; its feature reports are
    left to the rules. -/
example : isReportBlocked blocklistRules 0x1234 0x5678 (some 1) (some 6) 3 .feature = true ∧
    isAlwaysProtected (some 1) (some 6) .feature = false := by decide

end FFWebHid.Blocklist
