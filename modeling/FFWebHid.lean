import FFWebHid.Maps
import FFWebHid.Runs
import FFWebHid.Capabilities
import FFWebHid.Types
import FFWebHid.Blocklist
import FFWebHid.Descriptor
import FFWebHid.ReportBlocking
import FFWebHid.ReportProtection
import FFWebHid.Registry
import FFWebHid.Lifecycle
import FFWebHid.Coherence
import FFWebHid.Sections
import FFWebHid.Threads
import FFWebHid.Safety
import FFWebHid.Lifetimes
import FFWebHid.IoAuthority
import FFWebHid.Isolation
import FFWebHid.Operations
import FFWebHid.Reservations
import FFWebHid.OpenProtocol
import FFWebHid.Mailboxes
import FFWebHid.IoEvents
import FFWebHid.IoWorkers
import FFWebHid.WorkerRuns
import FFWebHid.Transports
import FFWebHid.Lineages
import FFWebHid.Policies
import FFWebHid.PolicyTrees
import FFWebHid.Pickers
import FFWebHid.LittleEndian
import FFWebHid.StateOps
import FFWebHid.Background
import FFWebHid.Bookkeeping
import FFWebHid.LiveSessions
import FFWebHid.TabCounts
import FFWebHid.Effects
import FFWebHid.OpenCleanup
import FFWebHid.Revocations
import FFWebHid.AuthorityLifetimes
import FFWebHid.WireFormats
import FFWebHid.NativeMessages
import FFWebHid.RequestFormats
import FFWebHid.Correlation
import FFWebHid.TransportFrames
import FFWebHid.SendParity
import FFWebHid.ReportResults
import FFWebHid.PageMessages
import FFWebHid.ReportAuthority
import FFWebHid.Attribution
import FFWebHid.Connections
import FFWebHid.InputSender
import FFWebHid.Handover
import FFWebHid.Planes
import FFWebHid.PlaneSwitches
import FFWebHid.ControlPort
import FFWebHid.PageDevices
import FFWebHid.PagePlanes
import FFWebHid.PlaneGenerations
import FFWebHid.BridgeSessions
import FFWebHid.SessionAgreement
import FFWebHid.AgreementRuns
import FFWebHid.InputFanout
import FFWebHid.PageSessions
import FFWebHid.BootstrapGate
import FFWebHid.HidDevices
import FFWebHid.DeviceIds
import FFWebHid.FilteredEnumeration
import FFWebHid.ClientDisconnects
import FFWebHid.Hotplug
import FFWebHid.NonNmCount
import FFWebHid.RetiredFrames
import FFWebHid.Forwarders
import FFWebHid.CollectionTrees
import FFWebHid.ReportSizes
import FFWebHid.CollectionsTlv
import FFWebHid.TlvRoundTrip
import FFWebHid.DescriptorTlv
import FFWebHid.OpenFailures
import FFWebHid.ReportDecoders
import FFWebHid.FieldAggregation
import FFWebHid.ChainForests
import FFWebHid.LosslessTrees
import FFWebHid.BlockingMaps
import FFWebHid.NumberedReports
import FFWebHid.CspText
import FFWebHid.InlineScripts
import FFWebHid.CspRewrites
import FFWebHid.DirectivePrologues
import FFWebHid.WorkerInjection
import FFWebHid.MetaTags
import FFWebHid.MetaCsp
import FFWebHid.Framing
import FFWebHid.StreamFraming
import FFWebHid.WorkerReplies
import FFWebHid.StaleNotices
import FFWebHid.ReadyWaits
import FFWebHid.RuntimePortRuns
import FFWebHid.ClassicBpf
import FFWebHid.SeccompFilter
import FFWebHid.NmConnection
import FFWebHid.ReadAhead
import FFWebHid.RequestLoops
import FFWebHid.WriteLogs
import FFWebHid.SettingsKeys
import FFWebHid.StorageMigration
import FFWebHid.MigratedSettings
import FFWebHid.Base64Helpers
import FFWebHid.PlaneHandshake
import FFWebHid.HotplugRefreshes
import FFWebHid.WtGenerations
import FFWebHid.GrantCaches
import FFWebHid.ShadowSpawns
import FFWebHid.Retries
import FFWebHid.DaemonSocket
