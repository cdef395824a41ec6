import NetworkCopy.TransferPlanCoverage
import NetworkCopy.PlanAccounting
import NetworkCopy.Cdc.EndToEnd
import NetworkCopy.Lane.Agreement
import NetworkCopy.Lane.CdcAgreement
import NetworkCopy.CatalogBasis
import NetworkCopy.GenerationExecution
import NetworkCopy.ManifestWire
import NetworkCopy.PathSeparation
import NetworkCopy.Receiver.ResumePrefix
import NetworkCopy.Receiver.Debris
import NetworkCopy.Management.QueueInvariant
import NetworkCopy.Management.JobResults
import NetworkCopy.PathCollision
import NetworkCopy.Receiver.JournalCodec
import NetworkCopy.Management.PersistenceFormats
import NetworkCopy.Management.PersistenceLegacy
import NetworkCopy.Management.Reconnect
import NetworkCopy.Management.Reportable
import NetworkCopy.Management.WireCodecs
import NetworkCopy.Management.ControlServer
import NetworkCopy.Management.RemoteCalls
import NetworkCopy.Update.Delivery
import NetworkCopy.Cdc.Segmentation
import NetworkCopy.Cdc.WireForms
import NetworkCopy.Cdc.Reservations
import NetworkCopy.Cdc.EditLocality
import NetworkCopy.Lib.DuplexStream
import NetworkCopy.Lane.PayloadStream
import NetworkCopy.Receiver.Reconstruction
import NetworkCopy.Update.Restart
import NetworkCopy.Scan.MergedManifest
import NetworkCopy.Reuse.Correctness
import NetworkCopy.Pool.Correctness
import NetworkCopy.PlanOrder
import NetworkCopy.ManifestFingerprint
import NetworkCopy.PathAcceptance
import NetworkCopy.ReceivedManifest
import NetworkCopy.Lane.BasisIndexCache
import NetworkCopy.Session.ControlRoundTrip
import NetworkCopy.Session.AcceptSession
import NetworkCopy.Session.UpdateSelection
import NetworkCopy.Session.TransferSession
import NetworkCopy.GenerationLookup
import NetworkCopy.DesktopLayoutFormat
import NetworkCopy.Management.DirectoryListing
import NetworkCopy.Update.HandoffFile
import NetworkCopy.DesktopPlacement
import NetworkCopy.Lib.Grouping
import NetworkCopy.Management.Discovery
import NetworkCopy.Lib.Rescale
import NetworkCopy.GuiSession
import NetworkCopy.GuiSessionStore
import NetworkCopy.Update.Staging
import NetworkCopy.Update.Rollback
import NetworkCopy.Management.ResumeInformation
import NetworkCopy.IocpCopyRuns
import NetworkCopy.CompressionProbe
import NetworkCopy.Receiver.Offers
