import HyperfluxNext.UhidRelay.ManagedRoute
import HyperfluxNext.UhidRelay.FeatureDescriptor
import HyperfluxNext.Daemon.ModelName
import HyperfluxNext.Bridge.ReturnRefreshes
import HyperfluxNext.Restoration.Orphans
import HyperfluxNext.Restoration.AtMostOnce
import HyperfluxNext.Core.LeaseFailures
import HyperfluxNext.Protocol.BestVersion
import HyperfluxNext.Core.CoordinatorEncoding
import HyperfluxNext.Restoration.Evidence
import HyperfluxNext.Daemon.ReturnWindow
import HyperfluxNext.Bridge.DispatchPreflight
import HyperfluxNext.Bridge.GenerationRuns
import HyperfluxNext.Core.EffectRetention
import HyperfluxNext.Core.QueueRuns
import HyperfluxNext.Bridge.StableReplay
import HyperfluxNext.Bridge.Certainty
import HyperfluxNext.Protocol.Framing
import HyperfluxNext.Driver.NativeAgreement
import HyperfluxNext.Driver.ObservationRuns
import HyperfluxNext.Bridge.SessionAuthority
import HyperfluxNext.KernelTransport.SubmissionRuns
import HyperfluxNext.UhidRelay.BurstLeaseRuns
import HyperfluxNext.Daemon.BatteryForwarding
import HyperfluxNext.Daemon.TriggerBudget
import HyperfluxNext.Daemon.RetentionRuns
import HyperfluxNext.Bridge.PresenceEvents
import HyperfluxNext.Daemon.TranslatorRuns
import HyperfluxNext.Daemon.ChargeAgreement
import HyperfluxNext.OpenRgb.WorkerAdmission
import HyperfluxNext.Qualification.DeviceReturn
import HyperfluxNext.Qualification.Verdicts
import HyperfluxNext.Daemon.ScheduleAtomicity
import HyperfluxNext.Restoration.Compaction
import HyperfluxNext.SystemProbe.EventFilePattern
