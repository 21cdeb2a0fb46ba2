import SectorSync.Base.Machine
import SectorSync.Base.FiniteMap
import SectorSync.Base.Run
import SectorSync.Base.Bytes
import SectorSync.Base.Codec
import SectorSync.Base.Heap
import SectorSync.Base.Tally
import SectorSync.Base.Window
import SectorSync.Base.Pump
import SectorSync.Base.Custody
import SectorSync.Base.Buckets
import SectorSync.Base.Slots
import SectorSync.Core.Authority
import SectorSync.Core.SpatialIndex
import SectorSync.Core.StaleHandles
import SectorSync.Core.EpochReservation
import SectorSync.Core.AreaOfInterest
import SectorSync.Core.GatewayRun
import SectorSync.Core.GatewayExpiry
import SectorSync.Core.GatewayAdmission
import SectorSync.Core.AdmissionLedger
import SectorSync.Core.GatewayTokens
import SectorSync.Core.CommandOrder
import SectorSync.Core.EventRun
import SectorSync.Core.ReplicationBatch
import SectorSync.Core.ReplicationTracker
import SectorSync.Core.PlanSoundness
import SectorSync.Runtime.Migration
import SectorSync.Runtime.SingleOwner
import SectorSync.Facade.RuntimeCoherence
import SectorSync.Transport.KeyRing
import SectorSync.Transport.ReliableSender
import SectorSync.Transport.SenderBooks
import SectorSync.Transport.ReliableDelivery
import SectorSync.Transport.StationTargets
import SectorSync.Wire.RoundTrip
import SectorSync.Runtime.EventRouter
import SectorSync.Runtime.CommandPipeline
import SectorSync.Runtime.TransportBridge
import SectorSync.Base.Views
import SectorSync.Core.Hotspot
import SectorSync.Core.Snapshot
import SectorSync.Runtime.SplitCap
import SectorSync.Runtime.SplitExecution
import SectorSync.Runtime.BarrierRun
import SectorSync.Runtime.BarrierUpgrade
import SectorSync.Transport.PacketReplay
import SectorSync.Transport.HubRun
import SectorSync.Wire.Borrowed
import SectorSync.Wire.DirectEncoding
import SectorSync.Base.Lanes
import SectorSync.Base.Dispatch
import SectorSync.Base.Cooldown
import SectorSync.Core.StaleEpochs
import SectorSync.Runtime.BarrierExit
import SectorSync.Runtime.DeploymentEpochs
import SectorSync.Runtime.IndexedLookup
import SectorSync.Runtime.ReceivePumps
import SectorSync.Facade.ReplicationPrefix
import SectorSync.Facade.SplitExecutor
import SectorSync.Base.Aggregate
import SectorSync.Core.Counters
import SectorSync.Core.BatchStats
import SectorSync.Core.RangeAgreement
import SectorSync.Core.HandleCopies
import SectorSync.Core.SnapshotRoundTrip
import SectorSync.Runtime.Prioritization
import SectorSync.Runtime.SplitPlan
import SectorSync.Core.ComponentRun
import SectorSync.Base.Requests
import SectorSync.Wire.DecodeRequests
import SectorSync.Base.BoundedLoop
import SectorSync.Base.VisitingPump
import SectorSync.Runtime.GatewayIngress
import SectorSync.Runtime.VisitorPumps
import SectorSync.Runtime.MovedCells
import SectorSync.Base.Sweep
import SectorSync.Core.EventDrain
import SectorSync.Transport.BoundedWindows
import SectorSync.Transport.EnvelopeCodecs
import SectorSync.Core.QueryDedup
import SectorSync.Core.ComponentSchema
import SectorSync.Core.IndexReports
import SectorSync.Runtime.LoadSamples
import SectorSync.Base.Rollback
import SectorSync.Wire.EncodeErrors
import SectorSync.Base.InOrder
import SectorSync.Transport.StationTransport
import SectorSync.Runtime.RouterOrder
import SectorSync.Base.Tagged
import SectorSync.Runtime.StationNetwork
import SectorSync.Runtime.NetworkRun
import SectorSync.Runtime.GatewayDispatch
import SectorSync.Runtime.CommandSystem
import SectorSync.Base.Sharding
import SectorSync.Facade.StationWorld
import SectorSync.Base.Cadence
import SectorSync.Facade.TrackedReplication
import SectorSync.Facade.ReplicationStream
import SectorSync.Runtime.HubEndpoints
import SectorSync.Runtime.ClientCommands
import SectorSync.Runtime.CommandExchange
import SectorSync.Runtime.CommandAnswers
import SectorSync.Base.FairRounds
import SectorSync.Facade.StationExecutor
import SectorSync.Facade.GridIndependence
