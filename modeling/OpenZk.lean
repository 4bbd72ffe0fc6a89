import OpenZk.TxMachine
import OpenZk.EventLog
import OpenZk.SystemLog
import OpenZk.DisputeProvenance
import OpenZk.DisputeVerdicts
import OpenZk.ClientSoundness
import OpenZk.ProvenLineage
import OpenZk.Serve
import OpenZk.WriteOnce
import OpenZk.OracleRuns
import OpenZk.OracleProposals
import OpenZk.Aggregation
import OpenZk.Composition
import OpenZk.DataSource
import OpenZk.DataWithholding
import OpenZk.DisputeGame
import OpenZk.DisputeLifecycle
import OpenZk.DisputeSoundness
import OpenZk.OracleCustody
import OpenZk.OraclePointer
import OpenZk.RangeBinding
import OpenZk.AggregationAnchor
import OpenZk.BootAgreement
import OpenZk.DisputeDeadline
import OpenZk.Engine
import OpenZk.EngineDispatch
import OpenZk.EngineSnapshots
import OpenZk.JournalAgreement
import OpenZk.ConfigRuns
import OpenZk.OracleOrder
import OpenZk.PlannedBlocks
import OpenZk.RpcMonitor
import OpenZk.SentinelCoverage
import OpenZk.AggregationTelescope
import OpenZk.BackendAllowlist
import OpenZk.DataDelivery
import OpenZk.Framing
import OpenZk.PlanOverflow
import OpenZk.PlanPartition
import OpenZk.PlannedAnchor
import OpenZk.ProverVerify
import OpenZk.WitnessAdapter
import OpenZk.BlockNumberCast
import OpenZk.EstimateTotals
import OpenZk.OutputRootFallback
import OpenZk.SerializedWitness
import OpenZk.SuccinctPricing
import OpenZk.WitnessTruncation
import OpenZk.Positions
import OpenZk.EngineRedispatch
import OpenZk.LiveEngine
import OpenZk.SentinelSightings
import OpenZk.SentinelProgress
import OpenZk.BeaconSightings
import OpenZk.BeaconProgress
import OpenZk.LiveProtocol
import OpenZk.ProveCommand
import OpenZk.FastTrack
import OpenZk.StatusCommand
