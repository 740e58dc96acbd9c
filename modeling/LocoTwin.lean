import LocoTwin.Lib.Dict
import LocoTwin.Lib.Transition
import LocoTwin.Lib.Rounding
import LocoTwin.Lib.FloatArith
import LocoTwin.Lib.Binary64
import LocoTwin.Shared.Constants
import LocoTwin.Processor.IngestionService
import LocoTwin.Processor.AlertEvaluator
import LocoTwin.Lib.Ranking
import LocoTwin.Processor.HealthService
import LocoTwin.Processor.AlertMirror
import LocoTwin.Processor.Monotone
import LocoTwin.Processor.AessHealth
import LocoTwin.Processor.AessAlerts
import LocoTwin.Processor.RouterIngest
import LocoTwin.Processor.BatchEquiv
import LocoTwin.Processor.Isolation
import LocoTwin.Processor.IngestAck
import LocoTwin.HealthAgreement
import LocoTwin.DbWriter.Rows
import LocoTwin.DbWriter.StreamConsumer
import LocoTwin.DbWriter.Durability
import LocoTwin.WsServer.ConnectionManager
import LocoTwin.WsServer.Registry
import LocoTwin.Report.ReportWorker
import LocoTwin.Report.Settlement
import LocoTwin.Report.Polling
import LocoTwin.Lib.Deque
import LocoTwin.Shared.RouteGeometry
import LocoTwin.Simulator.LocomotiveState
import LocoTwin.Simulator.Runner
import LocoTwin.Simulator.Position
import LocoTwin.Simulator.OneShot
import LocoTwin.Simulator.Delivery
import LocoTwin.WsServer.Bookkeeping
import LocoTwin.WsServer.Heartbeat
import LocoTwin.WsServer.FanOut
import LocoTwin.WsServer.RelayFeed
import LocoTwin.WsServer.FilterIsolation
import LocoTwin.Lib.Changes
import LocoTwin.Analytics.Aggregator
import LocoTwin.Analytics.FleetChanges
import LocoTwin.Analytics.GapMarkers
import LocoTwin.Analytics.FleetSummary
import LocoTwin.Dashboard.WebSocketManager
import LocoTwin.Dashboard.Disposal
import LocoTwin.Dashboard.Reconnect
import LocoTwin.Dashboard.SharedManagers
import LocoTwin.Processor.StreamRows
import LocoTwin.DbWriter.RowFidelity
import LocoTwin.Lib.Between
import LocoTwin.Lib.Buckets
import LocoTwin.Analytics.TelemetryRepository
import LocoTwin.Analytics.Downsampling
import LocoTwin.Processor.CriticalThreshold
import LocoTwin.Processor.HealthLoss
import LocoTwin.Processor.HealthFloats
import LocoTwin.HealthBands
import LocoTwin.Processor.Dedup
import LocoTwin.Processor.AgingDamage
import LocoTwin.Processor.FailedReading
import LocoTwin.Lib.Fairness
import LocoTwin.Lib.ListSet
import LocoTwin.DbWriter.Healthy
import LocoTwin.DbWriter.PoisonIsolation
import LocoTwin.DbWriter.DrainMeasure
import LocoTwin.DbWriter.Drain
import LocoTwin.DbWriter.EnqueueOnce
import LocoTwin.Simulator.EmergencyStop
import LocoTwin.Simulator.UpdateFrame
import LocoTwin.Simulator.Dwell
import LocoTwin.Simulator.Removal
import LocoTwin.Lib.PathSums
import LocoTwin.Shared.PolylineLookup
import LocoTwin.Lib.Dispersion
import LocoTwin.Report.AnomalyDetector
import LocoTwin.Lib.Smoothing
import LocoTwin.Processor.EmaClosedForm
import LocoTwin.Processor.HealthExplanation
import LocoTwin.Analytics.GrpcHop
import LocoTwin.Lib.FirstMatch
import LocoTwin.Shared.Stations
import LocoTwin.Simulator.StationLookup
import LocoTwin.Lib.Walks
import LocoTwin.Lib.MultiGraph
import LocoTwin.Tools.ImportOsmRailways
import LocoTwin.Tools.RailConnectivity
import LocoTwin.Tools.StitchedPath
import LocoTwin.StoredRows
import LocoTwin.Lib.Expiring
import LocoTwin.Shared.WsTicket
import LocoTwin.ApiGateway.Auth
import LocoTwin.TicketFlow
import LocoTwin.Analytics.HealthCache
import LocoTwin.AlertLog
import LocoTwin.Lib.Feed
import LocoTwin.Dashboard.FleetSlice
import LocoTwin.FleetMirror
import LocoTwin.Dashboard.LiveSlices
import LocoTwin.LivePage
import LocoTwin.Lib.GroupBy
import LocoTwin.Analytics.BucketQuery
import LocoTwin.Report.FleetReport
import LocoTwin.Lib.Csv
import LocoTwin.Report.Download
import LocoTwin.Drills
