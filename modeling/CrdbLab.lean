import CrdbLab.Lib.Rounding
import CrdbLab.Lib.Consecutive
import CrdbLab.Lib.OrderStat
import CrdbLab.Lib.Runs
import CrdbLab.Lib.Recent
import CrdbLab.Lib.Stretches
import CrdbLab.Optional
import CrdbLab.RtoProbe
import CrdbLab.MeasureRto
import CrdbLab.ProbeVerdict
import CrdbLab.ReportedOutage
import CrdbLab.ProbeFloor
import CrdbLab.AuditWriter
import CrdbLab.ReportedLoss
import CrdbLab.AvailabilityRto
import CrdbLab.Loader
import CrdbLab.Availability
import CrdbLab.AuditFloor
import CrdbLab.FindRecovery
import CrdbLab.Clocks
import CrdbLab.SteadyState
import CrdbLab.Performance
import CrdbLab.RecoveryRange
import CrdbLab.ProbeDispatch
import CrdbLab.FaultRecord
import CrdbLab.Lib.Extended
import CrdbLab.Lib.Numeral
import CrdbLab.Lib.Polyline
import CrdbLab.MatchedThroughput
import CrdbLab.Workload
import CrdbLab.WorkloadErrors
import CrdbLab.NumericToken
import CrdbLab.HeaderBinding
import CrdbLab.Lib.Effects
import CrdbLab.Lib.Blocks
import CrdbLab.AgentReader
import CrdbLab.PatroniPlacement
import CrdbLab.AgentAttempts
import CrdbLab.ProbeRows
import CrdbLab.Pipeline
import CrdbLab.LeftVms
import CrdbLab.Ticks
import CrdbLab.TickGroups
import CrdbLab.RecordedTicks
import CrdbLab.ThroughputAgreement
import CrdbLab.ChaosRun
import CrdbLab.LivePerformance
import CrdbLab.P1Network
import CrdbLab.TailAttribution
import CrdbLab.OutageStart
import CrdbLab.OutageWindows
import CrdbLab.Interpolation
import CrdbLab.UtilisationGap
import CrdbLab.Lib.FirstKept
import CrdbLab.MatchedUtilisation
import CrdbLab.RowMatch
import CrdbLab.StatisticsFlush
import CrdbLab.RtoInvariance
import CrdbLab.ProbeCadence
import CrdbLab.Lib.Groups
import CrdbLab.Validation
import CrdbLab.AcceptedQuantiles
import CrdbLab.OpCoverage
import CrdbLab.DoubledIntervals
import CrdbLab.ManifestNotes
import CrdbLab.Comparability
import CrdbLab.ComparabilitySymmetry
import CrdbLab.HardwareOverride
import CrdbLab.ServerFlags
import CrdbLab.ComparabilityArithmetic
import CrdbLab.HardwareNotes
import CrdbLab.Lib.Dictionary
import CrdbLab.Testbed
import CrdbLab.Preflight
import CrdbLab.LeaseholderPlacement
import CrdbLab.NetworkProbe
import CrdbLab.QuorumFloor
import CrdbLab.QuorumGeometry
import CrdbLab.NetworkSummary
import CrdbLab.HardwareSampler
import CrdbLab.AuditPartition
import CrdbLab.LittlesLaw
import CrdbLab.RecoveryStability
import CrdbLab.Lib.Loops
import CrdbLab.LogView
import CrdbLab.ClockOffsets
import CrdbLab.Lib.Lines
import CrdbLab.ParsePing
import CrdbLab.ProbeSections
import CrdbLab.ProbeLog
import CrdbLab.ProbeSummary
import CrdbLab.AgentRun
import CrdbLab.AgentDelivery
import CrdbLab.Lib.Csv
import CrdbLab.Recorder
import CrdbLab.Lib.ShellWords
import CrdbLab.Lib.Percent
import CrdbLab.Lib.Connection
import CrdbLab.ConnectionStrings
import CrdbLab.RemoteCommands
import CrdbLab.Lib.Trimmed
import CrdbLab.ConsoleLog
import CrdbLab.Lib.Chunks
import CrdbLab.CommandOutput
import CrdbLab.TierAggregation
import CrdbLab.TierCurves
import CrdbLab.QuestionKeys
import CrdbLab.SweepRun
import CrdbLab.SweepAgreement
