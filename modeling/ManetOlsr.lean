import ManetOlsr.Lib.WhileLoop
import ManetOlsr.Lib.Ledger
import ManetOlsr.Lib.Wire
import ManetOlsr.Lib.WeightedMean
import ManetOlsr.Lib.FirstMatch
import ManetOlsr.Lib.LabelSetting
import ManetOlsr.Lib.Machine
import ManetOlsr.Lib.BestOffer
import ManetOlsr.Lib.Expiry
import ManetOlsr.Lib.SerialNumber
import ManetOlsr.Lib.OrderedSet
import ManetOlsr.Lib.Selection
import ManetOlsr.Lib.Writes
import ManetOlsr.Lib.Network
import ManetOlsr.Model.Repositories
import ManetOlsr.Model.Header
import ManetOlsr.Model.State
import ManetOlsr.Model.Node
import ManetOlsr.Model.Mpr
import ManetOlsr.Model.RoutingTable
import ManetOlsr.Model.Emission
import ManetOlsr.Model.Reception
import ManetOlsr.Model.Timers
import ManetOlsr.Model.Runs
import ManetOlsr.Model.Frames
import ManetOlsr.Model.MainAddresses
import ManetOlsr.Model.TablePasses
import ManetOlsr.Model.Fpnt
import ManetOlsr.Model.Gcop
import ManetOlsr.Model.Forwarding
import ManetOlsr.Model.FpntDefense
import ManetOlsr.Model.TrustRouting
import ManetOlsr.Model.Watchdog
import ManetOlsr.Model.Settled
import ManetOlsr.Model.WatchdogRuns
import ManetOlsr.Model.Wire
import ManetOlsr.Model.WatchdogFrames
import ManetOlsr.Model.Agenda
import ManetOlsr.Model.TimedTuples
import ManetOlsr.Model.Network
import ManetOlsr.Model.Scenario
import ManetOlsr.Model.PacketBatching
import ManetOlsr.Model.FpntTc
import ManetOlsr.Model.SpoofTargets
import ManetOlsr.Model.AttackerCount
import ManetOlsr.Model.ColdStart
import ManetOlsr.Model.DetectionMetrics
import ManetOlsr.Model.FeatureCollector
import ManetOlsr.Model.StagedPromotion
import ManetOlsr.Model.EvaluationRuns
import ManetOlsr.Properties.TopologySet
import ManetOlsr.Properties.MprCoverage
import ManetOlsr.Properties.NeighborKeys
import ManetOlsr.Properties.LinkLoss
import ManetOlsr.Properties.LinkNeighbors
import ManetOlsr.Properties.AdvertisedSet
import ManetOlsr.Properties.FpntTcCodec
import ManetOlsr.Properties.HnaRoutes
import ManetOlsr.Properties.RoutingPaths
import ManetOlsr.Properties.RouteCompleteness
import ManetOlsr.Properties.SuspectAvoidance
import ManetOlsr.Properties.BareNodes
import ManetOlsr.Properties.DisabledDefense
import ManetOlsr.Properties.VerdictFreshness
import ManetOlsr.Properties.SendEntries
import ManetOlsr.Properties.SuspectReroute
import ManetOlsr.Properties.Flooding
import ManetOlsr.Properties.ExpiryDiscipline
import ManetOlsr.Properties.TimerChains
import ManetOlsr.Properties.BaitSoundness
import ManetOlsr.Properties.TrustPaths
import ManetOlsr.Properties.TrustSendEntries
import ManetOlsr.Properties.PacketBatching
import ManetOlsr.Properties.StagedPromotion
import ManetOlsr.Properties.EvaluationMean
import ManetOlsr.Properties.PeriodicChain
import ManetOlsr.Properties.WatchdogLedger
import ManetOlsr.Properties.Observations
import ManetOlsr.Model.Editions
import ManetOlsr.Model.WatchdogEdition
import ManetOlsr.Model.FpntEdition
import ManetOlsr.Model.FpntFrames
import ManetOlsr.Model.FpntCalls
import ManetOlsr.Properties.MacExculpation
import ManetOlsr.Properties.MessageCodec
import ManetOlsr.Properties.VerdictEnforcement
import ManetOlsr.Model.WatchdogCalls
import ManetOlsr.Model.WatchdogVerdicts
import ManetOlsr.Model.CallHistory
import ManetOlsr.Properties.Probation
import ManetOlsr.Properties.Release
import ManetOlsr.Properties.ColdStart
import ManetOlsr.Properties.DeviationRule
import ManetOlsr.Properties.FpntDisable
import ManetOlsr.Model.FpntAccount
import ManetOlsr.Properties.ForwardingCredit
import ManetOlsr.Model.FuzzyNet
import ManetOlsr.Properties.FuzzyReasoning
import ManetOlsr.Properties.BlackholeTrust
import ManetOlsr.Lib.Coverage
import ManetOlsr.Properties.RedundantCoverage
import ManetOlsr.Properties.CoverageSearch
import ManetOlsr.Properties.HexagonSearch
import ManetOlsr.Properties.MprChoice
import ManetOlsr.Lib.MantissaExponent
import ManetOlsr.Properties.ValidityTimes
import ManetOlsr.Properties.MalformedHello
import ManetOlsr.Model.AddressSources
import ManetOlsr.Properties.LinkSymmetry
import ManetOlsr.Lib.FisherYates
import ManetOlsr.Model.FlowSelection
import ManetOlsr.Properties.UniformDraw
import ManetOlsr.Properties.FlowSelection
import ManetOlsr.Properties.AttackerCount
import ManetOlsr.Properties.DetectionMetrics
import ManetOlsr.Properties.SoftState
import ManetOlsr.Properties.SpoofTargets
import ManetOlsr.Properties.CollectorBooks
import ManetOlsr.Lib.Flood
import ManetOlsr.Model.ConnectivityGates
import ManetOlsr.Properties.ConnectivityGates
import ManetOlsr.Properties.MprFlooding
import ManetOlsr.Lib.Relays
import ManetOlsr.Model.Outbox
import ManetOlsr.Properties.StaticNetworks
import ManetOlsr.Properties.ShortestRoutes
import ManetOlsr.Properties.Delivery
import ManetOlsr.Lib.Timeline
import ManetOlsr.Properties.ScenarioSlots
import ManetOlsr.Properties.MeasurementWindows
