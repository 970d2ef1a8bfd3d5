import KcfTools.Model.NetworkInfo
import KcfTools.Lib.Tables
import KcfTools.Lib.Metering
import KcfTools.Backend.NetworkRates
import KcfTools.Backend.Discovery
import KcfTools.Lib.Rotation
import KcfTools.Backend.FairRotation
import KcfTools.Backend.Generations
import KcfTools.Model.LocalInfo
import KcfTools.Graph.GraphModel
import KcfTools.Graph.NetworkGraph
import KcfTools.Graph.VerifiedRoutes
import KcfTools.Backend.ValueCodec
import KcfTools.Lib.Traced
import KcfTools.Backend.KcfBackend
import KcfTools.Backend.Registration
import KcfTools.Backend.RemoteRuntime
import KcfTools.Backend.RuntimeEffects
import KcfTools.Backend.ActionHistory
import KcfTools.Ui.RemoteWorkspace
import KcfTools.Ui.Moves
import KcfTools.Ui.MoveFields
import KcfTools.Ui.PanelRequests
import KcfTools.Ui.UnsentEdits
import KcfTools.Backend.RateWindows
import KcfTools.Backend.Delivery
import KcfTools.Backend.ControlGate
import KcfTools.Backend.Refresh
import KcfTools.Backend.CacheIntegrity
import KcfTools.Backend.LocalGateway
import KcfTools.Backend.GatewayCycles
import KcfTools.Lib.Splices
import KcfTools.Backend.ScalarTexts
import KcfTools.Lib.Results
import KcfTools.Backend.CodecLayout
import KcfTools.Backend.CodecExactness
import KcfTools.Graph.LocalGraph
import KcfTools.Graph.DiscoveryOrder
import KcfTools.Graph.RemoteFilter
import KcfTools.Ui.MainWindow
import KcfTools.Ui.ParameterWrites
import KcfTools.Ui.DiscardQuestions
import KcfTools.Lib.Named
import KcfTools.Ui.ParameterMerge
import KcfTools.Backend.MetadataTexts
import KcfTools.Backend.GatewayDocuments
import KcfTools.Backend.EndpointKeys
import KcfTools.Graph.PairWarnings
import KcfTools.Backend.EchoSessions
import KcfTools.Backend.Framing
import KcfTools.Ui.TopicRates
import KcfTools.Lib.SlidingWindow
import KcfTools.Ui.Echo
import KcfTools.Ui.Selections
import KcfTools.Lib.Leases
import KcfTools.Ui.Subscriptions
import KcfTools.Ui.SubscriptionCalls
import KcfTools.Ui.SubscriptionOwners
import KcfTools.Backend.NameResolution
import KcfTools.Backend.MockBackend
import KcfTools.Backend.MockParameters
import KcfTools.Ui.SubscriptionEpochs
import KcfTools.Graph.Layout
import KcfTools.Graph.Sections
import KcfTools.Graph.WholeGraph
import KcfTools.Graph.DrawnNodes
import KcfTools.Graph.Curves
import KcfTools.Backend.RuntimeTables
import KcfTools.Backend.KcfNetwork
import KcfTools.Backend.Observers
import KcfTools.Ui.Shifts
import KcfTools.Ui.RemoteSystem
import KcfTools.Ui.SystemThreads
import KcfTools.Backend.NetworkExecutors
import KcfTools.Lib.Evictions
import KcfTools.Ui.Activities
import KcfTools.Ui.SystemGoals
import KcfTools.Ui.LocalCalls
import KcfTools.Backend.Preflight
import KcfTools.Graph.Origins
import KcfTools.Ui.Navigation
import KcfTools.Ui.GatewayPage
import KcfTools.Backend.FloatTexts
