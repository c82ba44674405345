import Threadwire.Effect.Basic
import Threadwire.Effect.Coroutine
import Threadwire.Effect.Company
import Threadwire.Effect.Conduct
import Threadwire.Effect.Frame
import Threadwire.Effect.Maintains
import Threadwire.Effect.Simulation
import Threadwire.Machine.Runs
import Threadwire.Machine.Trace
import Threadwire.Machine.Family
import Threadwire.Collections.OrderedMap
import Threadwire.Collections.Segments
import Threadwire.Collections.Changes
import Threadwire.Collections.LastElements
import Threadwire.Text.Utf8
import Threadwire.Text.Utf8Buffer
import Threadwire.Text.Base64
import Threadwire.Text.Json
import Threadwire.Text.Strings
import Threadwire.Text.Spelling
import Threadwire.Text.JsonNumber
import Threadwire.Text.JsonText
import Threadwire.Text.JsonRecord
import Threadwire.Text.WhatwgUrl
import Threadwire.Text.UrlRoundTrip
import Threadwire.Domain.Errors
import Threadwire.Domain.RuntimeGeneration
import Threadwire.Domain.LeaseCurrency
import Threadwire.Domain.ThreadIdentity
import Threadwire.Domain.ProjectIdentity
import Threadwire.Routing.ThreadRegistry
import Threadwire.Routing.RegistryInvariant
import Threadwire.Routing.OperationScheduler
import Threadwire.Routing.SchedulerSerial
import Threadwire.Routing.SchedulerAdmission
import Threadwire.Routing.SchedulerLiveness
import Threadwire.Routing.SchedulerFence
import Threadwire.Response.ResponseStreamConsumer
import Threadwire.Response.StreamReference
import Threadwire.Response.ConsumerRefinement
import Threadwire.Response.ConsumerQueue
import Threadwire.Response.ConsumerBounds
import Threadwire.Cdp.CdpResponseStreamTracker
import Threadwire.Cdp.TrackerLifecycle
import Threadwire.Cdp.ActivationRace
import Threadwire.Cdp.CdpTurnObservationTracker
import Threadwire.Cdp.TurnObservationTrace
import Threadwire.Turn.Types
import Threadwire.Controller.ControllerTurnQueue
import Threadwire.Controller.TurnQueueInvariant
import Threadwire.Controller.TurnQueueLaw
import Threadwire.Api.PublicError
import Threadwire.Api.RequestParsing
import Threadwire.Api.RequestAcceptance
import Threadwire.Api.HttpTurn
import Threadwire.Api.HttpCompletion
import Threadwire.Api.SseWire
import Threadwire.Api.SseStream
import Threadwire.Api.ThreadwireHttpServer
import Threadwire.Api.RequestedCalls
import Threadwire.Api.ServerAdmission
import Threadwire.Api.ServerCalls
import Threadwire.Turn.TurnExecutor
import Threadwire.Turn.TurnRules
import Threadwire.Turn.TurnOwnership
import Threadwire.Turn.ScheduledTurns
import Threadwire.Turn.ResponseProtocol
import Threadwire.Turn.TurnFrame
import Threadwire.Turn.RegistrationAuthority
import Threadwire.Turn.TurnRegistry
import Threadwire.Readiness.ReadinessGates
import Threadwire.Readiness.ReadinessController
import Threadwire.Readiness.RouteSoundness
import Threadwire.Readiness.FreshProof
import Threadwire.Runtime.ClassicSupervisor
import Threadwire.Runtime.StopRevocation
import Threadwire.Cdp.CdpSessionManager
import Threadwire.Cdp.ChromeRemoteInterfaceHelpers
import Threadwire.Project.ProjectRegistry
import Threadwire.Project.LocatorIdentity
import Threadwire.Domain.ConversationOwnership
import Threadwire.Runtime.CdpEndpointProvenance
import Threadwire.Runtime.ListenerProvenanceOutput
import Threadwire.Cdp.SessionFence
import Threadwire.Cdp.BoundAdmission
import Threadwire.Cdp.BoundCdpSessionManager
import Threadwire.Cdp.ChromeRemoteInterfaceSession
import Threadwire.Cdp.MutationGuardedChromeRemoteInterfaceSession
import Threadwire.Cdp.MutationGuards
import Threadwire.Readiness.FreshNoticeBudget
import Threadwire.Cdp.KnownNoticeDismissal
import Threadwire.Cdp.KnownNoticeOnce
import Threadwire.Cdp.KnownNoticeReport
import Threadwire.Cdp.NavigationSettlement
import Threadwire.Cdp.NavigationLaw
import Threadwire.Runtime.ClassicLifecycle
import Threadwire.Runtime.RestartSafety
import Threadwire.Turn.TurnSteps
import Threadwire.Turn.SubmissionDiscipline
import Threadwire.Collections.Deadline
import Threadwire.Turn.OutcomeTermination
import Threadwire.Collections.Generations
import Threadwire.Cdp.KnownFreshNotice
import Threadwire.Effect.Monitor
import Threadwire.Cdp.ComposerObjects
import Threadwire.Project.ProjectCreator
import Threadwire.Project.CreationOperation
import Threadwire.Project.CreationLaw
import Threadwire.Controller.ThreadwireController
import Threadwire.Controller.CompletionBarrier
import Threadwire.Controller.CompletionOpening
import Threadwire.Controller.BarrierDiscipline
import Threadwire.Controller.ProjectCompletion
import Threadwire.Controller.RuntimePolicy
import Threadwire.Controller.PolicyLaw
import Threadwire.Cdp.CdpTargetDiscovery
import Threadwire.Cdp.TargetDiscoveryLaw
import Threadwire.Machine.Stamp
import Threadwire.Cdp.BackendActivity
import Threadwire.Effect.Shadow
import Threadwire.Runtime.BoundRuntimeProvenanceGuard
import Threadwire.Cdp.ChromeRemoteInterfaceTransport
import Threadwire.Api.ServerAnswers
