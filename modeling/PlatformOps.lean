import PlatformOps.Dict
import PlatformOps.Separator
import PlatformOps.InteractionEvents
import PlatformOps.Json
import PlatformOps.ResourceScope
import PlatformOps.Versioned
import PlatformOps.ContainerBindings
import PlatformOps.ScopeAccess
import PlatformOps.ScopeGovernance
import PlatformOps.ResolvedScope
import PlatformOps.Freshness
import PlatformOps.Preflight
import PlatformOps.ProvisionPlan
import PlatformOps.SealDigests
import PlatformOps.ProvisionExecution
import PlatformOps.PlanIntegrity
import PlatformOps.ApprovalGraph
import PlatformOps.Coroutine
import PlatformOps.Intake
import PlatformOps.ProvisionRequest
import PlatformOps.Harness
import PlatformOps.HarnessRuns
import PlatformOps.ClarificationRounds
import PlatformOps.OpenQuestions
import PlatformOps.QuestionRendering
import PlatformOps.Action
import PlatformOps.Binary64
import PlatformOps.CommandPayloads
import PlatformOps.EmailAddress
import PlatformOps.Registration
import PlatformOps.VerificationLinks
import PlatformOps.ReadCommitted
import PlatformOps.AttemptTransactions
import PlatformOps.AccountTransactions
import PlatformOps.Binary64
import PlatformOps.BrowserSessions
import PlatformOps.BrowserSessionRuns
import PlatformOps.Confirmation
import PlatformOps.JsonSchema
import PlatformOps.KeyedTable
import PlatformOps.OnboardingTables
import PlatformOps.OrganizationOnboarding
import PlatformOps.OrganizationMembership
import PlatformOps.OnboardingAnswers
import PlatformOps.Commands
import PlatformOps.ProgramRules
import PlatformOps.UniqueIndexes
import PlatformOps.SoloRuns
import PlatformOps.MembershipTransactions
import PlatformOps.PostgresScopeRegistry
import PlatformOps.ScopeHierarchy
import PlatformOps.CanonicalPaths
import PlatformOps.RegistryAgreement
import PlatformOps.OnboardingRepository
import PlatformOps.ActivationRoundTrip
import PlatformOps.DomainDiscovery
import PlatformOps.TenantAdmins
import PlatformOps.ProviderConnections
import PlatformOps.FourEyes
import PlatformOps.OnboardingStores
import PlatformOps.StoreAgreement
import PlatformOps.Workflows
import PlatformOps.SharedConnections
import PlatformOps.OnboardingTransactions
import PlatformOps.ActivationSafety
import PlatformOps.TopologicalOrder
import PlatformOps.Topology
import PlatformOps.MostSpecific
import PlatformOps.EffectiveAccess
import PlatformOps.ScopeAuthorization
import PlatformOps.TargetExistence
import PlatformOps.TuiAnswers
import PlatformOps.RunsEndpoint
import PlatformOps.ClarificationButtons
import PlatformOps.CommandSurfaces
import PlatformOps.PreflightTotality
import PlatformOps.SessionWindow
import PlatformOps.EmailIdempotence
import PlatformOps.RateLimiter
import PlatformOps.SlidingWindow
import PlatformOps.ModelOutput
import PlatformOps.ProvisionScope
import PlatformOps.Compliance
import PlatformOps.GuestChat
import PlatformOps.ConnectionLifecycle
import PlatformOps.BrowserSessionStores
import PlatformOps.KeyIndex
import PlatformOps.MembershipIndex
import PlatformOps.ScopeIndexes
import PlatformOps.ScopeSlugs
import PlatformOps.CriticalSection
import PlatformOps.ThreadClient
import PlatformOps.RemoteSession
import PlatformOps.ApproveButton
import PlatformOps.CommandExchange
import PlatformOps.DeviceLogin
import PlatformOps.Dialogue
import PlatformOps.EventFrames
import PlatformOps.GrantedProposals
import PlatformOps.IdentityProvider
import PlatformOps.PythonText
import PlatformOps.RemoteTui
import PlatformOps.SystemFamily
import PlatformOps.ThreadManager
import PlatformOps.BrowserRuns
