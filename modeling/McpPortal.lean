import McpPortal.Foundation.Guard
import McpPortal.Foundation.Dict
import McpPortal.Foundation.Glob
import McpPortal.Policy.Engine
import McpPortal.Foundation.JsonText
import McpPortal.Foundation.JsonEq
import McpPortal.Foundation.JsonRoundTrip
import McpPortal.Policy.Accumulation
import McpPortal.Auth.Outbound
import McpPortal.Foundation.Unicode
import McpPortal.Config.PolicyFile
import McpPortal.Classify
import McpPortal.Config.OperationEntry
import McpPortal.Configure.Decisions
import McpPortal.Configure.Survey
import McpPortal.Configure.Transcript
import McpPortal.Configure.Reconcile
import McpPortal.Configure.Write
import McpPortal.Configure.Render
import McpPortal.Configure.Run
import McpPortal.Configure.Pinned
import McpPortal.Configure.Recorded
import McpPortal.Configure.HandWritten
import McpPortal.Configure.Accounting
import McpPortal.Configure.Idempotent
import McpPortal.Configure.HalfConfirmed
import McpPortal.Configure.Introspected
import McpPortal.Configure.WrittenOperations
import McpPortal.Configure.IntrospectedRuns
import McpPortal.Foundation.SortedAlike
import McpPortal.Configure.TextSurvey
import McpPortal.Configure.TextRuns
import McpPortal.Configure.Served
import McpPortal.Configure.Authorization
import McpPortal.Configure.SurveyAuthorization
import McpPortal.Configure.ReconcileAuthorization
import McpPortal.Foundation.Replace
import McpPortal.Foundation.Template
import McpPortal.Foundation.DotSegments
import McpPortal.Foundation.Dynamic
import McpPortal.Foundation.Percent
import McpPortal.Sources.Flatten
import McpPortal.Transports.Http
import McpPortal.Transports.Routes
import McpPortal.Foundation.PyText
import McpPortal.Sources.Explicit
import McpPortal.Sources.OpenApi
import McpPortal.Sources.FlattenStable
import McpPortal.Transports.GraphQl
import McpPortal.Transports.Headers
import McpPortal.Transports.Agreement
import McpPortal.Auth.TokenCache
import McpPortal.Sources.Merge
import McpPortal.Registry
import McpPortal.Foundation.Traced
import McpPortal.Transports.Adapter
import McpPortal.Server.Mcp
import McpPortal.App
import McpPortal.Server.Handlers
import McpPortal.Foundation.PurePath
import McpPortal.Foundation.Stateful
import McpPortal.Foundation.UrlSplit
import McpPortal.Sources.Refs
import McpPortal.Sources.RefPlain
import McpPortal.Sources.Dialect
import McpPortal.Sources.LoadedDocument
import McpPortal.Foundation.JsonSchema
import McpPortal.Sources.DialectMeaning
import McpPortal.Foundation.Claim
import McpPortal.Published
import McpPortal.Sources.FlattenSettled
import McpPortal.Sources.ExplicitEntries
import McpPortal.Sources.FlattenAgree
import McpPortal.Configure.RenderedConfig
import McpPortal.Surviving
import McpPortal.Auth.Jwks
import McpPortal.Auth.TokenQueues
import McpPortal.Auth.TokenReclaim
import McpPortal.Auth.Acquire
import McpPortal.Auth.TokenIsolation
import McpPortal.Auth.TokenLifetime
import McpPortal.Auth.TokenBurst
import McpPortal.Transports.Common
import McpPortal.Transports.Sending
import McpPortal.Transports.QueryEncoding
import McpPortal.Transports.HeaderCollisions
import McpPortal.Transports.ArgumentRouting
import McpPortal.Sources.Isolation
import McpPortal.Sources.GraphQlExpansion
import McpPortal.Auth.JwksDenial
import McpPortal.Auth.InboundDenial
import McpPortal.Sources.GraphQlShape
import McpPortal.Sources.GraphQlIds
import McpPortal.Sources.Lossless
import McpPortal.Sources.OpenApiIds
import McpPortal.Sources.RefMeaning
import McpPortal.Sources.RefSettles
import McpPortal.Sources.DialectPlaces
import McpPortal.Sources.NullableRefs
import McpPortal.Sources.WalkRuns
import McpPortal.Sources.RefFree
import McpPortal.Sources.RefOutcome
import McpPortal.Sources.RefLanding
import McpPortal.Sources.RefRuns
import McpPortal.Sources.RefMemory
import McpPortal.Sources.RefEnds
import McpPortal.Configure.SurveyDefaults
import McpPortal.StaleRules
import McpPortal.Foundation.Utf8
import McpPortal.Server.GraphQlErrors
import McpPortal.Transports.ResponseText
import McpPortal.Auth.TokenReplies
import McpPortal.Foundation.FillAtOnce
import McpPortal.Sources.BaseUrl
import McpPortal.Configure.PolicyPaths
import McpPortal.Configure.OverwrittenPolicy
import McpPortal.Foundation.CodePoints
import McpPortal.Config.LoadFailures
import McpPortal.Foundation.PyJson
import McpPortal.Transports.PyRequest
import McpPortal.Transports.PyRequestFailures
import McpPortal.Transports.PyExchange
import McpPortal.Server.CallResults
import McpPortal.Sources.GraphQlTypes
import McpPortal.Auth.AcquireSteps
import McpPortal.Auth.JwksKeys
import McpPortal.Auth.JwksProgress
import McpPortal.Server.Admission
import McpPortal.Server.Service
import McpPortal.Server.ServiceInvariant
import McpPortal.Server.ServiceMoves
import McpPortal.Server.ServiceProgress
import McpPortal.Introspect
import McpPortal.Server.ServiceDestinations
import McpPortal.Server.ServiceExchange
import McpPortal.Configure.PolicyHistory
import McpPortal.Foundation.Lockstep
import McpPortal.Server.SecretsBuild
import McpPortal.Server.ServiceSecrets
import McpPortal.Foundation.Answer
import McpPortal.Foundation.DictAlike
import McpPortal.Sources.CheckedRecords
import McpPortal.Sources.IntrospectionReply
import McpPortal.Sources.Transcribed
import McpPortal.Sources.DeclaredOperations
import McpPortal.Server.ServiceDeclared
