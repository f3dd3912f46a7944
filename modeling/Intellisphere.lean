import Intellisphere.Foundation.Binary64
import Intellisphere.Foundation.Channel
import Intellisphere.Foundation.Division
import Intellisphere.Foundation.Document
import Intellisphere.Foundation.Erasure
import Intellisphere.Foundation.EventStream
import Intellisphere.Foundation.Fencing
import Intellisphere.Foundation.GoJson
import Intellisphere.Foundation.Interleaving
import Intellisphere.Foundation.JsValue
import Intellisphere.Foundation.Json
import Intellisphere.Foundation.JsonSchema
import Intellisphere.Foundation.JsonText
import Intellisphere.Foundation.Machine
import Intellisphere.Foundation.Masking
import Intellisphere.Foundation.Meter
import Intellisphere.Foundation.Observation
import Intellisphere.Foundation.Progress
import Intellisphere.Foundation.Provenance
import Intellisphere.Foundation.RateCurve
import Intellisphere.Foundation.Readability
import Intellisphere.Foundation.Regex
import Intellisphere.Foundation.RegexRewriting
import Intellisphere.Foundation.SchemaDocument
import Intellisphere.Foundation.SlidingWindow
import Intellisphere.Foundation.Text
import Intellisphere.Foundation.WindowAccount
import Intellisphere.Foundation.WrappingTotals
import Intellisphere.Sphere.Access.Credentials
import Intellisphere.Sphere.Access.Scopes
import Intellisphere.Sphere.Api.CallerText
import Intellisphere.Sphere.Api.Chat
import Intellisphere.Sphere.Api.Detection
import Intellisphere.Sphere.Api.Egress
import Intellisphere.Sphere.Api.Ingress
import Intellisphere.Sphere.Api.Streaming
import Intellisphere.Sphere.Api.ToolRounds
import Intellisphere.Sphere.Api.Transcript
import Intellisphere.Sphere.AppState
import Intellisphere.Sphere.Audit.Emitter
import Intellisphere.Sphere.Audit.Log
import Intellisphere.Sphere.Auth
import Intellisphere.Sphere.Config
import Intellisphere.Sphere.ConfigDocument
import Intellisphere.Sphere.Errors
import Intellisphere.Sphere.Pipeline.CardNumbers
import Intellisphere.Sphere.Pipeline.Chain
import Intellisphere.Sphere.Pipeline.CharacterLimit
import Intellisphere.Sphere.Pipeline.ContentClassifier
import Intellisphere.Sphere.Pipeline.Conversation
import Intellisphere.Sphere.Pipeline.ConversationLimits
import Intellisphere.Sphere.Pipeline.Entities
import Intellisphere.Sphere.Pipeline.Filter
import Intellisphere.Sphere.Pipeline.Inbound
import Intellisphere.Sphere.Pipeline.InboundRedaction
import Intellisphere.Sphere.Pipeline.KnownUrls
import Intellisphere.Sphere.Pipeline.Observation
import Intellisphere.Sphere.Pipeline.Outbound
import Intellisphere.Sphere.Pipeline.Patterns
import Intellisphere.Sphere.Pipeline.Redaction
import Intellisphere.Sphere.Pipeline.Session
import Intellisphere.Sphere.Pipeline.SizeLimit
import Intellisphere.Sphere.Pipeline.TokenBudget
import Intellisphere.Sphere.Policy.Engine
import Intellisphere.Sphere.Policy.Sessions
import Intellisphere.Sphere.Proto
import Intellisphere.Sphere.RateLimit
import Intellisphere.Sphere.RateLimiting.Buckets
import Intellisphere.Sphere.RateLimiting.Exactness
import Intellisphere.Sphere.RateLimiting.Quota
import Intellisphere.Sphere.RateLimiting.RateCurve
import Intellisphere.Sphere.RateLimiting.Refusals
import Intellisphere.Sphere.RateLimiting.Schedule
import Intellisphere.Sphere.RateLimiting.Windows
import Intellisphere.Sphere.Satellite.Adjudicator
import Intellisphere.Sphere.Satellite.Creation
import Intellisphere.Sphere.Satellite.Endpoint
import Intellisphere.Sphere.Satellite.Heartbeat
import Intellisphere.Sphere.Satellite.Isolation
import Intellisphere.Sphere.Satellite.Lifetime
import Intellisphere.Sphere.Satellite.Protocol
import Intellisphere.Sphere.Satellite.Session
import Intellisphere.Sphere.Satellite.Suspicion
import Intellisphere.Sphere.Satellite.Tokens
import Intellisphere.Sphere.Satellite.TrustBounds
import Intellisphere.Sphere.Satellite.Wire
import Intellisphere.Sphere.Tools.Authorization
import Intellisphere.Sphere.Tools.Containment
import Intellisphere.Sphere.Tools.Dispatch
import Intellisphere.Sphere.Tools.Executor
import Intellisphere.Sphere.Tools.Interceptor
import Intellisphere.Sphere.Tools.Registry
import Intellisphere.Sphere.Tools.ResultSize
import Intellisphere.Sphere.Tools.Timeouts
import Intellisphere.Core.Anthropic
import Intellisphere.Core.ClientStream
import Intellisphere.Core.Delivery
import Intellisphere.Core.ErrorDelivery
import Intellisphere.Core.MockDelivery
import Intellisphere.Core.MockServer
import Intellisphere.Core.ProviderRequest
import Intellisphere.Core.RoundTrip
import Intellisphere.Core.Status
import Intellisphere.Core.StatusMapping
import Intellisphere.Core.StreamLiveness
import Intellisphere.Core.StreamedCompletion
import Intellisphere.Core.Streaming
import Intellisphere.Core.UsageTotals
import Intellisphere.Sdk.Manifest
import Intellisphere.Sdk.ManifestFile
import Intellisphere.Sdk.SchemaAgreement
import Intellisphere.Sdk.SchemaFidelity
import Intellisphere.Sdk.WrittenSchema
import Intellisphere.Sdk.Zod
import Intellisphere.Cli.ManifestAcceptance
import Intellisphere.Cli.ManifestMeaning
import Intellisphere.Cli.ToolCreate
import Intellisphere.Cli.ToolValidate
import Intellisphere.Client.Connection
import Intellisphere.Client.DeclaredTimeout
import Intellisphere.Client.DysonSatellite
import Intellisphere.Client.ProposalAlone
import Intellisphere.Client.Reconnection
import Intellisphere.Client.ResultFrame
import Intellisphere.Client.Sanitisation
import Intellisphere.Client.SatelliteClient
import Intellisphere.Client.ServedProposals
import Intellisphere.Client.ServedRate
import Intellisphere.Client.SlidingWindow
import Intellisphere.Client.Timers
import Intellisphere.Client.ToolProposal
import Intellisphere.Client.TransportOwnership
import Intellisphere.Client.WireProtocol
