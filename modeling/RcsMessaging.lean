import RcsMessaging.Domain.Message
import RcsMessaging.Persistence.MessageRepo
import RcsMessaging.Ports
import RcsMessaging.Adapters.Gupshup
import RcsMessaging.Services.Handler
import RcsMessaging.Services.Hoare
import RcsMessaging.Services.Delivery
import RcsMessaging.Pipeline.World
import RcsMessaging.Pipeline.Fallback
import RcsMessaging.Pipeline.Counters
import RcsMessaging.Domain.Campaign
import RcsMessaging.Persistence.CampaignRepo
import RcsMessaging.Persistence.EventRepo
import RcsMessaging.Pipeline.CampaignWorld
import RcsMessaging.Queue.RabbitMQ
import RcsMessaging.Services.Consent
import RcsMessaging.Pipeline.CampaignCounters
import RcsMessaging.Pipeline.Orchestration
import RcsMessaging.Pipeline.OrchestratorRuns
import RcsMessaging.Pipeline.Audiences
import RcsMessaging.Pipeline.EventLog
import RcsMessaging.Pipeline.RateLimit
import RcsMessaging.Pipeline.SmsLeg
import RcsMessaging.Pipeline.StatusReplay
import RcsMessaging.Pipeline.RetryBound
import RcsMessaging.Python.Codecs
import RcsMessaging.Python.Json
import RcsMessaging.Python.JsonRoundTrip
import RcsMessaging.Python.Hmac
import RcsMessaging.Pipeline.Webhook
import RcsMessaging.Python.Str
import RcsMessaging.Domain.Phone
import RcsMessaging.Domain.Audience
import RcsMessaging.Services.CampaignLifecycle
import RcsMessaging.Pipeline.Batching
import RcsMessaging.Domain.Template
import RcsMessaging.Api.RateLimitMiddleware
import RcsMessaging.Python.Uuid
import RcsMessaging.Api.Http
import RcsMessaging.Api.Middleware
import RcsMessaging.Api.App
import RcsMessaging.Api.ApiKeys
import RcsMessaging.Domain.OptIn
import RcsMessaging.Api.Templates
import RcsMessaging.Api.Audiences
