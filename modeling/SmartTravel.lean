import SmartTravel.Lib.Dict
import SmartTravel.Lib.Runs
import SmartTravel.Lib.LastWrite
import SmartTravel.Lib.SlidingWindow
import SmartTravel.Lib.FixedWindow
import SmartTravel.Lib.Text
import SmartTravel.Lib.Base64
import SmartTravel.Lib.Numeral
import SmartTravel.Lib.Calendar
import SmartTravel.Lib.DateArithmetic
import SmartTravel.Lib.StableSort
import SmartTravel.Lib.BestPerKey
import SmartTravel.Lib.IsoDate
import SmartTravel.Lib.CaseMapping
import SmartTravel.Lib.Json
import SmartTravel.Lib.Binary64
import SmartTravel.Lib.Random
import SmartTravel.Lib.JsonLoads
import SmartTravel.Lib.Values
import SmartTravel.Core.RateLimit
import SmartTravel.Core.LimiterMemory
import SmartTravel.Core.RedisRateLimit
import SmartTravel.Core.ClientIp
import SmartTravel.Core.Errors
import SmartTravel.Core.Middleware
import SmartTravel.Core.Observability
import SmartTravel.Core.Config
import SmartTravel.Resilience.CircuitBreaker
import SmartTravel.Resilience.Probing
import SmartTravel.Domain.Dto
import SmartTravel.Services.Pagination
import SmartTravel.Services.Search
import SmartTravel.Services.Aggregation
import SmartTravel.Services.HotelAggregation
import SmartTravel.Services.Degradation
import SmartTravel.Services.SearchFailures
import SmartTravel.Services.Ranking
import SmartTravel.Services.Dedupe
import SmartTravel.Api.SearchFilters
import SmartTravel.Db.Models
import SmartTravel.Services.PriceMonitor
import SmartTravel.Services.CheapestFare
import SmartTravel.Services.MonitorRuns
import SmartTravel.Services.AlertLife
import SmartTravel.Services.MonitorOverlap
import SmartTravel.Services.MailAmounts
import SmartTravel.Resilience.Cache
import SmartTravel.Resilience.CacheRuns
import SmartTravel.Providers.HttpClient
import SmartTravel.Providers.Retry
import SmartTravel.Providers.Load
import SmartTravel.Providers.JsonCache
import SmartTravel.Providers.Adapters
import SmartTravel.Providers.SampleFlights
import SmartTravel.Providers.SampleHotels
import SmartTravel.Core.Security
import SmartTravel.Services.TokenBlocklist
import SmartTravel.Services.AuthService
import SmartTravel.Api.Deps
import SmartTravel.Api.Auth
import SmartTravel.Api.Accounts
import SmartTravel.Api.Sessions
import SmartTravel.Api.Registration
import SmartTravel.Api.AccountProbing
import SmartTravel.Api.PriceAlerts
import SmartTravel.Api.AlertRoutes
import SmartTravel.Api.Service
import SmartTravel.Api.Admin
import SmartTravel.Api.Dashboard
import SmartTravel.Api.AuditTrail
import SmartTravel.Api.Ownership
import SmartTravel.Api.CacheBackends
import SmartTravel.Api.RateLimiting
import SmartTravel.Container
