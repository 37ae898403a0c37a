import CrawlerApi.Core.Coverage
import CrawlerApi.Core.Parity
import CrawlerApi.Core.Domains
import CrawlerApi.Keys.Lifecycle
import CrawlerApi.Keys.Authentication
import CrawlerApi.Keys.Atomicity
import CrawlerApi.Limits.RetryAfter
import CrawlerApi.Limits.Charging
import CrawlerApi.Limits.DomainRate
import CrawlerApi.Jobs.Idempotency
import CrawlerApi.Jobs.Isolation
import CrawlerApi.Jobs.BatchReports
import CrawlerApi.Jobs.BatchCreation
import CrawlerApi.Fetch.ProxyRotation
import CrawlerApi.Fetch.BrowserGuard
import CrawlerApi.Fetch.RedirectGuard
import CrawlerApi.Worker.Metering
import CrawlerApi.Worker.BlockCount
import CrawlerApi.Worker.Pinning
import CrawlerApi.Worker.EngineChoice
import CrawlerApi.Worker.Callback
import CrawlerApi.Worker.TierLaw
import CrawlerApi.Worker.History
import CrawlerApi.Worker.ReportDurability
import CrawlerApi.Proxies.CircuitEvents
import CrawlerApi.Proxies.Cooldown
import CrawlerApi.Proxies.Sticky
import CrawlerApi.Proxies.Postcondition
import CrawlerApi.Proxies.Inserts
import CrawlerApi.Proxies.HealthInvariant
import CrawlerApi.Proxies.Import
import CrawlerApi.Proxies.Discovery
import CrawlerApi.Warc.RoundTrip
import CrawlerApi.Warc.Rotation
import CrawlerApi.Warc.Durability
import CrawlerApi.Warc.Revisits
import CrawlerApi.Worker.Ledgers
import CrawlerApi.Fetch.CodingChains
import CrawlerApi.Fetch.Sniffing
import CrawlerApi.Fetch.Classification
import CrawlerApi.Worker.ErrorVisibility
import CrawlerApi.Worker.Fidelity
import CrawlerApi.Fetch.Normalization
import CrawlerApi.Fetch.GoodResponse
import CrawlerApi.Fetch.ProxyCredentials
import CrawlerApi.Worker.Policies
import CrawlerApi.Proxies.PoolStats
import CrawlerApi.Warc.Deduplication
import CrawlerApi.Warc.Tiling
import CrawlerApi.Warc.QueueBound
import CrawlerApi.Warc.QueueSafety
import CrawlerApi.Core.ProxyRedaction
import CrawlerApi.Keys.KeyRedaction
import CrawlerApi.Fetch.BrowserIsolation
import CrawlerApi.Fetch.FirefoxLifecycle
import CrawlerApi.Worker.UsageReport
import CrawlerApi.Warc.ArchiveList
import CrawlerApi.Keys.Directory
import CrawlerApi.Keys.Confinement
import CrawlerApi.Jobs.SyncAnswer
import CrawlerApi.Jobs.BatchAnswers
import CrawlerApi.Worker.PolicyLife
import CrawlerApi.Worker.JobLife
