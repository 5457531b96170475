import AeroRisk.Library.LabelledRun
import AeroRisk.Library.BoundedLoop
import AeroRisk.Library.FifoQueue
import AeroRisk.Financial
import AeroRisk.Orderbook.Book
import AeroRisk.Orderbook.MatchingEngine
import AeroRisk.Orderbook.Halves
import AeroRisk.Orderbook.Refinement
import AeroRisk.Orderbook.SoundBooks
import AeroRisk.Orderbook.Sessions
import AeroRisk.Orderbook.TradeLimits
import AeroRisk.Orderbook.Conservation
import AeroRisk.Orderbook.TimePriority
import AeroRisk.Orderbook.PricePriority
import AeroRisk.Orderbook.BestOfBook
import AeroRisk.Orderbook.FillCompleteness
import AeroRisk.Orderbook.CancelUndo
import AeroRisk.Disruptor.RingBuffer
import AeroRisk.Disruptor.Producers
import AeroRisk.Disruptor.Publication
import AeroRisk.Disruptor.BatchProcessor
import AeroRisk.Disruptor.BackPressure
import AeroRisk.Disruptor.Claims
import AeroRisk.Disruptor.Progress
import AeroRisk.Disruptor.MachineWords
import AeroRisk.Library.Postings
import AeroRisk.Ledger.Accounts
import AeroRisk.Ledger.Conservation
import AeroRisk.Ledger.Journal
import AeroRisk.Ledger.Overdraft
import AeroRisk.Ledger.History
import AeroRisk.Library.RunningTotals
import AeroRisk.Ledger.RunningBalances
import AeroRisk.Gateway.Auth
import AeroRisk.Guardrail.Pipeline
import AeroRisk.Guardrail.HardBlock
import AeroRisk.Library.Commands
import AeroRisk.Library.ExpiringStore
import AeroRisk.Redis
import AeroRisk.Guardrail.CircuitBreakerWriter
import AeroRisk.Cache.CircuitBreaker
import AeroRisk.Guardrail.BreakerTrip
import AeroRisk.Event
import AeroRisk.Guardrail.EventModels
import AeroRisk.Orderbook.Sharding
import AeroRisk.Orderbook.LevelAggregates
import AeroRisk.Orderbook.Mirror
import AeroRisk.Cache.AccountState
import AeroRisk.Gateway.RateLimiter
import AeroRisk.Library.Accrual
import AeroRisk.Gateway.Refill
import AeroRisk.Library.Messages
import AeroRisk.Library.ReadModifyWrite
import AeroRisk.Cache.RedisClient
import AeroRisk.Cache.CashUpdates
import AeroRisk.Cache.RiskDecisions
import AeroRisk.Cache.BreakerHistory
import AeroRisk.Cache.Cooldown
import AeroRisk.Cache.ReadYourWrite
import AeroRisk.Cache.AvailableCash
import AeroRisk.Library.FallibleLoop
import AeroRisk.Library.RedBlackTree
import AeroRisk.Library.SortedEntries
import AeroRisk.Rbtree.Tree
import AeroRisk.Rbtree.Layout
import AeroRisk.Rbtree.Rebalancing
import AeroRisk.Rbtree.Insertion
import AeroRisk.Rbtree.Contents
import AeroRisk.Rbtree.Height
import AeroRisk.Ledger.Credits
import AeroRisk.Orderbook.SignedPrices
import AeroRisk.Guardrail.TriggerWindow
import AeroRisk.Orderbook.Cancellation
import AeroRisk.Guardrail.Orchestrator
import AeroRisk.Guardrail.Anomaly
import AeroRisk.Guardrail.PairWindows
import AeroRisk.Guardrail.Spoofing
import AeroRisk.Guardrail.Sanctions
import AeroRisk.Guardrail.SanctionsHits
import AeroRisk.Guardrail.SanctionsClearances
import AeroRisk.Guardrail.SanctionsChecks
import AeroRisk.Library.SlidingWindow
import AeroRisk.Library.Rounding
import AeroRisk.Library.FallibleFilter
import AeroRisk.Guardrail.RoundedFloat
import AeroRisk.Guardrail.Velocity
import AeroRisk.Guardrail.RoundTrips
import AeroRisk.Library.WeightedMean
import AeroRisk.Guardrail.RiskScorer
import AeroRisk.Guardrail.Router
import AeroRisk.Guardrail.TriggerExpiry
import AeroRisk.Guardrail.ScorerTotality
import AeroRisk.Guardrail.BatchEvaluation
import AeroRisk.Guardrail.Recommendations
import AeroRisk.Guardrail.ResultRanges
import AeroRisk.Guardrail.SpoofingVerdicts
import AeroRisk.Guardrail.CancelledTrades
import AeroRisk.Library.Channels
import AeroRisk.Library.Processes
import AeroRisk.Gateway.WSServer
import AeroRisk.Gateway.WSShutdown
import AeroRisk.Guardrail.ResetAll
import AeroRisk.Guardrail.KafkaConsumer
import AeroRisk.Guardrail.IncidentReport
import AeroRisk.Guardrail.IncidentTable
import AeroRisk.Guardrail.VWAPBounds
import AeroRisk.Rbtree.PointerSafety
import AeroRisk.Guardrail.Embedding
import AeroRisk.Orderbook.BestLevels
import AeroRisk.Guardrail.ComplianceLoader
import AeroRisk.Disruptor.SlotIndexing
import AeroRisk.Library.CriticalSections
import AeroRisk.Ledger.ConcurrentCalls
import AeroRisk.Gateway.ConcurrentLimiter
import AeroRisk.Orderbook.TradeFeed
import AeroRisk.Orderbook.BookTable
import AeroRisk.Guardrail.LLMClient
import AeroRisk.Guardrail.UserProfiles
import AeroRisk.Guardrail.IncidentStore
import AeroRisk.Guardrail.AnomalyAgent
import AeroRisk.Guardrail.ConsumeLoop
import AeroRisk.Guardrail.NewsIngester
import AeroRisk.Guardrail.RecentNews
import AeroRisk.Guardrail.BulkScreening
import AeroRisk.Ledger.Settlement
import AeroRisk.Guardrail.PipelineBatch
import AeroRisk.Disruptor.WaitStrategies
import AeroRisk.Library.Termination
import AeroRisk.Gateway.WSTermination
import AeroRisk.Guardrail.SanctionsMatch
