import DddBoilerplate.Concurrency.Pool
import DddBoilerplate.Saga.Router
import DddBoilerplate.Saga.Worker
import DddBoilerplate.Saga.System
import DddBoilerplate.Saga.Flow
import DddBoilerplate.Saga.Effects
import DddBoilerplate.Saga.Invariant
import DddBoilerplate.Saga.Cursor
import DddBoilerplate.Saga.Lifecycle
import DddBoilerplate.Saga.Claimed
import DddBoilerplate.Saga.Settlement
import DddBoilerplate.Saga.Undo
import DddBoilerplate.Saga.Compensation
import DddBoilerplate.Saga.Pivot
import DddBoilerplate.Saga.UndoOrder
import DddBoilerplate.Saga.Walks
import DddBoilerplate.Saga.Delivery
import DddBoilerplate.Saga.WaitOutcome
import DddBoilerplate.Domain.Method
import DddBoilerplate.Procurement.GoodReceiptNote
import DddBoilerplate.Procurement.Reconciliation
import DddBoilerplate.Procurement.PurchaseOrder
import DddBoilerplate.Procurement.OrderLifecycle
import DddBoilerplate.Concurrency.RelyGuarantee
import DddBoilerplate.Messaging.Inbox
import DddBoilerplate.Procurement.Records
import DddBoilerplate.Procurement.UseCases
import DddBoilerplate.Procurement.Commits
import DddBoilerplate.Procurement.Balances
import DddBoilerplate.Procurement.Transactions
import DddBoilerplate.Procurement.ReceivingLimit
import DddBoilerplate.Procurement.PostedOnce
import DddBoilerplate.Procurement.Inspection
import DddBoilerplate.Procurement.ReversedOnce
import DddBoilerplate.Procurement.Reversal
import DddBoilerplate.Procurement.Positivity
import DddBoilerplate.Procurement.Conservation
import DddBoilerplate.Saga.Finality
import DddBoilerplate.Concurrency.Sequential
import DddBoilerplate.Procurement.Immutability
import DddBoilerplate.Procurement.OrderLines
import DddBoilerplate.Procurement.Cancellation
import DddBoilerplate.Concurrency.Control
import DddBoilerplate.Concurrency.World
import DddBoilerplate.Messaging.InboxSystem
import DddBoilerplate.Messaging.InboxTokens
import DddBoilerplate.Messaging.InboxExclusivity
import DddBoilerplate.Messaging.InboxPoison
import DddBoilerplate.Messaging.Outbox
import DddBoilerplate.Messaging.OutboxClaims
import DddBoilerplate.Messaging.OutboxSettlement
import DddBoilerplate.Messaging.OutboxParking
import DddBoilerplate.Idempotency.Ledger
import DddBoilerplate.Idempotency.Cache
import DddBoilerplate.Concurrency.History
import DddBoilerplate.Idempotency.Claims
import DddBoilerplate.Idempotency.ExactlyOnce
import DddBoilerplate.Locking.Redis
import DddBoilerplate.Locking.Fencing
import DddBoilerplate.Idempotency.Interceptor
import DddBoilerplate.Idempotency.OwnReply
import DddBoilerplate.Import.Types
import DddBoilerplate.Import.Store
import DddBoilerplate.Import.Stages
import DddBoilerplate.Import.Accounts
import DddBoilerplate.Import.Scenario
import DddBoilerplate.Import.Mapping
import DddBoilerplate.Import.StageLock
import DddBoilerplate.Messaging.Transport
import DddBoilerplate.Numbering.Allocation
import DddBoilerplate.Recurring.Engine
import DddBoilerplate.Recurring.Templates
import DddBoilerplate.Recurring.Agreement
import DddBoilerplate.Procurement.RecurringOrder
import DddBoilerplate.Procurement.GenerationOutcome
import DddBoilerplate.Recurring.Occurrences
import DddBoilerplate.Scheduler.Dispatch
import DddBoilerplate.Scheduler.Resurrection
import DddBoilerplate.Scheduler.Looks
import DddBoilerplate.Scheduler.Allowance
import DddBoilerplate.Notification.Requests
import DddBoilerplate.Notification.Sending
import DddBoilerplate.Concurrency.Stops
import DddBoilerplate.Notification.FanOut
import DddBoilerplate.Messaging.Acknowledgement
import DddBoilerplate.Messaging.Custody
import DddBoilerplate.Context.RequestContext
import DddBoilerplate.Context.Merging
import DddBoilerplate.Context.HttpPipeline
import DddBoilerplate.Webhook.Deliveries
import DddBoilerplate.Webhook.Histories
import DddBoilerplate.Concurrency.Exchange
import DddBoilerplate.Webhook.Lifecycle
import DddBoilerplate.Webhook.Breaker
import DddBoilerplate.Webhook.Tenancy
import DddBoilerplate.Webhook.InboundHandling
import DddBoilerplate.Notification.Statuses
import DddBoilerplate.Notification.Consent
import DddBoilerplate.Procurement.Amendment
import DddBoilerplate.Saga.ClaimDecoding
import DddBoilerplate.Saga.Conjunction
import DddBoilerplate.Saga.Narrowing
import DddBoilerplate.Saga.Rendering
import DddBoilerplate.Procurement.Companies
import DddBoilerplate.Recurring.EventDispatch
import DddBoilerplate.Sales.GeneratedOnce
import DddBoilerplate.Procurement.RoundTrips
import DddBoilerplate.Locking.Keys
import DddBoilerplate.Cache.Isolation
import DddBoilerplate.Saga.Starting
import DddBoilerplate.Recurring.Series
import DddBoilerplate.Import.CsvRoundTrip
import DddBoilerplate.Batch.Stamps
import DddBoilerplate.Batch.SubmitterContext
import DddBoilerplate.Notification.FromTrigger
import DddBoilerplate.Batch.Completions
import DddBoilerplate.Batch.Cancelling
