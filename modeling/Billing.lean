import Billing.Lib.Program
import Billing.Lib.Pool
import Billing.Lib.Lock
import Billing.Lib.Replay
import Billing.Lib.Footprint
import Billing.Lib.Machine
import Billing.Lib.Table
import Billing.Lib.PyText
import Billing.Lib.Decimal
import Billing.Lib.Json
import Billing.Lib.JsonNumber
import Billing.Lib.JsonText
import Billing.Domain.Events
import Billing.Domain.Payment
import Billing.Application.Ports
import Billing.Application.UseCases
import Billing.Infrastructure.EventContracts
import Billing.Application.EventHandlers
import Billing.Infrastructure.SqlRepositories
import Billing.Infrastructure.MemoryRepositories
import Billing.Infrastructure.Gateways
import Billing.Infrastructure.SdkClient
import Billing.Runtime
import Billing.Session
import Billing.Presentation.Routes
import Billing.Ledger
import Billing.Infrastructure.Messaging
import Billing.Proofs.Duties
import Billing.Proofs.Handling
import Billing.Proofs.Steps
import Billing.Proofs.Integrity
import Billing.Proofs.Sync
import Billing.Proofs.Provider
import Billing.Proofs.Outcomes
import Billing.Proofs.Approvals
import Billing.Proofs.Sequential
import Billing.Proofs.Failures
import Billing.Proofs.Refusal
import Billing.Proofs.Retries
import Billing.Proofs.Announcements
import Billing.Proofs.Deliveries
import Billing.Proofs.Draining
import Billing.Proofs.Redelivery
import Billing.Proofs.Forgotten
import Billing.Proofs.Alone
import Billing.Proofs.Intake
import Billing.Proofs.Duplicates
import Billing.Proofs.Effects
import Billing.Proofs.Journal
import Billing.Proofs.Verdicts
import Billing.Proofs.Decisive
import Billing.Proofs.Searches
import Billing.Proofs.GatewayErrors
import Billing.Proofs.MockMode
import Billing.Proofs.Independent
import Billing.Proofs.ServiceOrders
import Billing.Proofs.GatewayErrors
import Billing.Proofs.Intake
import Billing.Proofs.Persistence
import Billing.Proofs.Envelopes
import Billing.Infrastructure.Schema
import Billing.Proofs.Columns
import Billing.Deploy.PrepareEnv
import Billing.Infrastructure.Settings
import Billing.Proofs.ListFields
import Billing.Proofs.Secrets
import Billing.Presentation.Auth
import Billing.Proofs.AdminGate
import Billing.Proofs.DatabaseUrls
import Billing.Proofs.Migrations
import Billing.Proofs.PreparedEnv
import Billing.Proofs.Echoes
import Billing.Proofs.Outbox
import Billing.Proofs.Transitions
import Billing.Proofs.Reads
import Billing.Proofs.EventLog
import Billing.Proofs.Scripts
import Billing.Proofs.NoTrace
import Billing.Proofs.Books
import Billing.Proofs.Images
import Billing.Proofs.AccessLog
import Billing.Infrastructure.Readiness
import Billing.Deploy.Entrypoint
import Billing.Proofs.Deployment
