import Split402.Auth.WalletAuth
import Split402.Base.Async
import Split402.Base.Base64
import Split402.Base.Cost
import Split402.Base.Decimal
import Split402.Base.Escrow
import Split402.Base.Except
import Split402.Base.Exclusive
import Split402.Base.FirstFit
import Split402.Base.JsonString
import Split402.Base.Log
import Split402.Base.Numbered
import Split402.Base.Printing
import Split402.Base.Radix
import Split402.Base.Reader
import Split402.Base.Relay
import Split402.Base.Run
import Split402.Base.Sort
import Split402.Base.SortOrder
import Split402.Base.Sums
import Split402.Base.Table
import Split402.Base.Tally
import Split402.Base.Trace
import Split402.Base.Utf16
import Split402.Base.Varint
import Split402.Host
import Split402.Merchant.Outbox
import Split402.Merchant.Submissions
import Split402.Payouts.Balances
import Split402.Payouts.Checks
import Split402.Payouts.Closure
import Split402.Payouts.Finality
import Split402.Payouts.Ledger
import Split402.Payouts.Preview
import Split402.Payouts.Reconciliation
import Split402.Payouts.Release
import Split402.Payouts.Signed
import Split402.Payouts.TransferVerification
import Split402.Payouts.Types
import Split402.Proof.AccrualEscrow
import Split402.Proof.AccrualLifecycle
import Split402.Proof.Attribution
import Split402.Proof.AuthSteps
import Split402.Proof.Balances
import Split402.Proof.Base58
import Split402.Proof.BatchPlan
import Split402.Proof.CampaignOverlap
import Split402.Proof.CampaignTerms
import Split402.Proof.CampaignUpdate
import Split402.Proof.CampaignVersions
import Split402.Proof.Cancellation
import Split402.Proof.CanonicalForm
import Split402.Proof.ClosureOnce
import Split402.Proof.ClosurePays
import Split402.Proof.CommissionLedger
import Split402.Proof.DestinationList
import Split402.Proof.DoubleSigning
import Split402.Proof.ExactlyOnce
import Split402.Proof.FinalizedTransfers
import Split402.Proof.Formats
import Split402.Proof.IngestProgram
import Split402.Proof.IssuedReceipts
import Split402.Proof.KeyRevocation
import Split402.Proof.LedgerConservation
import Split402.Proof.MemoryEscrow
import Split402.Proof.MemoryIngestion
import Split402.Proof.MemoryOps
import Split402.Proof.MemoryPayouts
import Split402.Proof.MerchantDeliveries
import Split402.Proof.MerchantOutbox
import Split402.Proof.MessageFormat
import Split402.Proof.OfferBinding
import Split402.Proof.PayoutModel
import Split402.Proof.PayoutRules
import Split402.Proof.PayoutSigning
import Split402.Proof.PolicyErrors
import Split402.Proof.PostgresEscrow
import Split402.Proof.PostgresOps
import Split402.Proof.PostgresPayouts
import Split402.Proof.PreviewOrder
import Split402.Proof.PreviewPartition
import Split402.Proof.ProviderOrder
import Split402.Proof.ReceiptHash
import Split402.Proof.ReceiptIdentity
import Split402.Proof.ReceiptPolicy
import Split402.Proof.RecordedReceipts
import Split402.Proof.RegistryForms
import Split402.Proof.RegistryOps
import Split402.Proof.ReleaseGuard
import Split402.Proof.RemoteBatches
import Split402.Proof.RemoteRequest
import Split402.Proof.RemoteSigner
import Split402.Proof.RequestDigest
import Split402.Proof.RetryPayment
import Split402.Proof.Rollup
import Split402.Proof.RouteClaims
import Split402.Proof.RouteOverlap
import Split402.Proof.RouteRotation
import Split402.Proof.RouteVersions
import Split402.Proof.RouterBudget
import Split402.Proof.RouterDiscipline
import Split402.Proof.RouterRounds
import Split402.Proof.ScopeAnswers
import Split402.Proof.SelfReferral
import Split402.Proof.SessionRevocation
import Split402.Proof.SettledEvidence
import Split402.Proof.Settlement
import Split402.Proof.ShortVec
import Split402.Proof.SignedPayouts
import Split402.Proof.SignedRecords
import Split402.Proof.SignerChecks
import Split402.Proof.SigningGuard
import Split402.Proof.SingleAllocation
import Split402.Proof.StrandedEvents
import Split402.Proof.TransferMatching
import Split402.Proof.UnknownOutcomes
import Split402.Proof.VerifiedPayment
import Split402.Proof.WalletAuth
import Split402.Proof.WebhookDeliveries
import Split402.Protocol.Base58
import Split402.Protocol.Canonical
import Split402.Protocol.Encoding
import Split402.Protocol.Numbers
import Split402.Protocol.Offers
import Split402.Protocol.Operation
import Split402.Protocol.Schemas
import Split402.Protocol.Signing
import Split402.Protocol.Verification
import Split402.Receipts.ChainVerification
import Split402.Receipts.Concurrent
import Split402.Receipts.Ingestion
import Split402.Registry.CampaignCalls
import Split402.Registry.Campaigns
import Split402.Registry.MerchantStores
import Split402.Registry.Merchants
import Split402.Registry.PostgresRoutes
import Split402.Registry.ReceiptPolicy
import Split402.Registry.RouteCalls
import Split402.Registry.RouteSearch
import Split402.Registry.Routes
import Split402.Registry.Runs
import Split402.Registry.Runtime
import Split402.Registry.Statements
import Split402.Router.AgentExecutor
import Split402.Router.Execution
import Split402.Router.Providers
import Split402.Router.Recorder
import Split402.Solana.ByteCursor
import Split402.Solana.FinalityMonitor
import Split402.Solana.PayoutSigner
import Split402.Solana.ReceiptVerifier
import Split402.Solana.RemoteSigner
import Split402.Solana.Rpc
import Split402.Solana.TransactionPlan
import Split402.Store.Lifecycle
import Split402.Store.Memory
import Split402.Store.Ops
import Split402.Store.Outbox
import Split402.Store.Postgres
import Split402.Store.Runs
import Split402.Store.Schema
import Split402.Webhooks.Dispatch
import Split402.X402.Client
import Split402.X402.Merchant
import Split402.X402.Payment
import Split402.X402.Server
import Split402.X402.Settlement
