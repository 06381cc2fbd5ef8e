import Seev.Auth.Proof.Closure
import Seev.Auth.Proof.Projection
import Seev.Auth.Proof.Rotation
import Seev.Cache.Proof.RateLimiter
import Seev.Cryptox.Proof.Ring
import Seev.Gateway.Proof.Delivery
import Seev.Gateway.Proof.Keys
import Seev.Gateway.Proof.Lease
import Seev.Gateway.Proof.Notification
import Seev.Gateway.Proof.Quiet
import Seev.Ledger.BalanceV2.Proof.Flags
import Seev.Ledger.BalanceV2.Proof.Gaps
import Seev.Ledger.Proof.Amounts
import Seev.Ledger.Proof.BackOffice
import Seev.Ledger.Proof.Backing
import Seev.Ledger.Proof.Disbursement
import Seev.Ledger.Proof.Executor
import Seev.Ledger.Proof.FeeQuotes
import Seev.Ledger.Proof.FeeRules
import Seev.Ledger.Proof.Floor
import Seev.Ledger.Proof.Idempotency
import Seev.Ledger.Proof.Interest
import Seev.Ledger.Proof.Outbox
import Seev.Ledger.Proof.QuotedFee
import Seev.Ledger.Proof.Recon
import Seev.Ledger.Proof.Snapshot
import Seev.Ledger.RateText
import Seev.Lifecycle.Proof.ObjectOutbox
import Seev.Payin.Proof.Quoted
import Seev.Payin.Proof.Reported
import Seev.Payin.Proof.Truth
import Seev.Payout.Proof.Cancel
import Seev.Payout.Proof.Quoted
import Seev.Payout.Proof.Sandbox
import Seev.Scheduling.Proof.Cluster
import Seev.Vendorgw.Proof.Breaker
import Seev.Ledger.Proof.Record
