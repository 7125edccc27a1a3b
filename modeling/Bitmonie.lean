import Bitmonie.RepaymentLedger
import Bitmonie.StatusInterleaving
import Bitmonie.CollateralRelease
import Bitmonie.Collection
import Bitmonie.CollectionLedger
import Bitmonie.Payout
import Bitmonie.PayoutRules
import Bitmonie.PayoutRecords
import Bitmonie.DispatchOutcome
import Bitmonie.CollateralWebhook
import Bitmonie.LoanPayout
import Bitmonie.ActivePayout
import Bitmonie.KeyValueText
import Bitmonie.PalmpaySignature
import Bitmonie.EarlierRepayment
import Bitmonie.FixedScale
import Bitmonie.PersistedLedger
import Bitmonie.CollateralSeizure
import Bitmonie.LiquidationDecision
import Bitmonie.CollectionTrust
import Bitmonie.SmallPayoff
import Bitmonie.CollateralRedelivery
import Bitmonie.CollectionAccounting
import Bitmonie.SizedLoan
import Bitmonie.StatusHistory
import Bitmonie.CollateralBacking
import Bitmonie.SharedClock
import Bitmonie.PriceFeed
import Bitmonie.PriceFreshness
import Bitmonie.CoverageReaders
import Bitmonie.AuthStore
import Bitmonie.OneTimeCode
import Bitmonie.TransactionPin
import Bitmonie.PinGuessing
import Bitmonie.ReleaseAddress
import Bitmonie.AddressBinding
import Bitmonie.OpsAuth
import Bitmonie.OpsEnrolment
import Bitmonie.NameMatch
import Bitmonie.Kyc
import Bitmonie.KycTier
import Bitmonie.DisbursementAccounts
import Bitmonie.PayableLoans
import Bitmonie.CollateralTopUps
import Bitmonie.CheckoutFailure
import Bitmonie.IdempotencyInterceptor
import Bitmonie.IdempotencyOnce
import Bitmonie.Paging
import Bitmonie.Activity
import Bitmonie.ActivityPaging
import Bitmonie.TerminalOutcomes
import Bitmonie.SameDayCredits
import Bitmonie.DisplayedTotal
import Bitmonie.PayoffMatch
import Bitmonie.ClaimedInflow
import Bitmonie.TomorrowAccrual
import Bitmonie.LiquidationBatch
import Bitmonie.AttemptWrites
import Bitmonie.AttemptHistory
import Bitmonie.OneAttempt
import Bitmonie.TransferRecovery
import Bitmonie.CollateralPrecision
import Bitmonie.ReleaseBacklog
import Bitmonie.WebhookRedaction
import Bitmonie.AccountBook
import Bitmonie.StableMatching
import Bitmonie.JaroMatching
import Bitmonie.NameComparison
import Bitmonie.NameOrder
import Bitmonie.Sessions
import Bitmonie.SessionSafety
import Bitmonie.LoginCodes
import Bitmonie.RepaymentAccounts
import Bitmonie.AccountHistory
import Bitmonie.ReconcilerCycle
import Bitmonie.ByteText
import Bitmonie.FirstClaims
import Bitmonie.CryptoService
import Bitmonie.RehashKyc
import Bitmonie.ReplayedCollections
import Bitmonie.JsonGrammar
import Bitmonie.BlinkSignature
import Bitmonie.BadRateLiquidations
import Bitmonie.Histories
import Bitmonie.Authenticators
