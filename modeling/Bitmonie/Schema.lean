import Mathlib.Data.Rat.Floor
import Mathlib.Algebra.Order.Field.Rat
import Bitmonie.Alone

/-! Rows, caches and providers of the loan system as one shared state. A row's id is
its position in its table, and nothing depends on the value of an id: rows are never
deleted, but for disbursement accounts, which keep their place. Decimals are exact. -/
namespace Bitmonie

/-- Milliseconds since the epoch. -/
abbrev Time := Int

def liquidationThreshold : ℚ := 11 / 10
def alertThreshold : ℚ := 12 / 10
def coverageWarnTier : ℚ := 12 / 10
def coverageMarginCallTier : ℚ := 115 / 100
def minLiquidationRateFraction : ℚ := 1 / 2
def loanLtvPercent : ℚ := 6 / 10
def dailyInterestRateBps : Int := 30
def originationFeePer100kNgn : ℚ := 0
def minLoanNgn : ℚ := 10000
def maxSelfserveLoanNgn : ℚ := 10000000
def minPartialRepaymentNgn : ℚ := 10000
def kycExemptionThresholdNgn : ℚ := 500000
def inflowOutstandingMatchToleranceNgn : ℚ := 1 / 2
def outflowProcessingStaleSec : Int := 300
def satsPerBtc : ℚ := 100000000

inductive LoanStatus where
  | pendingCollateral | active | repaid | liquidated | expired | cancelled
  deriving DecidableEq, Repr

inductive StatusTrigger where
  | customer | system | collateralWebhook | disbursementWebhook
  deriving DecidableEq, Repr

inductive LoanReasonCode where
  | loanCreated | collateralConfirmed | disbursementConfirmed | repaymentPartialNgn
  | repaymentCompleted | collateralToppedUp | collateralReleased | liquidationTriggered
  | liquidationCompleted | liquidationReversedBadRate | invoiceExpired | customerCancelled
  deriving DecidableEq, Repr

inductive RepaymentMethod where
  | ngn | sat
  deriving DecidableEq, Repr

structure Loan where
  userId : Nat
  disbursementAccountId : Nat
  collateralAmountSat : Nat
  ltvPercent : ℚ := loanLtvPercent
  principalNgn : ℚ
  originationFeeNgn : ℚ := 0
  dailyInterestRateBps : Int := dailyInterestRateBps
  dailyCustodyFeeNgn : ℚ := 0
  initialCollateralUsd : ℚ := 0
  satNgnRateAtCreation : ℚ
  status : LoanStatus := .pendingCollateral
  collateralReceivedAt : Option Time := none
  repaymentMethod : Option RepaymentMethod := none
  repaymentReference : Option Nat := none
  repaidAt : Option Time := none
  collateralReleaseAddress : Option String := none
  collateralReleasedAt : Option Time := none
  collateralReleaseReference : Option String := none
  liquidatedAt : Option Time := none
  liquidationRateActual : Option ℚ := none
  termsAcceptedAt : Time := 0
  createdAt : Time := 0
  deriving DecidableEq

structure LoanStatusLog where
  loanId : Nat
  userId : Nat
  fromStatus : Option LoanStatus
  toStatus : LoanStatus
  triggeredBy : StatusTrigger
  reasonCode : LoanReasonCode
  deriving DecidableEq

inductive MatchMethod where
  | autoAmount | customerClaim | opsManual
  deriving DecidableEq, Repr

structure LoanRepayment where
  loanId : Nat
  inflowId : Nat
  amountNgn : ℚ
  appliedToPrincipal : ℚ
  appliedToInterest : ℚ
  appliedToCustody : ℚ
  overpayNgn : ℚ
  matchMethod : MatchMethod
  createdAt : Time
  deriving DecidableEq

inductive SourceType where
  | loan | loanRepayment
  deriving DecidableEq, Repr

/-- `bitmonie_unmatched_reason`, the marker kept in `provider_response`. -/
inductive UnmatchedReason where
  | noUserForVa | belowFloor | noActiveLoans | multipleActiveLoans | creditFailed
  | requeryUnconfirmed | requeryMismatch
  deriving DecidableEq, Repr

inductive Currency where
  | sat | ngn
  deriving DecidableEq, Repr

/-- `unmatchedReason` and `signatureOnly` are the markers of `provider_response`. -/
structure Inflow where
  userId : Option Nat
  amount : ℚ
  currency : Currency
  receivingAddress : String
  providerReference : String
  isMatched : Bool := false
  matchedAt : Option Time := none
  sourceType : Option SourceType := none
  sourceId : Option Nat := none
  unmatchedReason : Option UnmatchedReason := none
  signatureOnly : Bool := false
  createdAt : Time
  deriving DecidableEq

inductive PaymentRequestStatus where
  | pending | paid | expired | cancelled
  deriving DecidableEq, Repr

structure PaymentRequest where
  userId : Nat
  sourceType : SourceType
  sourceId : Nat
  expectedAmount : Nat
  receivingAddress : String
  paymentRequest : String
  providerReference : String
  status : PaymentRequestStatus := .pending
  expiresAt : Time
  paidAt : Option Time := none
  inflowId : Option Nat := none
  deriving DecidableEq

inductive DisbursementAccountKind where
  | bank | mobileMoney | cryptoAddress
  deriving DecidableEq, Repr

inductive DisbursementAccountStatus where
  | pendingVerification | verified | rejected
  deriving DecidableEq, Repr

/-- A row that is `deleted` is there for its id alone. -/
structure DisbursementAccount where
  userId : Nat
  kind : DisbursementAccountKind
  providerName : String
  providerCode : String
  accountUnique : String
  accountUniqueTag : Option String := none
  label : Option String := none
  accountHolderName : Option String
  nameMatchScore : Option ℚ := none
  isDefault : Bool
  status : DisbursementAccountStatus
  verifiedAt : Option Time := none
  deleted : Bool := false
  deriving DecidableEq

inductive DisbursementStatus where
  | pending | processing | onHold | successful | cancelled
  deriving DecidableEq, Repr

inductive DisbursementRail where
  | bankTransfer | mobileMoney | lightning | onchain
  deriving DecidableEq, Repr

/-- `providerCode` is missing only on legacy rows. -/
structure Disbursement where
  userId : Nat
  sourceId : Nat
  amount : ℚ
  currency : Currency := .ngn
  disbursementRail : DisbursementRail := .bankTransfer
  providerName : String
  providerCode : Option String
  accountUnique : String
  accountName : Option String
  status : DisbursementStatus := .pending
  failureReason : Option String := none
  onHoldAt : Option Time := none
  onHoldAlertedAt : Option Time := none
  cancelledAt : Option Time := none
  cancelledByOpsUserId : Option Nat := none
  cancellationReason : Option String := none
  deriving DecidableEq

inductive OutflowStatus where
  | pending | processing | successful | failed
  deriving DecidableEq, Repr

/-- The two parts of the text `outflow-{attempt_number}-{disbursement_id}`. -/
structure OutflowReference where
  attemptNumber : Nat
  disbursementId : Nat
  deriving DecidableEq, Repr

structure Outflow where
  disbursementId : Nat
  userId : Nat
  attemptNumber : Nat
  provider : String
  providerReference : OutflowReference
  providerTxId : Option String := none
  status : OutflowStatus := .pending
  failureReason : Option String := none
  failureCode : Option String := none
  initiatedAt : Option Time := none
  confirmedAt : Option Time := none
  deriving DecidableEq

structure UserRepaymentAccount where
  userId : Nat
  virtualAccountNo : String
  deriving DecidableEq

inductive WebhookOutcome where
  | received | signatureInvalid | malformed | ignored | processed | deferred | error
  deriving DecidableEq, Repr

structure WebhookLog where
  provider : String
  outcome : WebhookOutcome := .received
  outcomeDetail : Option String := none
  signatureValid : Option Bool := none
  externalReference : Option String := none
  deriving DecidableEq

inductive OpsAlert where
  | unmatchedInflow (orderNo : String) (reason : UnmatchedReason)
  | signatureOnlyCredit (orderNo : String) (loanId : Nat)
  deriving DecidableEq

/-- What the payout provider holds under a reference. The two results are final. -/
inductive TransferState where
  | absent | accepted | completed | failed
  deriving DecidableEq, Repr

structure ConfirmedOrder where
  orderNo : String
  orderAmount : Int
  virtualAccountNo : Option String
  deriving DecidableEq

/-- Tables, Redis keys, row locks and provider books. The last group is auxiliary: the
model writes it and nothing of the source reads it. -/
structure World where
  loans : List Loan := []
  statusLogs : List LoanStatusLog := []
  repayments : List LoanRepayment := []
  inflows : List Inflow := []
  paymentRequests : List PaymentRequest := []
  disbursementAccounts : List DisbursementAccount := []
  disbursements : List Disbursement := []
  outflows : List Outflow := []
  repaymentAccounts : List UserRepaymentAccount := []
  webhookLogs : List WebhookLog := []
  /-- Pages that were sent. -/
  opsAlerts : List OpsAlert := []
  /-- `payment_request:pending:{receiving_address}` -/
  pendingRequest : String → Option Nat := fun _ => none
  /-- `collateral_release:lock:{loan_id}` -/
  releaseLock : Nat → Bool := fun _ => false
  /-- `collateral_release:alerted:{loan_id}` -/
  releaseAlerted : Nat → Bool := fun _ => false
  /-- Loan rows held `FOR UPDATE`, with the procedure that holds them. -/
  rowLock : Nat → Option Nat := fun _ => none
  transfers : OutflowReference → TransferState := fun _ => .absent
  /-- Collateral sends the provider accepted, by loan. -/
  sends : Nat → Nat := fun _ => 0
  /-- The address of the last of them. -/
  sentTo : Nat → Option String := fun _ => none
  /-- The procedure between its lock and its unlock of a loan's release. -/
  releasing : Nat → Option Nat := fun _ => none
  /-- The procedure between the two writes that settle an attempt of a disbursement. -/
  settling : Nat → Option Nat := fun _ => none
  /-- Procedures whose credit transaction committed. -/
  credited : List Nat := []
  /-- Collections that a re-query of their order confirmed. -/
  confirmed : List ConfirmedOrder := []
  /-- Stored orders of which a delivery ended in a mismatch, unconfirmed, or in a credit
  that failed and paged ops. -/
  setAside : List String := []
  /-- Calls that swap the collateral of a loan. -/
  swaps : Nat → Nat := fun _ => 0
  /-- The procedure between the liquidation of a loan and the swap of its collateral. -/
  seizing : Nat → Option Nat := fun _ => none

end Bitmonie
