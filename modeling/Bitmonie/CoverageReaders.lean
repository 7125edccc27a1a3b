import Bitmonie.Collection
import Bitmonie.LiquidationDecision
import Bitmonie.PriceFeed

/-! What a customer is told about the coverage of a loan: the cards of the home screen, and
the page of the loan. Both go by the current rate of the satoshi, as the price feed answers,
and by the rows as they are at one instant. -/
namespace Bitmonie
open LoansService PriceFeed

inductive AttentionKind where
  | pendingCollateral | liquidationRisk | awaitingReleaseAddress
  deriving DecidableEq, Repr

structure AttentionCardDto where
  loanId : Nat
  kind : AttentionKind
  urgency : Nat
  title : String
  subtitle : String
  expiresAt : Option Time := none
  deriving DecidableEq

structure MeSummaryResponseDto where
  outstandingNgn : String
  dailyAccrualNgn : String
  activeLoanCount : Nat
  attention : List AttentionCardDto
  unmatchedInflowCount : Nat
  unmatchedInflowTotalNgn : String
  deriving DecidableEq

namespace MeService

def bpsDenominator : ℚ := 10000

def urgency : AttentionKind → Nat
  | .liquidationRisk => 100
  | .pendingCollateral => 80
  | .awaitingReleaseAddress => 30

def groupDigits : List Char → List Char
  | a :: b :: c :: d :: rest => a :: b :: c :: ',' :: groupDigits (d :: rest)
  | digits => digits

def toLocaleString (n : Int) : String :=
  (if n < 0 then "-" else "") ++ String.ofList (groupDigits (toString n.natAbs).toList.reverse).reverse

def formatNgn (amount : ℚ) : String := "₦" ++ toLocaleString ⌈amount⌉

def formatSat (amountSat : Nat) : String := toLocaleString amountSat

def loansOf (userId : Nat) (w : World) : List (Nat × Loan) :=
  findRows w.loans fun loan => loan.userId = userId ∧
    (loan.status = .pendingCollateral ∨ loan.status = .active ∨ loan.status = .repaid)

def withStatus (status : LoanStatus) (loans : List (Nat × Loan)) : List (Nat × Loan) :=
  loans.filter fun row => row.2.status = status

/-- When the request of the loan that is open expires; of several the last one counts. -/
def expiryOf (w : World) (loanId : Nat) : Option Time :=
  ((w.paymentRequests.filter fun request => request.sourceType = .loan ∧ request.sourceId = loanId ∧
    request.status = .pending).getLast?).map (·.expiresAt)

def pendingCard (w : World) (row : Nat × Loan) : AttentionCardDto where
  loanId := row.1
  kind := .pendingCollateral
  urgency := urgency .pendingCollateral
  title := "Send " ++ formatSat row.2.collateralAmountSat ++ " SAT"
  subtitle := "Pay to start your " ++ formatNgn row.2.principalNgn ++ " loan"
  expiresAt := expiryOf w row.1

def collateralNgn (satNgn : CurrentRate) (loan : Loan) : ℚ :=
  loan.collateralAmountSat * satNgn.rateBuy / satsPerBtc

def riskCard (satNgn : CurrentRate) (row : Nat × Loan) (outstanding : ℚ) : Option AttentionCardDto :=
  if outstanding ≤ 0 then none
  else if collateralNgn satNgn row.2 < outstanding * alertThreshold then some {
    loanId := row.1
    kind := .liquidationRisk
    urgency := urgency .liquidationRisk
    title := "Add collateral or repay"
    subtitle := "Bitcoin price has dropped — your loan is at risk of liquidation" }
  else none

def releaseCard (row : Nat × Loan) : Option AttentionCardDto :=
  if row.2.collateralReleaseAddress = none then some {
    loanId := row.1
    kind := .awaitingReleaseAddress
    urgency := urgency .awaitingReleaseAddress
    title := "Set a Lightning address"
    subtitle := "Get your " ++ formatSat row.2.collateralAmountSat ++ " SAT collateral back" }
  else none

/-- The more urgent one first, then the one that expires sooner; some never do. -/
def comesFirst (a b : AttentionCardDto) : Prop :=
  b.urgency < a.urgency ∨ (a.urgency = b.urgency ∧
    ∀ later, b.expiresAt = some later → ∃ sooner, a.expiresAt = some sooner ∧ sooner ≤ later)

instance (a b : AttentionCardDto) : Decidable (comesFirst a b) := by
  unfold comesFirst
  cases a.expiresAt <;> cases b.expiresAt <;> simp <;> infer_instance

def unmatchedOf (userId : Nat) (w : World) : List Inflow :=
  w.inflows.filter fun inflow => inflow.userId = some userId ∧ inflow.currency = .ngn ∧
    inflow.isMatched = false ∧ inflow.sourceType = none ∧ untrusted inflow = false

/-- Without an ACTIVE loan the rate is not asked for. -/
def riskCards (satNgn : Except AppError CurrentRate) (active : List (Nat × Loan))
    (outstanding : Nat × Loan → ℚ) : Except AppError (List AttentionCardDto) :=
  if active = [] then .ok []
  else satNgn.map fun satNgn => active.filterMap fun row => riskCard satNgn row (outstanding row)

def getSummary (userId : Nat) (asOf : Time) (satNgn : Except AppError CurrentRate) (w : World) :
    Except AppError MeSummaryResponseDto := do
  let loans := loansOf userId w
  let active := withStatus .active loans
  let result (row : Nat × Loan) := outstandingOf row.2 (repaymentsOf w row.1) asOf
  let dailyInterest (row : Nat × Loan) :=
    (result row).principalNgn * (row.2.dailyInterestRateBps / bpsDenominator)
  let pendingCards := (withStatus .pendingCollateral loans).map (pendingCard w)
  let riskCards ← riskCards satNgn active fun row => (result row).totalOutstandingNgn
  let releaseCards := (withStatus .repaid loans).filterMap releaseCard
  let unmatched := unmatchedOf userId w
  return {
    outstandingNgn := displayNgn (active.map fun row => (result row).totalOutstandingNgn).sum .ceil
    dailyAccrualNgn := displayNgn (active.map dailyInterest).sum .ceil
    activeLoanCount := active.length
    attention := (pendingCards ++ riskCards ++ releaseCards).insertionSort comesFirst
    unmatchedInflowCount := unmatched.length
    unmatchedInflowTotalNgn := displayNgn (unmatched.map (·.amount)).sum .ceil }

end MeService

structure OutstandingDisplay where
  principalNgn : String
  accruedInterestNgn : String
  accruedCustodyNgn : String
  totalOutstandingNgn : String
  daysElapsed : Nat
  deriving DecidableEq

structure OpenPaymentRequest where
  bolt11 : String
  paymentUri : String
  receivingAddress : String
  expiresAt : Time
  amountSat : String
  deriving DecidableEq

structure LoanDetail where
  loan : Loan
  statusLogs : List LoanStatusLog
  disbursementAccount : Option DisbursementAccount
  repayments : List LoanRepayment
  outstanding : OutstandingDisplay
  coverageRatio : Option String
  daysActive : Int
  marginCallActive : Bool
  paymentRequest : Option OpenPaymentRequest
  deriving DecidableEq

namespace LoansService

/-- The value of the collateral by what is owed; there is none when nothing is. -/
def coverage (satRates : CurrentRate) (loan : Loan) (totalOutstandingNgn : ℚ) : Option ℚ :=
  if 0 < totalOutstandingNgn then
    some (loan.collateralAmountSat * satRates.rateSell / totalOutstandingNgn)
  else none

def isCovered (loan : Loan) : Bool := loan.status = .active && loan.collateralReceivedAt.isSome

def coverageRatio (satRates : Except AppError CurrentRate) (loan : Loan) (totalOutstandingNgn : ℚ) :
    Option String :=
  if isCovered loan then
    (satRates.toOption.bind fun satRates => coverage satRates loan totalOutstandingNgn).map (toFixed 4)
  else none

def openRequestOf (loanId : Nat) (loan : Loan) (w : World) : Option OpenPaymentRequest :=
  if loan.status = .pendingCollateral then
    (w.paymentRequests.find? fun request => request.sourceType = .loan ∧
      request.sourceId = loanId ∧ request.status = .pending).map fun request =>
      { bolt11 := request.paymentRequest
        paymentUri := if request.paymentRequest = "" then "" else "lightning:" ++ request.paymentRequest
        receivingAddress := request.receivingAddress
        expiresAt := request.expiresAt
        amountSat := toString loan.collateralAmountSat }
  else none

/-- `marginCallNotified` is what Redis answers about the key of the loan. -/
def getLoan (userId loanId : Nat) (asOf : Time) (satRates : Except AppError CurrentRate)
    (marginCallNotified : Except AppError Bool) (w : World) : Except AppError LoanDetail := do
  let loan ← findLoan userId loanId w
  let repayments := repaymentsOf w loanId
  let outstanding := outstandingOf loan repayments asOf
  return {
    loan := loan
    statusLogs := w.statusLogs.filter fun log => log.loanId = loanId
    disbursementAccount := w.disbursementAccounts[loan.disbursementAccountId]?
    repayments := repayments
    outstanding := {
      principalNgn := displayNgn outstanding.principalNgn .ceil
      accruedInterestNgn := displayNgn outstanding.accruedInterestNgn .ceil
      accruedCustodyNgn := displayNgn outstanding.accruedCustodyNgn .ceil
      totalOutstandingNgn := displayNgn outstanding.totalOutstandingNgn .ceil
      daysElapsed := outstanding.daysElapsed }
    coverageRatio := coverageRatio satRates loan outstanding.totalOutstandingNgn
    daysActive := (loan.collateralReceivedAt.map fun start => (asOf - start) / 86400000).getD 0
    marginCallActive := isCovered loan && marginCallNotified.toOption.getD false
    paymentRequest := openRequestOf loanId loan w }

end LoansService

namespace CoverageReaders
open LiquidationMonitor LiquidationDecision MeService LoansService

/-- The home screen warns about the loan. -/
def AtRisk (summary : MeSummaryResponseDto) (loanId : Nat) : Prop :=
  ∃ card ∈ summary.attention, card.loanId = loanId ∧ card.kind = .liquidationRisk

/-- Nothing is owed, or the collateral does not cover it, at rates for a satoshi whose spread
is less than the number of satoshis in a bitcoin. -/
def Short (satNgn : CurrentRate) (loan : Loan) (totalOutstandingNgn : ℚ) : Prop :=
  totalOutstandingNgn ≤ 0 ∨
    satNgn.rateBuy ≤ satsPerBtc * satNgn.rateSell ∧
      loan.collateralAmountSat * satNgn.rateSell < totalOutstandingNgn * alertThreshold

/-- The collateral is worth what is owed as often as there are satoshis in a bitcoin. -/
def Ample (satNgn : CurrentRate) (loan : Loan) (totalOutstandingNgn : ℚ) : Prop :=
  satsPerBtc * (totalOutstandingNgn * alertThreshold) ≤ loan.collateralAmountSat * satNgn.rateBuy

/-- The home screen warns about the loan when the coverage on its page is too low, and whenever
the monitor would liquidate it at that rate. -/
def Agree (summary : MeSummaryResponseDto) (satNgn : CurrentRate) (asOf : Time) (loanId : Nat)
    (loan : Loan) (repayments : List LoanRepayment) : Prop :=
  (AtRisk summary loanId ↔ ∃ ratio,
      coverage satNgn loan (outstandingOf loan repayments asOf).totalOutstandingNgn = some ratio ∧
        ratio < alertThreshold) ∧
    (shouldLiquidate satNgn.rateSell loan repayments asOf = true → AtRisk summary loanId)

section Cards
variable {userId loanId : Nat} {asOf : Time} {satNgn : CurrentRate} {w : World} {loan : Loan}

theorem riskCard_some {row : Nat × Loan} {outstanding : ℚ} {card : AttentionCardDto}
    (emitted : riskCard satNgn row outstanding = some card) :
    card.loanId = row.1 ∧ card.kind = .liquidationRisk := by
  unfold riskCard at emitted
  split at emitted
  · cases emitted
  · split at emitted
    · obtain rfl := Option.some.inj emitted
      exact ⟨rfl, rfl⟩
    · cases emitted

theorem releaseCard_kind {row : Nat × Loan} {card : AttentionCardDto}
    (emitted : releaseCard row = some card) : card.kind = .awaitingReleaseAddress := by
  unfold releaseCard at emitted
  split at emitted
  · obtain rfl := Option.some.inj emitted
    rfl
  · cases emitted

theorem riskCard_isSome (row : Nat × Loan) {outstanding : ℚ} :
    (∃ card, riskCard satNgn row outstanding = some card) ↔
      0 < outstanding ∧ collateralNgn satNgn row.2 < outstanding * alertThreshold := by
  unfold riskCard
  split
  · rename_i settled
    simp [not_lt.mpr settled]
  · rename_i owed
    split
    · rename_i below
      simp [not_le.mp owed, below]
    · rename_i above
      simp [above]

/-- An ACTIVE loan is one of those the home screen goes through. -/
theorem mem_active (found : w.loans[loanId]? = some loan) (owner : loan.userId = userId)
    (active : loan.status = .active) : (loanId, loan) ∈ withStatus .active (loansOf userId w) := by
  refine List.mem_filter.mpr ⟨mem_findRows.mpr ⟨found, ?_⟩, ?_⟩
  · simp [owner, active]
  · simp [active]

theorem loan_of_active {row : Nat × Loan} (member : row ∈ withStatus .active (loansOf userId w)) :
    w.loans[row.1]? = some row.2 :=
  (mem_findRows.mp (List.mem_filter.mp member).1).1

theorem getSummary_of_active (asOf : Time) (satNgn : CurrentRate)
    (found : w.loans[loanId]? = some loan) (owner : loan.userId = userId)
    (active : loan.status = .active) :
    ∃ summary, getSummary userId asOf (.ok satNgn) w = .ok summary ∧ (AtRisk summary loanId ↔
      let total := (outstandingOf loan (repaymentsOf w loanId) asOf).totalOutstandingNgn
      0 < total ∧ collateralNgn satNgn loan < total * alertThreshold) := by
  have member := mem_active found owner active
  have some_active : withStatus .active (loansOf userId w) ≠ [] := List.ne_nil_of_mem member
  refine ⟨_, by rw [getSummary, riskCards, if_neg some_active]; rfl, ?_⟩
  dsimp only
  rw [← riskCard_isSome (loanId, loan)]
  constructor
  · rintro ⟨card, shown, same, kind⟩
    rw [List.mem_insertionSort, List.mem_append, List.mem_append] at shown
    rcases shown with (pending | risk) | release
    · obtain ⟨row, _, rfl⟩ := List.mem_map.mp pending
      cases kind
    · obtain ⟨row, active, emitted⟩ := List.mem_filterMap.mp risk
      have here := loan_of_active active
      rw [← (riskCard_some emitted).1, same, found] at here
      obtain rfl := Option.some.inj here
      obtain rfl : row.1 = loanId := (riskCard_some emitted).1.symm.trans same
      exact ⟨card, emitted⟩
    · obtain ⟨row, _, emitted⟩ := List.mem_filterMap.mp release
      cases kind.symm.trans (releaseCard_kind emitted)
  · rintro ⟨card, emitted⟩
    refine ⟨card, ?_, riskCard_some emitted⟩
    rw [List.mem_insertionSort, List.mem_append, List.mem_append]
    exact .inl (.inr (List.mem_filterMap.mpr ⟨_, member, emitted⟩))

theorem getLoan_of_active {start : Time} (asOf : Time) (satNgn : CurrentRate)
    (notified : Except AppError Bool) (found : w.loans[loanId]? = some loan) (owner : loan.userId = userId)
    (active : loan.status = .active) (since : loan.collateralReceivedAt = some start) :
    ∃ detail, getLoan userId loanId asOf (.ok satNgn) notified w = .ok detail ∧
      detail.coverageRatio = (coverage satNgn loan
        (outstandingOf loan (repaymentsOf w loanId) asOf).totalOutstandingNgn).map (toFixed 4) := by
  have here : findLoan userId loanId w = .ok loan := by simp [findLoan, found, owner]
  refine ⟨_, by rw [getLoan, here]; rfl, ?_⟩
  simp [coverageRatio, isCovered, active, since, Except.toOption]

/-- A loan whose collateral is held owes nothing negative. -/
theorem owed_nonneg {start : Time} (since : loan.collateralReceivedAt = some start)
    (repayments : List LoanRepayment) :
    0 ≤ (outstandingOf loan repayments asOf).totalOutstandingNgn := by
  have input : (accrualInput loan).collateralReceivedAt = some start := since
  simp only [outstandingOf, AccrualService.compute, input, add_zero]
  exact add_nonneg (le_max_right _ _) (le_max_right _ _)

theorem coverage_below {total : ℚ} :
    (∃ ratio, coverage satNgn loan total = some ratio ∧ ratio < alertThreshold) ↔
      0 < total ∧ loan.collateralAmountSat * satNgn.rateSell < total * alertThreshold := by
  unfold coverage
  split
  · rename_i owed
    simp only [Option.some.injEq, exists_eq_left', owed, true_and]
    rw [div_lt_iff₀ owed, mul_comm total]
  · rename_i settled
    simp [settled]

/-- What the monitor liquidates is below the threshold of the page. -/
theorem below_of_shouldLiquidate {repayments : List LoanRepayment}
    (nonneg : 0 ≤ (outstandingOf loan repayments asOf).totalOutstandingNgn)
    (liquidates : shouldLiquidate satNgn.rateSell loan repayments asOf = true) :
    let total := (outstandingOf loan repayments asOf).totalOutstandingNgn
    0 < total ∧ loan.collateralAmountSat * satNgn.rateSell < total * alertThreshold := by
  unfold shouldLiquidate currentValueNgn at liquidates
  split at liquidates
  · cases liquidates
  · obtain ⟨owed, uncovered⟩ := (ratioAtMost_iff nonneg).mp liquidates
    refine ⟨owed, uncovered.trans_lt ?_⟩
    rw [mul_comm]
    exact mul_lt_mul_of_pos_left (by norm_num [liquidationThreshold, alertThreshold]) owed

/-- What the page has below the floor, the home screen has far below it. -/
theorem warned_of_short {total : ℚ} (short : Short satNgn loan total) :
    (0 < total ∧ collateralNgn satNgn loan < total * alertThreshold) ↔
      (0 < total ∧ loan.collateralAmountSat * satNgn.rateSell < total * alertThreshold) := by
  rcases short with settled | ⟨rates, below⟩
  · exact iff_of_false (fun owed => not_lt.mpr settled owed.1) fun owed => not_lt.mpr settled owed.1
  · have far : collateralNgn satNgn loan ≤ loan.collateralAmountSat * satNgn.rateSell := by
      have nonneg : (0 : ℚ) ≤ loan.collateralAmountSat := Nat.cast_nonneg _
      rw [collateralNgn, div_le_iff₀ (by norm_num [satsPerBtc]), mul_assoc, mul_comm satNgn.rateSell]
      exact mul_le_mul_of_nonneg_left rates nonneg
    exact and_congr_right fun _ => iff_of_true (far.trans_lt below) below

/-- The home screen warns about every loan whose collateral is not ample. -/
theorem warned_of_not_ample {total : ℚ} (ample : ¬Ample satNgn loan total) :
    collateralNgn satNgn loan < total * alertThreshold := by
  rw [Ample, not_le] at ample
  rwa [collateralNgn, div_lt_iff₀ (by norm_num [satsPerBtc]), mul_comm (total * _)]

end Cards

/-- At one rate the home screen warns about an ACTIVE loan whenever its page has it below the
threshold or the monitor would liquidate it, and not otherwise, if the loan is short; of the
others only those with ample collateral are left without a warning. -/
theorem coverage_readers_agree {userId loanId : Nat} {asOf start : Time} {satNgn : CurrentRate}
    {notified : Except AppError Bool} {w : World} {loan : Loan}
    (found : w.loans[loanId]? = some loan) (owner : loan.userId = userId)
    (active : loan.status = .active) (since : loan.collateralReceivedAt = some start) :
    let total := (outstandingOf loan (repaymentsOf w loanId) asOf).totalOutstandingNgn
    ∃ summary detail, getSummary userId asOf (.ok satNgn) w = .ok summary ∧
      getLoan userId loanId asOf (.ok satNgn) notified w = .ok detail ∧
      detail.coverageRatio = (coverage satNgn loan total).map (toFixed 4) ∧
      (Short satNgn loan total → Agree summary satNgn asOf loanId loan (repaymentsOf w loanId)) ∧
      (satNgn.rateBuy ≤ satsPerBtc * satNgn.rateSell → ¬Ample satNgn loan total →
        Agree summary satNgn asOf loanId loan (repaymentsOf w loanId) → Short satNgn loan total) := by
  intro total
  obtain ⟨summary, summed, atRisk⟩ := getSummary_of_active asOf satNgn found owner active
  obtain ⟨detail, shown, ratio⟩ := getLoan_of_active asOf satNgn notified found owner active
    since
  refine ⟨summary, detail, summed, shown, ratio, ?_⟩
  have nonneg : 0 ≤ total := owed_nonneg since _
  rw [Agree, atRisk, coverage_below]
  constructor
  · intro short
    have same := warned_of_short short
    exact ⟨same, fun liquidates => same.mpr (below_of_shouldLiquidate nonneg liquidates)⟩
  · intro rates ample agree
    rcases le_or_gt total 0 with settled | owed
    · exact .inl settled
    · exact .inr ⟨rates, (agree.1.mp ⟨owed, warned_of_not_ample ample⟩).2⟩

def held : Loan where
  userId := 0
  disbursementAccountId := 0
  collateralAmountSat := 277778
  principalNgn := 100000
  satNgnRateAtCreation := 0.6
  status := .active
  collateralReceivedAt := some 0

def heldOnly : World := { loans := [held] }

def steady : CurrentRate := ⟨0.6, 0.6⟩

def crashed : CurrentRate := ⟨0.3, 0.3⟩

theorem crashed_short : Short crashed held
    (outstandingOf held (repaymentsOf heldOnly 0) 0).totalOutstandingNgn := by
  unfold Short
  decide +kernel

theorem coverage_readers_agree_sample : ∃ summary,
    getSummary 0 0 (.ok crashed) heldOnly = .ok summary ∧
    (AtRisk summary 0 ↔ ∃ ratio, coverage crashed held
      (outstandingOf held (repaymentsOf heldOnly 0) 0).totalOutstandingNgn = some ratio ∧
        ratio < alertThreshold) := by
  obtain ⟨summary, _, summed, _, _, agrees, _⟩ := @coverage_readers_agree 0 0 0 0 crashed
    (.ok false) heldOnly held rfl rfl rfl rfl
  exact ⟨summary, summed, (agrees crashed_short).1⟩

/-- The collateral is worth a good 1.6 times what is owed, and the home screen warns. -/
theorem warned_though_covered : ∃ summary,
    getSummary 0 0 (.ok steady) heldOnly = .ok summary ∧ AtRisk summary 0 ∧
    ∃ ratio, coverage steady held
      (outstandingOf held (repaymentsOf heldOnly 0) 0).totalOutstandingNgn = some ratio ∧
        1.6 < ratio ∧ ¬ ratio < alertThreshold := by
  have found : heldOnly.loans[0]? = some held := rfl
  obtain ⟨summary, summed, atRisk⟩ := getSummary_of_active 0 steady found rfl rfl
  refine ⟨summary, summed, atRisk.mpr (by decide +kernel), _, if_pos (by decide +kernel), ?_⟩
  decide +kernel

end CoverageReaders

end Bitmonie
