import Bitmonie.LoanOperations
import Bitmonie.Payout

/-! From a checkout to a payout: the loan and its payment request, the collateral webhook
that matches the request and pays the loan out, and the second payout by ops. Memos, mails
and the webhook log are left out, and so is the network of a payment. -/
namespace Bitmonie

namespace CalculatorService

def alertThreshold : ℚ := 12 / 10
def hundredKNgn : ℚ := 100000
def bpsDenominator : ℚ := 10000

structure CalculatorInput where
  principalNgn : ℚ
  satNgnRate : ℚ
  btcUsdRate : ℚ

structure CalculatorResult where
  principalNgn : ℚ
  originationFeeNgn : ℚ
  dailyCustodyFeeNgn : ℚ
  dailyInterestRateBps : Int
  dailyInterestNgn : ℚ
  collateralAmountSat : Nat
  initialCollateralUsd : ℚ
  ltvPercent : ℚ
  satNgnRateAtCreation : ℚ
  amountToReceiveNgn : ℚ
  initialLiquidationRateNgn : ℚ
  initialAlertRateNgn : ℚ

def validate (input : CalculatorInput) : Except AppError Unit :=
  if input.satNgnRate ≤ 0 ∨ input.btcUsdRate ≤ 0 then .error (.priceFeedStale 0)
  else if input.principalNgn < minLoanNgn then .error (.loanAmountTooLow (displayNgn minLoanNgn .floor))
  else if maxSelfserveLoanNgn < input.principalNgn then
    .error (.loanAmountTooHigh (displayNgn maxSelfserveLoanNgn .floor))
  else .ok ()

/-- Fractions of a satoshi are rounded up. -/
def calculate (input : CalculatorInput) : Except AppError CalculatorResult := do
  validate input
  let collateralAmountSat := ⌈input.principalNgn / loanLtvPercent / input.satNgnRate⌉.toNat
  let originationUnits : ℚ := ⌈input.principalNgn / hundredKNgn⌉
  let originationFeeNgn := originationUnits * originationFeePer100kNgn
  return {
    principalNgn := input.principalNgn
    originationFeeNgn := originationFeeNgn
    dailyCustodyFeeNgn := 0
    dailyInterestRateBps := dailyInterestRateBps
    dailyInterestNgn := input.principalNgn * dailyInterestRateBps / bpsDenominator
    collateralAmountSat := collateralAmountSat
    initialCollateralUsd := collateralAmountSat / satsPerBtc * input.btcUsdRate
    ltvPercent := loanLtvPercent
    satNgnRateAtCreation := input.satNgnRate
    amountToReceiveNgn := input.principalNgn - originationFeeNgn
    initialLiquidationRateNgn := input.principalNgn * liquidationThreshold / collateralAmountSat
    initialAlertRateNgn := input.principalNgn * alertThreshold / collateralAmountSat }

end CalculatorService

namespace PaymentRequestsService

def collateralInvoiceExpirySec : Int := 1800

structure CreatePaymentRequestParams where
  userId : Nat
  sourceType : SourceType
  sourceId : Nat
  collateralSat : Nat

structure CollateralInvoice where
  providerReference : String
  paymentRequest : String
  receivingAddress : String
  expiresAt : Time

def createInvoice : Action CollateralInvoice :=
  query fun i _ => .ok ⟨i.text, i.message.getD "", i.text, i.now + collateralInvoiceExpirySec * 1000⟩

def requestRow (params : CreatePaymentRequestParams) (invoice : CollateralInvoice) :
    PaymentRequest where
  userId := params.userId
  sourceType := params.sourceType
  sourceId := params.sourceId
  expectedAmount := params.collateralSat
  receivingAddress := invoice.receivingAddress
  paymentRequest := invoice.paymentRequest
  providerReference := invoice.providerReference
  expiresAt := invoice.expiresAt

def insertRequest (row : PaymentRequest) : Action Nat :=
  commit (.createPaymentRequest row.sourceId) (fun _ => true) fun _ w =>
    .ok (w.paymentRequests.length, { w with paymentRequests := w.paymentRequests ++ [row] })

def setPending (receivingAddress : String) (entry : Option Nat) : Action Time :=
  commit .redis (fun _ => true) fun i w => .ok (i.now,
    { w with pendingRequest := Function.update w.pendingRequest receivingAddress entry })

/-- Invoice, row, then the cache of its address. -/
def create (params : CreatePaymentRequestParams) : Action PaymentRequest :=
  createInvoice.bind fun invoice =>
  (insertRequest (requestRow params invoice)).bind fun id =>
  (setPending invoice.receivingAddress (some id)).bind fun _ =>
  .pure (requestRow params invoice)

/-- A cached id whose time has run out (`lost`) is an absent one. -/
def cachedRequest (receivingAddress : String) : Action (Option Nat) :=
  query fun i w => .ok (if i.lost then none else w.pendingRequest receivingAddress)

/-- By the cached id if there is one, else by the address. -/
def findPendingByReceivingAddress (receivingAddress : String) :
    Action (Option (Nat × PaymentRequest)) :=
  (cachedRequest receivingAddress).bind fun cachedId =>
  query fun _ w => .ok (match cachedId with
    | some id => (w.paymentRequests[id]?).bind fun request =>
        if request.status = .pending then some (id, request) else none
    | none => findRow w.paymentRequests fun request =>
        request.receivingAddress = receivingAddress && request.status = .pending)

def paidRequest (inflowId : Nat) (now : Time) (request : PaymentRequest) : PaymentRequest :=
  { request with status := .paid, inflowId := some inflowId, paidAt := some now }

def matchedInflow (request : PaymentRequest) (now : Time) (inflow : Inflow) : Inflow :=
  { inflow with
    isMatched := true
    matchedAt := some now
    sourceType := some request.sourceType
    sourceId := some request.sourceId
    userId := some request.userId }

/-- The transaction: the request is updated by id, whatever its status is now; `inflow_id`
is unique. -/
def writeMatch (id : Nat) (request : PaymentRequest) (inflowId : Nat) (now : Time) (w : World) :
    Except AppError World :=
  if w.paymentRequests.zipIdx.any fun row => row.2 ≠ id && row.1.inflowId = some inflowId then
    .error .uniqueViolation
  else do
    let paymentRequests ← updateRow w.paymentRequests id (paidRequest inflowId now)
    let inflows ← updateRow w.inflows inflowId (matchedInflow request now)
    return { w with paymentRequests := paymentRequests, inflows := inflows }

theorem writeMatch_ok {id inflowId : Nat} {request : PaymentRequest} {now : Time} {w w' : World}
    (done : writeMatch id request inflowId now w = .ok w') :
    ∃ stored inflow, w.paymentRequests[id]? = some stored ∧ w.inflows[inflowId]? = some inflow ∧
      w' = { w with
        paymentRequests := w.paymentRequests.set id (paidRequest inflowId now stored)
        inflows := w.inflows.set inflowId (matchedInflow request now inflow) } := by
  unfold writeMatch at done
  split at done
  · cases done
  obtain ⟨requests, paid, done⟩ := bind_ok.mp done
  obtain ⟨inflows, matched, done⟩ := bind_ok.mp done
  obtain ⟨stored, present, rfl⟩ := updateRow_ok.mp paid
  obtain ⟨inflow, found, rfl⟩ := updateRow_ok.mp matched
  exact ⟨stored, inflow, present, found, (Except.ok.inj done).symm⟩

/-- It returns the instant after the key is deleted. -/
def matchInflow (id : Nat) (request : PaymentRequest) (inflowId : Nat) : Action Time :=
  (commit (.matchInflow id request.sourceId) (fun _ => true) fun i w =>
    (writeMatch id request inflowId i.now w).map ((), ·)).bind fun _ =>
  setPending request.receivingAddress none

end PaymentRequestsService

namespace LoansService
open LoanStatusService CalculatorService PaymentRequestsService

structure User where
  id : Nat
  loanEnabled : Bool := true
  disbursementEnabled : Bool := true
  kycTier : Nat := 0

/-- The terms are accepted: the request was refused otherwise. -/
structure CheckoutLoanDto where
  principalNgn : ℚ
  disbursementAccountId : Option Nat := none
  collateralReleaseAddress : Option String := none

structure FeeBreakdown where
  originationFeeNgn : String
  dailyCustodyFeeNgn : String
  dailyInterestRateBps : Int
  dailyInterestNgn : String
  dailyTotalNgn : String
  amountToReceiveNgn : String

structure CheckoutLoanResult where
  loanId : Nat
  collateralAmountSat : Nat
  paymentRequest : String
  paymentUri : String
  receivingAddress : String
  expiresAt : Time
  feeBreakdown : FeeBreakdown

def hasPendingLoan (userId : Nat) (w : World) : Bool :=
  w.loans.any fun loan => loan.userId = userId && loan.status = .pendingCollateral

/-- `where: { user_id }` finds no deleted row. -/
def owned (userId : Nat) (account : DisbursementAccount) : Bool :=
  account.userId = userId && !account.deleted

/-- An account that is named may be of any kind. -/
def resolveDefaultAccount (userId : Nat) (accountId : Option Nat) (w : World) :
    Except AppError (Nat × DisbursementAccount) :=
  let found := match accountId with
    | some id => (w.disbursementAccounts[id]?).bind fun account =>
        if owned userId account && account.status = .verified then some (id, account) else none
    | none => findRow w.disbursementAccounts fun account =>
        owned userId account && account.isDefault && account.status = .verified &&
          account.kind ≠ .cryptoAddress
  match found with
  | none => .error .loanDisbursementAccountRequired
  | some account => .ok account

/-- The account that is found is one of the user's, and a default that is not named is no
address on a chain. -/
theorem resolveDefaultAccount_ok {userId : Nat} {named : Option Nat} {w : World}
    {found : Nat × DisbursementAccount} (done : resolveDefaultAccount userId named w = .ok found) :
    w.disbursementAccounts[found.1]? = some found.2 ∧ owned userId found.2 = true ∧
      (∀ accountId, named = some accountId → found.1 = accountId) ∧
      (named = none → found.2.kind ≠ .cryptoAddress) := by
  unfold resolveDefaultAccount at done
  cases named with
  | none =>
    dsimp only at done
    split at done
    · cases done
    rename_i read there
    obtain rfl := Except.ok.inj done
    obtain ⟨present, holds⟩ := findRow_some there
    simp only [Bool.and_eq_true, decide_eq_true_eq] at holds
    exact ⟨present, holds.1.1.1, nofun, fun _ => holds.2⟩
  | some accountId =>
    dsimp only at done
    split at done
    · cases done
    rename_i read there
    obtain rfl := Except.ok.inj done
    obtain ⟨account, present, there⟩ := Option.bind_eq_some_iff.mp there
    split at there
    · rename_i holds
      obtain rfl := Option.some.inj there
      simp only [Bool.and_eq_true] at holds
      exact ⟨present, holds.1, fun other same => Option.some.inj same, nofun⟩
    · cases there

/-- A feed or a quote that cannot be had throws an error of its own. -/
def currentRates : Action (ℚ × ℚ) :=
  query fun i _ => match i.rate, i.btcUsdRate with
    | some satNgnRate, some btcUsdRate => .ok (satNgnRate, btcUsdRate)
    | _, _ => .error (.failure i.text)

def loanRow (user : User) (dto : CheckoutLoanDto) (accountId : Nat) (quote : CalculatorResult)
    (now : Time) : Loan where
  userId := user.id
  disbursementAccountId := accountId
  collateralAmountSat := quote.collateralAmountSat
  ltvPercent := quote.ltvPercent
  principalNgn := dto.principalNgn
  originationFeeNgn := quote.originationFeeNgn
  dailyInterestRateBps := quote.dailyInterestRateBps
  dailyCustodyFeeNgn := quote.dailyCustodyFeeNgn
  initialCollateralUsd := quote.initialCollateralUsd
  satNgnRateAtCreation := quote.satNgnRateAtCreation
  collateralReleaseAddress := dto.collateralReleaseAddress
  termsAcceptedAt := now
  createdAt := now

def createTransition (userId loanId : Nat) : TransitionParams :=
  ⟨loanId, userId, none, .pendingCollateral, .customer, .loanCreated⟩

/-- The transaction: a user has one PENDING_COLLATERAL loan at most
(`loans_user_id_pending_unique`), and the account is still there. -/
def writeLoan (user : User) (row : Loan) (w : World) : Except AppError (Nat × World) :=
  if hasPendingLoan user.id w then .error .uniqueViolation
  else if !(w.disbursementAccounts[row.disbursementAccountId]?).any fun account => !account.deleted then
    .error .foreignKeyViolation
  else
    (transition (createTransition user.id w.loans.length) { w with loans := w.loans ++ [row] }).map
      (w.loans.length, ·)

theorem writeLoan_ok {user : User} {row : Loan} {w w' : World} {loanId : Nat}
    (done : writeLoan user row w = .ok (loanId, w')) : loanId = w.loans.length ∧
      (∃ account, w.disbursementAccounts[row.disbursementAccountId]? = some account ∧
        account.deleted = false) ∧
      w' = { w with
        loans := w.loans ++ [row]
        statusLogs := w.statusLogs ++ [(createTransition user.id w.loans.length).log] } := by
  unfold writeLoan at done
  obtain ⟨-, done⟩ := unless_ok.mp done
  obtain ⟨present, done⟩ := unless_ok.mp done
  obtain ⟨_, moved, rfl, rfl⟩ := map_pair_ok.mp done
  obtain ⟨loans, updated, rfl⟩ := transition_ok moved
  obtain rfl := Except.ok.inj updated
  refine ⟨rfl, ?_, rfl⟩
  simpa [Option.any_eq_true] using present

def createLoan (user : User) (dto : CheckoutLoanDto) (accountId : Nat) (quote : CalculatorResult) :
    Action Nat :=
  (commit (.createLoan user.id) (fun _ => true) fun i w =>
    writeLoan user (loanRow user dto accountId quote i.now) w).catching fun e =>
  .throw (if e = .uniqueViolation then .pendingLoanAlreadyExists else e)

def checkoutResult (loanId : Nat) (quote : CalculatorResult) (request : PaymentRequest) :
    CheckoutLoanResult where
  loanId := loanId
  collateralAmountSat := quote.collateralAmountSat
  paymentRequest := request.paymentRequest
  paymentUri := if request.paymentRequest = "" then "" else "lightning:" ++ request.paymentRequest
  receivingAddress := request.receivingAddress
  expiresAt := request.expiresAt
  feeBreakdown := {
    originationFeeNgn := displayNgn quote.originationFeeNgn .ceil
    dailyCustodyFeeNgn := displayNgn quote.dailyCustodyFeeNgn .ceil
    dailyInterestRateBps := quote.dailyInterestRateBps
    dailyInterestNgn := displayNgn quote.dailyInterestNgn .ceil
    dailyTotalNgn := displayNgn (quote.dailyInterestNgn + quote.dailyCustodyFeeNgn) .ceil
    amountToReceiveNgn := displayNgn quote.amountToReceiveNgn .floor }

/-- What the user may do is decided before anything is read. -/
def checkoutGuard (user : User) (dto : CheckoutLoanDto) : Except AppError Unit :=
  if !user.loanEnabled then .error .loanDisabled
  else if !user.disbursementEnabled then .error .disbursementDisabled
  else if kycExemptionThresholdNgn < dto.principalNgn ∧ user.kycTier < 1 then
    .error (.kycUpgradeRequired 1)
  else .ok ()

/-- The loan with its request: if the request cannot be made, the loan stays without one. -/
def openLoan (user : User) (dto : CheckoutLoanDto) (accountId : Nat) (quote : CalculatorResult) :
    Action CheckoutLoanResult :=
  (createLoan user dto accountId quote).bind fun loanId =>
  ((create ⟨user.id, .loan, loanId, quote.collateralAmountSat⟩).catching fun _ =>
    .throw .collateralInvoiceFailed).bind fun request =>
  -- `notifyLoanCreated` reads the user before it sends.
  (query fun _ _ => .ok ()).bind fun _ => .pure (checkoutResult loanId quote request)

def readAccount (user : User) (dto : CheckoutLoanDto) : Action (Nat × DisbursementAccount) :=
  queryAs (.readAccount user.id user.kycTier dto.disbursementAccountId) fun _ w =>
    resolveDefaultAccount user.id dto.disbursementAccountId w

def checkoutLoan (user : User) (dto : CheckoutLoanDto) : Action CheckoutLoanResult :=
  (Proc.ofExcept (checkoutGuard user dto)).bind fun _ =>
  (query fun _ w => .ok (hasPendingLoan user.id w)).bind fun existingPending =>
  if existingPending then .throw .pendingLoanAlreadyExists
  else
    (readAccount user dto).bind fun disburseAccount =>
    if 1 ≤ user.kycTier ∧ disburseAccount.2.accountHolderName = none then
      .throw .disbursementAccountUnverified
    else
      currentRates.bind fun rates =>
      (Proc.ofExcept (calculate ⟨dto.principalNgn, rates.1, rates.2⟩)).bind fun quote =>
      openLoan user dto disburseAccount.1 quote

section Meets
variable {c : Contract World Answer Access} {w : World}

/-- A contract of a request comes from its row and its cache entry. -/
theorem create_meets {params : CreatePaymentRequestParams} {fresh : World → Prop}
    (created : CollateralInvoice → Nat → World → Prop) (still : ∀ i t, c.guar .read i t t)
    (relies : ∀ s t, c.rely s t → fresh s → fresh t)
    (inserts : ∀ invoice t, fresh t → (insertRequest (requestRow params invoice)).Meets c
      (created invoice) (fun _ _ => True) t)
    (caches : ∀ invoice id t, created invoice id t →
      (setPending invoice.receivingAddress (some id)).Meets c (fun _ _ => True) (fun _ _ => True) t)
    (start : fresh w) : (create params).Meets c (fun _ _ => True) (fun _ _ => True) w := by
  rw [create, Proc.meets_bind]
  have asks : createInvoice.Looks (· = .read) := query_looks rfl
  apply (asks.meets relies (fun _ i t same => same ▸ still i t) start).imp _ fun _ _ _ => trivial
  intro invoice t here
  rw [Proc.meets_bind]
  apply (inserts invoice t here).imp _ fun _ _ h => h
  intro id u made
  rw [Proc.meets_bind]
  exact (caches invoice id u made).imp (fun _ _ _ => trivial) fun _ _ h => h

def acceptable (user : User) (account : DisbursementAccount) : Prop :=
  1 ≤ user.kycTier → account.accountHolderName ≠ none

/-- A contract of a checkout comes from the account it chooses, the loan it creates and the
request for it. -/
theorem checkoutLoan_meets_chosen {user : User} {dto : CheckoutLoanDto} {chosen : Nat → World → Prop}
    {opened : CalculatorResult → Nat → World → Prop} (still : ∀ i t, c.guar .read i t t)
    (chooses : ∀ t, (readAccount user dto).Meets c
      (fun account u => acceptable user account.2 → chosen account.1 u) (fun _ _ => True) t)
    (relies : ∀ accountId s t, c.rely s t → chosen accountId s → chosen accountId t)
    (creates : ∀ accountId quote t, chosen accountId t →
      (createLoan user dto accountId quote).Meets c (opened quote) (fun _ _ => True) t)
    (requests : ∀ quote loanId t, opened quote loanId t →
      (create ⟨user.id, .loan, loanId, quote.collateralAmountSat⟩).Meets c (fun _ _ => True)
        (fun _ _ => True) t) :
    (checkoutLoan user dto).Meets c (fun _ _ => True) (fun _ _ => True) w := by
  have reads {α : Type} {f : Answer → World → Except AppError α} {next : α → Action CheckoutLoanResult}
      {kept : World → Prop} (t : World) (here : kept t) (stays : ∀ s t, c.rely s t → kept s → kept t)
      (rest : ∀ a u, kept u → (next a).Meets c (fun _ _ => True) (fun _ _ => True) u) :
      ((query f).bind next).Meets c (fun _ _ => True) (fun _ _ => True) t := by
    rw [Proc.meets_bind]
    have looks : (query f).Looks (· = .read) := query_looks rfl
    exact (looks.meets stays (fun _ i t same => same ▸ still i t) here).imp rest
      fun _ _ _ => trivial
  have always (t : World) : (fun _ : World => True) t := trivial
  rw [checkoutLoan, Proc.meets_bind]
  cases checkoutGuard user dto with
  | error e => trivial
  | ok =>
    refine reads w (always w) (fun _ _ _ _ => trivial) fun existingPending t _ => ?_
    split
    · trivial
    refine (chooses t).seq fun account u chose => ?_
    split
    · trivial
    rename_i matched
    have chose : chosen account.1 u := chose fun verified none => matched ⟨verified, none⟩
    refine reads u chose (relies account.1) fun rates v chose => ?_
    rw [Proc.meets_bind]
    cases calculate ⟨dto.principalNgn, rates.1, rates.2⟩ with
    | error e => trivial
    | ok quote =>
      rw [Proc.ofExcept, Proc.meets_pure, openLoan, Proc.meets_bind]
      apply (creates account.1 quote v chose).imp _ fun _ _ h => h
      intro loanId x here
      rw [Proc.meets_bind, Proc.meets_catching]
      apply (requests quote loanId x here).imp
      · exact fun _ y _ => reads y (always y) (fun _ _ _ _ => trivial) fun _ _ _ => trivial
      · exact fun _ _ _ => trivial

/-- The same for any account. -/
theorem checkoutLoan_meets {user : User} {dto : CheckoutLoanDto}
    {opened : CalculatorResult → Nat → World → Prop} (still : ∀ i t, c.guar .read i t t)
    (looks : ∀ i t, c.guar (.readAccount user.id user.kycTier dto.disbursementAccountId) i t t)
    (creates : ∀ accountId quote t, (createLoan user dto accountId quote).Meets c (opened quote)
      (fun _ _ => True) t)
    (requests : ∀ quote loanId t, opened quote loanId t →
      (create ⟨user.id, .loan, loanId, quote.collateralAmountSat⟩).Meets c (fun _ _ => True)
        (fun _ _ => True) t) :
    (checkoutLoan user dto).Meets c (fun _ _ => True) (fun _ _ => True) w := by
  let chosen (_ : Nat) (_ : World) : Prop := True
  have chooses (t : World) : (readAccount user dto).Meets c
      (fun account u => acceptable user account.2 → chosen account.1 u) (fun _ _ => True) t :=
    queryAs_meets fun t _ _ i _ => ⟨looks i t, trivial, fun _ _ => trivial, fun _ _ _ => trivial⟩
  exact checkoutLoan_meets_chosen still chooses (fun _ _ _ _ _ => trivial)
    (fun accountId quote t _ => creates accountId quote t) requests

end Meets

end LoansService

namespace InflowsService
open PaymentRequestsService

structure IngestInflowParams where
  amount : ℚ
  receivingAddress : String
  providerReference : String

def ingestedRow (params : IngestInflowParams) (now : Time) : Inflow where
  userId := none
  amount := params.amount
  currency := .sat
  receivingAddress := params.receivingAddress
  providerReference := params.providerReference
  createdAt := now

def findInflow (providerReference : String) (w : World) : Except AppError (Nat × Inflow) :=
  match findRow w.inflows fun inflow => inflow.providerReference = providerReference with
  | none => .error .recordNotFound
  | some row => .ok row

/-- `provider_reference` is unique; a duplicate is answered with the stored row. -/
def createInflow (params : IngestInflowParams) : Action (Nat × Inflow) :=
  (commit (.createInflow params.providerReference) (fun _ => true) fun i w =>
    if w.inflows.any fun inflow => inflow.providerReference = params.providerReference then
      .error .uniqueViolation
    else .ok ((w.inflows.length, ingestedRow params i.now),
      { w with inflows := w.inflows ++ [ingestedRow params i.now] })).catching fun e =>
  if e = .uniqueViolation then query fun _ w => findInflow params.providerReference w
  else .throw e

/-- The inflow as it was before the match, and the request it was matched to, with the
instant after the match. -/
def ingest (params : IngestInflowParams) : Action (Inflow × Option (PaymentRequest × Time)) :=
  (createInflow params).bind fun inflow =>
  (findPendingByReceivingAddress params.receivingAddress).bind fun pending =>
  match pending with
  | none => .pure (inflow.2, none)
  | some request =>
    (matchInflow request.1 request.2 inflow.1).bind fun now =>
    .pure (inflow.2, some (request.2, now))

end InflowsService

namespace BlinkWebhook
open LoansService InflowsService DisbursementsService OutflowsService

/-- What a verified body holds of the fields that are looked at. -/
structure BlinkWebhookPayload where
  accountId : String
  eventType : String
  paymentHash : Option String
  txHash : Option String
  settlementAmount : ℚ

def loanWithAccount (userId loanId : Nat) (w : World) :
    Except AppError (Loan × DisbursementAccount) := do
  let loan ← findLoan userId loanId w
  match w.disbursementAccounts[loan.disbursementAccountId]? with
  | none => .error .recordNotFound
  | some account => .ok (loan, account)

/-- The customer receives the principal less the origination fee. -/
def disbursementRow (loanId : Nat) (loan : Loan) (account : DisbursementAccount) : Disbursement where
  userId := loan.userId
  sourceId := loanId
  amount := loan.principalNgn - loan.originationFeeNgn
  currency := .ngn
  disbursementRail := .bankTransfer
  providerName := account.providerName
  providerCode := some account.providerCode
  accountUnique := account.accountUnique
  accountName := account.accountHolderName

/-- Activation, the check, the disbursement and its dispatch; the status of the loan is not
looked at again. -/
def handleLoanCollateral (tid loanId userId : Nat) (matchedAt : Time) : Action Unit :=
  (activateLoan loanId matchedAt).bind fun _ =>
  (existsForLoan loanId).bind fun paidOut =>
  if paidOut then .pure ()
  else
    (query fun _ w => loanWithAccount userId loanId w).bind fun read =>
    (createForLoan (disbursementRow loanId read.1 read.2)).bind fun disbursementId =>
    dispatch tid disbursementId

/-- `_processVerified`, after the body is parsed. -/
def processVerified (tid : Nat) (ownAccount : String) (parsed : Option BlinkWebhookPayload) :
    Action HandlerOutcome :=
  match parsed with
  | none => .pure ⟨.malformed, "payload schema validation failed", none⟩
  | some payload =>
    if payload.accountId ≠ ownAccount then .pure ⟨.ignored, "accountId mismatch", none⟩
    else if !payload.eventType.startsWith "receive." then
      .pure ⟨.ignored, "non-receive event (" ++ payload.eventType ++ ")", none⟩
    else
      match payload.paymentHash.orElse fun _ => payload.txHash with
      | none | some "" => .pure ⟨.malformed, "missing payment hash", none⟩
      | some paymentHash =>
        (ingest ⟨payload.settlementAmount, paymentHash, paymentHash⟩).bind fun ingested =>
        match ingested.2 with
        | none => .pure ⟨.ignored, "inflow unmatched (no payment_request)", some paymentHash⟩
        | some (request, now) =>
          match request.sourceType with
          | .loan =>
            (handleLoanCollateral tid request.sourceId request.userId
              (ingested.1.matchedAt.getD now)).bind fun _ =>
            .pure ⟨.processed, "loan " ++ toString request.sourceId ++ " activated",
              some paymentHash⟩
          | .loanRepayment =>
            .pure ⟨.ignored, "source_type LOAN_REPAYMENT not handled", some paymentHash⟩

/-- A delivery keeps what the storing of its inflow and the hand-over of the loan keep. -/
theorem processVerified_meets {c : Contract World Answer Access} {err : AppError → World → Prop}
    {tid : Nat} {ownAccount : String} {parsed : Option BlinkWebhookPayload} {w : World}
    {mid : Inflow × Option (PaymentRequest × Time) → World → Prop}
    (ingests : ∀ payload paymentHash, parsed = some payload →
      (payload.paymentHash.orElse fun _ => payload.txHash) = some paymentHash →
        (ingest ⟨payload.settlementAmount, paymentHash, paymentHash⟩).Meets c mid err w)
    (handles : ∀ inflow request now t, mid (inflow, some (request, now)) t →
      request.sourceType = .loan → (handleLoanCollateral tid request.sourceId request.userId
        (inflow.matchedAt.getD now)).Meets c (fun _ _ => True) err t) :
    (processVerified tid ownAccount parsed).Meets c (fun _ _ => True) err w := by
  unfold processVerified
  cases parsed with
  | none => trivial
  | some payload =>
    dsimp only
    split
    · trivial
    split
    · trivial
    split
    · trivial
    · trivial
    rename_i paymentHash _ hash
    refine (ingests payload paymentHash rfl hash).seq ?_
    rintro ⟨inflow, matched⟩ t stored
    cases matched with
    | none => trivial
    | some found =>
      obtain ⟨request, now⟩ := found
      cases kind : request.sourceType with
      | loan =>
        simp only [kind]
        exact (handles inflow request now t stored kind).seq fun _ _ _ => trivial
      | loanRepayment =>
        simp only [kind]
        trivial

end BlinkWebhook

namespace OpsDisbursementsService
open BlinkWebhook DisbursementsService OutflowsService

def activeLoanWithAccount (loanId : Nat) (w : World) :
    Except AppError (Loan × Option DisbursementAccount) :=
  match w.loans[loanId]? with
  | none => .error .loanNotFound
  | some loan =>
    if loan.status ≠ .active then .error (.loanNotActiveForDisbursement loan.status)
    else .ok (loan, w.disbursementAccounts[loan.disbursementAccountId]?)

def blockingDisbursement (loanId : Nat) (w : World) : Except AppError Unit :=
  match findRow w.disbursements fun row =>
      row.sourceId = loanId && [.pending, .processing, .onHold].contains row.status with
  | none => .ok ()
  | some blocking => .error (.loanHasActiveDisbursement blocking.1 blocking.2.status)

def recreateForActiveLoan (tid loanId : Nat) : Action Nat :=
  (query fun _ w => activeLoanWithAccount loanId w).bind fun read =>
  (query fun _ w => blockingDisbursement loanId w).bind fun _ =>
  match read.2 with
  | none => .throw .loanDisbursementAccountRequired
  | some account =>
    if account.providerCode = "" then .throw .loanDisbursementAccountRequired
    else
      auditWrite.bind fun _ =>
      (createForLoan (disbursementRow loanId read.1 account)).bind fun fresh =>
      (dispatch tid fresh).bind fun _ => .pure fresh

end OpsDisbursementsService

end Bitmonie
