import Bitmonie.Schema
import Bitmonie.FixedScale

/-! Errors of the services, and the accesses their procedures are made of: a query, a
write that commits or fails as a whole, and a transaction that holds a loan row. -/
namespace Bitmonie

def LoanStatus.name : LoanStatus → String
  | .pendingCollateral => "PENDING_COLLATERAL"
  | .active => "ACTIVE"
  | .repaid => "REPAID"
  | .liquidated => "LIQUIDATED"
  | .expired => "EXPIRED"
  | .cancelled => "CANCELLED"

def DisbursementStatus.name : DisbursementStatus → String
  | .pending => "PENDING"
  | .processing => "PROCESSING"
  | .onHold => "ON_HOLD"
  | .successful => "SUCCESSFUL"
  | .cancelled => "CANCELLED"

inductive Rounding where
  | ceil | floor

/-- Whole naira, for display only. -/
def displayNgn (amount : ℚ) : Rounding → String
  | .ceil => toString ⌈amount⌉
  | .floor => toString ⌊amount⌋

def toFixed (places : Nat) (amount : ℚ) : String :=
  let units := (FixedScale.halfAway (amount * 10 ^ places)).natAbs
  let fraction := toString (units % 10 ^ places)
  (if amount < 0 then "-" else "") ++ toString (units / 10 ^ places) ++ "." ++
    "".pushn '0' (places - fraction.length) ++ fraction

/-- An exception with its context, or a fault of the database, of Redis or of a provider. -/
inductive AppError where
  | loanNotFound
  | loanNotActive (status : LoanStatus)
  | loanInvalidTransition (fromStatus toStatus : LoanStatus)
  | loanNotActiveForDisbursement (status : LoanStatus)
  | loanHasActiveDisbursement (disbursementId : Nat) (status : DisbursementStatus)
  | loanDisbursementAccountRequired
  | loanDisabled
  | disbursementDisabled
  | kycUpgradeRequired (tier : Nat)
  | pendingLoanAlreadyExists
  | disbursementAccountUnverified
  | collateralInvoiceFailed
  | inflowBelowFloor (receivedNgn floorNgn : String)
  | noUnmatchedInflow
  | inflowNotFound
  | inflowAlreadyMatched (matchedAt : Option Time) (sourceId : Option Nat)
  | loanNotLiquidated (status : LoanStatus)
  | liquidationNotBadRate (liquidationRateActual : Option String)
      (satNgnRateAtCreation sanityFloor : String)
  | collateralReleaseNotEligible (reason : String)
  | collateralReleaseSendFailed (error : String)
  | disbursementNotFound
  | disbursementNotOnHold (status : DisbursementStatus)
  | disbursementTerminal (status : DisbursementStatus)
  | disbursementNoActiveOutflow
  | priceFeedStale (lastUpdatedMs : Int)
  | loanAmountTooLow (minimumNgn : String)
  | loanAmountTooHigh (maximumNgn : String)
  /-- A unique index refused the row (`P2002`). -/
  | uniqueViolation
  /-- `update` or `findUniqueOrThrow` found no row (`P2025`). -/
  | recordNotFound
  /-- `create` found no row that it refers to (`P2003`). -/
  | foreignKeyViolation
  /-- An `Error` with its message, thrown by the service or by a provider. -/
  | failure (message : String)
  /-- The database, Redis or a provider could not be reached, or its answer was lost. -/
  | unavailable
  deriving DecidableEq, Repr

/-- The text of a detail; instants, ids and the score of a match are kept as values. -/
inductive Issue where
  | text (issue : String)
  | instant (at_ : Time)
  | row (id : Nat)
  | matchScore (score : ℚ)
  deriving DecidableEq, Repr

structure BitmonieErrorDetail where
  field : String
  issue : Issue
  deriving DecidableEq, Repr

structure BitmonieException where
  code : String
  message : String
  status : Nat
  details : List BitmonieErrorDetail := []
  deriving DecidableEq, Repr

/-- What the caller of the API is told; faults have no exception of their own. -/
def AppError.exception : AppError → Option BitmonieException
  | .loanNotFound => some ⟨"LOAN_NOT_FOUND", "Loan not found.", 404, []⟩
  | .loanNotActive status => some ⟨"LOAN_NOT_ACTIVE", "Loan is not active.", 409,
      [⟨"status", .text ("Loan is " ++ status.name ++
        "; repayments only credit to ACTIVE loans")⟩]⟩
  | .loanInvalidTransition fromStatus toStatus => some ⟨"LOAN_INVALID_TRANSITION",
      "Cannot transition loan from " ++ fromStatus.name ++ " to " ++ toStatus.name ++ ".",
      409, []⟩
  | .loanNotActiveForDisbursement status => some ⟨"LOAN_NOT_ACTIVE_FOR_DISBURSEMENT",
      "Loan must be ACTIVE to create a new disbursement.", 409,
      [⟨"status", .text ("Loan is " ++ status.name)⟩]⟩
  | .loanHasActiveDisbursement disbursementId status => some ⟨"LOAN_HAS_ACTIVE_DISBURSEMENT",
      "Loan already has a non-terminal disbursement. Cancel or wait for it to settle before " ++
        "creating a new one.", 409,
      [⟨"disbursement_id", .row disbursementId⟩, ⟨"status", .text status.name⟩]⟩
  | .loanDisbursementAccountRequired => some ⟨"LOAN_DISBURSEMENT_ACCOUNT_REQUIRED",
      "A default disbursement account is required before creating a loan.", 422, []⟩
  | .loanDisabled => some ⟨"LOAN_DISABLED",
      "Loan creation is currently disabled on your account. Please contact support.", 403, []⟩
  | .disbursementDisabled => some ⟨"DISBURSEMENT_DISABLED",
      "Disbursements are currently disabled on your account. Please contact support.", 403, []⟩
  | .kycUpgradeRequired tier => some ⟨"KYC_UPGRADE_REQUIRED",
      "This action requires KYC tier " ++ toString tier ++ " verification.", 403,
      [⟨"kyc_tier", .text ("Required tier: " ++ toString tier)⟩]⟩
  | .pendingLoanAlreadyExists => some ⟨"LOAN_PENDING_ALREADY_EXISTS",
      "You already have a loan awaiting collateral. Pay its invoice or cancel it before " ++
        "starting a new loan.", 409, []⟩
  | .disbursementAccountUnverified => some ⟨"DISBURSEMENT_ACCOUNT_UNVERIFIED",
      "Your disbursement account was added before identity verification. For security, " ++
        "please re-add your account now that KYC is complete - we will verify it matches " ++
        "your registered identity.", 422, []⟩
  | .collateralInvoiceFailed => some ⟨"COLLATERAL_INVOICE_FAILED",
      "Could not create the collateral payment request.", 500, []⟩
  | .inflowBelowFloor receivedNgn floorNgn => some ⟨"INFLOW_BELOW_FLOOR",
      "Repayment amount is below the minimum partial repayment floor.", 422,
      [⟨"amount_ngn", .text ("Received " ++ receivedNgn ++ " but minimum is " ++ floorNgn)⟩]⟩
  | .noUnmatchedInflow => some ⟨"NO_UNMATCHED_INFLOW",
      "No unmatched repayment inflow found for this user in the last 24 hours.", 404, []⟩
  | .inflowNotFound => some ⟨"INFLOW_NOT_FOUND",
      "Inflow not found, or does not belong to you.", 404, []⟩
  | .inflowAlreadyMatched matchedAt sourceId => some ⟨"INFLOW_ALREADY_MATCHED",
      "This inflow has already been applied to a loan.", 409,
      (matchedAt.toList.map fun at_ => ⟨"matched_at", .instant at_⟩) ++
        sourceId.toList.map fun id => ⟨"source_id", .row id⟩⟩
  | .loanNotLiquidated status => some ⟨"LOAN_NOT_LIQUIDATED",
      "Only LIQUIDATED loans can be restored.", 409,
      [⟨"status", .text ("Loan is " ++ status.name)⟩]⟩
  | .liquidationNotBadRate liquidationRateActual satNgnRateAtCreation sanityFloor => some
      ⟨"LIQUIDATION_NOT_BAD_RATE",
      "Liquidation does not match the bad-rate signature; restoration refused.", 409,
      [⟨"liquidation_rate_actual", .text (liquidationRateActual.getD "null")⟩,
        ⟨"sat_ngn_rate_at_creation", .text satNgnRateAtCreation⟩,
        ⟨"sanity_floor", .text sanityFloor⟩]⟩
  | .collateralReleaseNotEligible reason => some ⟨"COLLATERAL_RELEASE_NOT_ELIGIBLE",
      "Loan is not eligible for collateral release.", 409, [⟨"reason", .text reason⟩]⟩
  | .collateralReleaseSendFailed error => some ⟨"COLLATERAL_RELEASE_SEND_FAILED",
      "Collateral release attempted but the provider rejected the send. Loan was not " ++
        "stamped — safe to retry after fixing the cause.", 502, [⟨"error", .text error⟩]⟩
  | .disbursementNotFound => some ⟨"DISBURSEMENT_NOT_FOUND", "Disbursement not found.", 404, []⟩
  | .disbursementNotOnHold status => some ⟨"DISBURSEMENT_NOT_ON_HOLD",
      "Disbursement is not on hold; only on-hold disbursements can be retried.", 409,
      [⟨"status", .text ("Disbursement is " ++ status.name)⟩]⟩
  | .disbursementTerminal status => some ⟨"DISBURSEMENT_TERMINAL",
      "Disbursement is in a terminal state and cannot be modified.", 409,
      [⟨"status", .text ("Disbursement is " ++ status.name)⟩]⟩
  | .disbursementNoActiveOutflow => some ⟨"DISBURSEMENT_NO_ACTIVE_OUTFLOW",
      "Disbursement has no in-flight outflow to abandon.", 409, []⟩
  | .priceFeedStale lastUpdatedMs => some ⟨"PRICE_FEED_STALE",
      "Price feed is too stale. Please try again.", 422,
      [⟨"rate", .text ("Last updated " ++ toString lastUpdatedMs ++ "ms ago")⟩]⟩
  | .loanAmountTooLow minimumNgn => some ⟨"LOAN_AMOUNT_TOO_LOW",
      "Loan amount is below the minimum of N" ++ minimumNgn ++ ".", 400,
      [⟨"principal_ngn", .text ("Minimum is N" ++ minimumNgn)⟩]⟩
  | .loanAmountTooHigh maximumNgn => some ⟨"LOAN_AMOUNT_TOO_HIGH",
      "Loan amount exceeds the self-serve maximum of N" ++ maximumNgn ++ ".", 400,
      [⟨"principal_ngn", .text ("Maximum is N" ++ maximumNgn)⟩]⟩
  | .uniqueViolation | .recordNotFound | .foreignKeyViolation | .failure _ | .unavailable => none

def AppError.message : AppError → String
  | .failure message => message
  | e => (e.exception.map (·.message)).getD ""

structure HandlerOutcome where
  outcome : WebhookOutcome
  outcomeDetail : String
  externalReference : Option String := none
  deriving DecidableEq, Repr

theorem bind_ok {x : Except AppError α} {f : α → Except AppError β} {b : β} :
    (x >>= f) = .ok b ↔ ∃ a, x = .ok a ∧ f a = .ok b := by
  cases x with
  | error e =>
    constructor
    · intro h
      cases h
    · rintro ⟨a, h, _⟩
      cases h
  | ok a =>
    constructor
    · exact fun h => ⟨a, rfl, h⟩
    · rintro ⟨a', same, h⟩
      cases same
      exact h

theorem map_ok {x : Except AppError α} {f : α → β} {b : β} :
    x.map f = .ok b ↔ ∃ a, x = .ok a ∧ f a = b := by
  cases x <;> simp [Except.map]

/-- A check, and what follows if it passes. -/
theorem unless_ok {ε : Type} {p : Prop} [Decidable p] {e : ε} {x : Except ε α} {a : α} :
    (if p then .error e else x) = .ok a ↔ ¬ p ∧ x = .ok a := by
  split <;> simp_all

/-- A write with something to return. -/
theorem map_pair_ok {γ : Type} {x : Except AppError α} {a b : β} {f : α → γ} {c : γ} :
    x.map (fun s => (a, f s)) = .ok (b, c) ↔ ∃ s, x = .ok s ∧ a = b ∧ f s = c := by
  rw [map_ok]
  simp only [Prod.mk.injEq]

/-- `update({ where: { id } })`. -/
def updateRow (rows : List α) (id : Nat) (data : α → α) : Except AppError (List α) :=
  match rows[id]? with
  | none => .error .recordNotFound
  | some row => .ok (rows.set id (data row))

theorem updateRow_ok {rows rows' : List α} {id : Nat} {data : α → α} :
    updateRow rows id data = .ok rows' ↔
      ∃ row, rows[id]? = some row ∧ rows' = rows.set id (data row) := by
  unfold updateRow
  cases rows[id]? with
  | none => simp
  | some row => simp [eq_comm]

theorem getElem?_set_of_eq {rows : List α} {id : Nat} {row row' : α}
    (found : rows[id]? = some row) : (rows.set id row')[id]? = some row' := by
  have bound := (List.getElem?_eq_some_iff.mp found).1
  simp [bound]

theorem getElem?_set_cases {rows : List α} {id other : Nat} {row found : α}
    (there : (rows.set id row)[other]? = some found) :
    (other = id ∧ found = row) ∨ (other ≠ id ∧ rows[other]? = some found) := by
  rw [List.getElem?_set] at there
  split at there
  · rename_i same
    split at there
    · exact .inl ⟨same.symm, (Option.some.inj there).symm⟩
    · cases there
  · rename_i different
    exact .inr ⟨Ne.symm different, there⟩

/-- A row of a longer table is an old one or the new one. -/
theorem row_of_concat {rows : List α} {created row : α} {id : Nat}
    (found : (rows ++ [created])[id]? = some row) :
    rows[id]? = some row ∨ (id = rows.length ∧ row = created) := by
  by_cases old : id < rows.length
  · exact .inl ((List.getElem?_append_left old).symm.trans found)
  · have bound := (List.getElem?_eq_some_iff.mp found).1
    simp only [List.length_append, List.length_singleton] at bound
    obtain rfl : id = rows.length := by omega
    exact .inr ⟨rfl, by simpa [eq_comm] using found⟩

theorem concat_of_row {rows : List α} {created row : α} {id : Nat}
    (found : rows[id]? = some row) : (rows ++ [created])[id]? = some row := by
  rw [List.getElem?_append_left (List.getElem?_eq_some_iff.mp found).1, found]

theorem set_concat (rows : List α) (row row' : α) :
    (rows ++ [row]).set rows.length row' = rows ++ [row'] := by
  simp

/-- `findUnique` and `findFirst`: the first row that satisfies `p`, with its id. -/
def findRow (rows : List α) (p : α → Bool) : Option (Nat × α) :=
  (rows.zipIdx.find? fun row => p row.1).map Prod.swap

/-- `findMany`, in the order of the table. -/
def findRows (rows : List α) (p : α → Bool) : List (Nat × α) :=
  (rows.zipIdx.filter fun row => p row.1).map Prod.swap

theorem mem_findRows {rows : List α} {p : α → Bool} {id : Nat} {row : α} :
    (id, row) ∈ findRows rows p ↔ rows[id]? = some row ∧ p row = true := by
  simp only [findRows, List.mem_map, List.mem_filter]
  constructor
  · rintro ⟨pair, ⟨member, holds⟩, same⟩
    obtain ⟨rfl, rfl⟩ := Prod.mk.inj same
    exact ⟨List.mem_zipIdx_iff_getElem?.mp member, holds⟩
  · exact fun ⟨found, holds⟩ =>
      ⟨(row, id), ⟨List.mem_zipIdx_iff_getElem?.mpr found, holds⟩, rfl⟩

/-- The rows come in the order of their ids. -/
theorem findRows_ordered (rows : List α) (p : α → Bool) :
    (findRows rows p).Pairwise fun a b => a.1 < b.1 := by
  have ids : (rows.zipIdx.map Prod.snd).Pairwise (· < ·) := by
    rw [List.zipIdx_map_snd]
    exact List.pairwise_lt_range'
  rw [findRows, List.pairwise_map]
  exact ((List.pairwise_map.mp ids).sublist List.filter_sublist)

theorem findRows_concat (rows : List α) (row : α) (p : α → Bool) :
    findRows (rows ++ [row]) p = findRows rows p ++ if p row then [(rows.length, row)] else [] := by
  cases holds : p row <;> simp [findRows, List.zipIdx_append, holds]

theorem findRow_some {rows : List α} {p : α → Bool} {id : Nat} {row : α}
    (found : findRow rows p = some (id, row)) : rows[id]? = some row ∧ p row = true := by
  obtain ⟨pair, first, same⟩ := Option.map_eq_some_iff.mp found
  obtain ⟨rfl, rfl⟩ := Prod.mk.inj same
  refine ⟨List.mem_zipIdx_iff_getElem?.mp (List.mem_of_find?_eq_some first), ?_⟩
  exact @List.find?_some _ (fun row : α × Nat => p row.1) _ _ first

theorem findRow_none {rows : List α} {p : α → Bool} :
    findRow rows p = none ↔ ∀ row ∈ rows, p row = false := by
  simp only [findRow, Option.map_eq_none_iff, List.find?_eq_none, Bool.not_eq_true]
  constructor
  · intro none row member
    obtain ⟨id, found⟩ := List.mem_iff_getElem?.mp member
    exact none (row, id) (List.mem_zipIdx_iff_getElem?.mpr found)
  · intro none pair member
    exact none pair.1 (List.mem_of_getElem? (List.mem_zipIdx_iff_getElem?.mp member))

/-- A row after those that do not satisfy `p` is the first one that does. -/
theorem findRow_concat {rows : List α} {p : α → Bool} {row : α} (others : findRow rows p = none)
    (holds : p row = true) : findRow (rows ++ [row]) p = some (rows.length, row) := by
  have before : (rows.zipIdx.find? fun pair => p pair.1) = none := by
    simpa [findRow] using others
  simp [findRow, List.zipIdx_append, List.find?_append, before, holds]

/-- The one row that satisfies `p` is found. -/
theorem findRow_unique {rows : List α} {p : α → Bool} {id : Nat} {row : α}
    (found : rows[id]? = some row) (holds : p row = true)
    (alone : ∀ other row, rows[other]? = some row → p row = true → other = id) :
    findRow rows p = some (id, row) := by
  cases first : findRow rows p with
  | none => cases holds.symm.trans (findRow_none.mp first row (List.mem_of_getElem? found))
  | some chosen =>
    obtain ⟨there, chosenHolds⟩ := findRow_some first
    obtain rfl := alone chosen.1 chosen.2 there chosenHolds
    rw [Option.some.inj (found.symm.trans there)]

/-- PalmPay's answer about a collection order; the amount is in kobo. -/
structure PalmpayQueryCollectionOrderResponse where
  respCode : String := "00000000"
  respMsg : String := ""
  orderStatus : Option Int := none
  orderAmount : Option Int := none
  virtualAccountNo : Option String := none
  message : Option String := none
  deriving DecidableEq

/-- What the environment decides at one access. A statement that `fails` changes
nothing; one whose answer is `lost` has committed. -/
structure Answer where
  now : Time := 0
  fails : Bool := false
  lost : Bool := false
  /-- The SAT/NGN sell rate; none when the feed is stale, missing or unreadable. -/
  rate : Option ℚ := none
  /-- The BTC/USD quote; none when it cannot be had. -/
  btcUsdRate : Option ℚ := none
  /-- What a provider returns: a reference, or the text of its error. -/
  text : String := ""
  message : Option String := none
  order : PalmpayQueryCollectionOrderResponse := {}
  /-- `price:stale` and `price:SAT_NGN` -/
  priceStale : Option String := none
  price : Option String := none
  /-- A key that was set with a time to live is still there. -/
  keyLives : Bool := false

/-- Labels of accesses, with the values the source passes to the statement. -/
inductive Access where
  | read
  /-- A Redis key that only caches what a table holds, or that no table depends on. -/
  | redis
  | sendEmail
  | lockLoan (loanId : Nat)
  | unlockLoan (loanId : Nat)
  /-- The commit of a transaction that moves a loan from the status its caller read. -/
  | loanStatus (loanId : Nat) (fromStatus toStatus : LoanStatus)
  | credit (loanId inflowId : Nat)
  | audit
  | acquireRelease (loanId : Nat)
  | deleteRelease (loanId : Nat)
  | expireRelease (loanId : Nat)
  | sendCollateral (loanId : Nat)
  | stampRelease (loanId : Nat)
  | findInflow (userId inflowId : Nat)
  | createInflow (providerReference : String)
  | storeUnmatchedInflow (orderNo : String) (reason : UnmatchedReason)
  | getCollectionOrderStatus (orderNo : String)
  | alertOps (alert : OpsAlert)
  | webhookLog
  | upsertInflow (providerReference : String) (userId : Nat) (amount : ℚ)
      (receivingAddress : String)
  /-- With the tier of the borrower, and the account that the request names. -/
  | readAccount (userId kycTier : Nat) (accountId : Option Nat)
  | createAccount (userId : Nat)
  | setDefault (accountId : Nat)
  | deleteAccount (accountId : Nat)
  | createLoan (userId : Nat)
  | createPaymentRequest (loanId : Nat)
  | matchInflow (paymentRequestId loanId : Nat)
  | createDisbursement (loanId : Nat)
  | disbursementStatus (disbursementId : Nat) (toStatus : DisbursementStatus)
  | onHoldAlerted (disbursementId : Nat)
  | createOutflow (disbursementId : Nat)
  | outflowStatus (outflowId : Nat) (toStatus : OutflowStatus)
  | initiateTransfer (reference : OutflowReference)
  /-- The provider comes to the final result of a transfer. -/
  | settleTransfer (reference : OutflowReference)
  | swapBtcToUsd (loanId : Nat)
  /-- `first` says that the caller has read no address. -/
  | updateReleaseAddress (loanId : Nat) (first : Bool) (address : String)
  deriving DecidableEq

abbrev Action := Proc World Answer Access AppError

/-- One `SELECT`, read from what is committed. -/
def queryAs (label : Access) (f : Answer → World → Except AppError α) : Action α :=
  .access label (fun _ => true) fun i w =>
    if i.fails then (.error .unavailable, w) else (f i w, w)

def query (f : Answer → World → Except AppError α) : Action α := queryAs .read f

/-- One statement or one transaction, committed as a whole or not at all. -/
def committed (f : Answer → World → Except AppError (α × World)) (i : Answer) (w : World) :
    Except AppError α × World :=
  if i.fails then (.error .unavailable, w)
  else match f i w with
    | .error e => (.error e, w)
    | .ok (a, w') => (if i.lost then .error .unavailable else .ok a, w')

/-- It waits until it is `enabled`. -/
def commit (label : Access) (enabled : World → Bool)
    (f : Answer → World → Except AppError (α × World)) : Action α :=
  .access label enabled (committed f)

/-- An update of a loan waits for the transaction that holds the row. -/
def loanFree (loanId : Nat) (w : World) : Bool := (w.rowLock loanId).isNone

/-- `SELECT … FOR UPDATE` on the loan, the body, then the end of the transaction. -/
def lockingLoan (tid loanId : Nat) (body : Action α) : Action α :=
  (Proc.access (.lockLoan loanId) (loanFree loanId) fun i w =>
    if i.fails then (.error .unavailable, w)
    else if loanId < w.loans.length then
      (.ok (), { w with rowLock := Function.update w.rowLock loanId (some tid) })
    else (.error .loanNotFound, w)).bind fun _ =>
  body.finishing (.access (.unlockLoan loanId) (fun _ => true) fun _ w =>
    (.ok (), { w with rowLock := Function.update w.rowLock loanId none }))

theorem committed_ok {f : Answer → World → Except AppError (α × World)} {i : Answer} {w : World}
    {a : α} (ended : (committed f i w).1 = .ok a) :
    i.fails = false ∧ i.lost = false ∧ f i w = .ok (a, (committed f i w).2) := by
  unfold committed at ended ⊢
  cases fails : i.fails with
  | true => simp [fails] at ended
  | false =>
    cases result : f i w with
    | error e => simp [fails, result] at ended
    | ok done =>
      cases lost : i.lost with
      | true => simp [fails, result, lost] at ended
      | false =>
        obtain rfl : done.1 = a := by simpa [fails, result, lost] using ended
        exact ⟨rfl, rfl, rfl⟩

/-- What a statement that can be made keeps, the access keeps. -/
theorem committed_keeps {f : Answer → World → Except AppError (α × World)} {i : Answer} {w : World}
    {kept : World → Prop} (here : kept w) (writes : ∀ a w', f i w = .ok (a, w') → kept w') :
    kept (committed f i w).2 := by
  unfold committed
  cases i.fails with
  | true => exact here
  | false =>
    rcases result : f i w with e | ⟨a, w'⟩
    · exact here
    · exact writes a w' result

theorem query_looks {labels : Access → Prop} {f : Answer → World → Except AppError α}
    (among : labels .read) : (query f).Looks labels := by
  refine Proc.looks_access among fun i s => ?_
  by_cases fails : i.fails = true <;> simp [fails]

theorem query_leaves {view : World → β} {label : Access} {f : Answer → World → Except AppError α} :
    (queryAs label f).Leaves view := by
  refine Proc.leaves_access fun i w => ?_
  split <;> rfl

theorem commit_leaves {view : World → β} {label : Access} {enabled : World → Bool}
    {f : Answer → World → Except AppError (α × World)}
    (same : ∀ i w a w', f i w = .ok (a, w') → view w' = view w) :
    (commit label enabled f).Leaves view := by
  refine Proc.leaves_access fun i w => ?_
  have here : (fun t => view t = view w) w := rfl
  exact committed_keeps here fun a w' wrote => same i w a w' wrote

section Meets
variable {c : Contract World Answer Access} {post : α → World → Prop} {err : AppError → World → Prop}

theorem queryAs_meets {label : Access} {f : Answer → World → Except AppError α} {s : World}
    (read : ∀ t, c.rely s t → c.inv t → ∀ i, c.allowed label i t → c.guar label i t t ∧
      err .unavailable t ∧ (∀ e, f i t = .error e → err e t) ∧ ∀ a, f i t = .ok a → post a t) :
    (queryAs label f).Meets c post err s := by
  rw [queryAs, Proc.meets_access]
  intro t moved inv _ i allowed
  obtain ⟨guar, fault, refused, answered⟩ := read t moved inv i allowed
  by_cases fails : i.fails = true
  · simpa [fails] using ⟨inv, guar, fault⟩
  · simp only [fails]
    refine ⟨inv, guar, ?_⟩
    cases result : f i t with
    | error e => exact refused e result
    | ok a => exact answered a result

theorem query_meets {f : Answer → World → Except AppError α} {s : World}
    (read : ∀ t, c.rely s t → c.inv t → ∀ i, c.allowed .read i t → c.guar .read i t t ∧
      err .unavailable t ∧ (∀ e, f i t = .error e → err e t) ∧ ∀ a, f i t = .ok a → post a t) :
    (query f).Meets c post err s := queryAs_meets read

theorem commit_meets {label : Access} {enabled : World → Bool}
    {f : Answer → World → Except AppError (α × World)} {s : World}
    (write : ∀ t, c.rely s t → c.inv t → enabled t = true → ∀ i, c.allowed label i t →
      c.guar label i t t ∧ (i.fails = true → err .unavailable t) ∧
      (∀ e, f i t = .error e → err e t) ∧ ∀ a t', i.fails = false → f i t = .ok (a, t') →
        c.inv t' ∧ c.guar label i t t' ∧ (i.lost = false → post a t') ∧
          (i.lost = true → err .unavailable t')) :
    (commit label enabled f).Meets c post err s := by
  rw [commit, Proc.meets_access]
  intro t moved inv ready i allowed
  obtain ⟨guar, fault, refused, wrote⟩ := write t moved inv ready i allowed
  unfold committed
  by_cases fails : i.fails = true
  · simpa [fails] using ⟨inv, guar, fault fails⟩
  · have succeeds : i.fails = false := by simpa using fails
    simp only [succeeds]
    rcases result : f i t with e | ⟨a, t'⟩
    · exact ⟨inv, guar, refused e result⟩
    · obtain ⟨inv', guar', done, unsure⟩ := wrote a t' succeeds result
      refine ⟨inv', guar', ?_⟩
      cases lost : i.lost
      · exact done lost
      · exact unsure lost

/-- The body runs with the row held; the row is let go however the body ends. -/
theorem lockingLoan_meets {tid loanId : Nat} {body : Action α} {s : World}
    {within : α → World → Prop} {failing : AppError → World → Prop}
    (lock : ∀ t, c.rely s t → c.inv t → t.rowLock loanId = none →
      ∀ i, c.allowed (.lockLoan loanId) i t →
      let held := { t with rowLock := Function.update t.rowLock loanId (some tid) }
      c.guar (.lockLoan loanId) i t t ∧ err .unavailable t ∧ err .loanNotFound t ∧
      (i.fails = false → loanId < t.loans.length → c.inv held ∧
        c.guar (.lockLoan loanId) i t held ∧ body.Meets c within failing held))
    (unlock : ∀ s t, c.rely s t → c.inv t → ∀ i, c.allowed (.unlockLoan loanId) i t →
      let free := { t with rowLock := Function.update t.rowLock loanId none }
      (∀ a, within a s → c.inv free ∧ c.guar (.unlockLoan loanId) i t free ∧ post a free) ∧
      ∀ e, failing e s → c.inv free ∧ c.guar (.unlockLoan loanId) i t free ∧ err e free) :
    (lockingLoan tid loanId body).Meets c post err s := by
  rw [lockingLoan, Proc.meets_bind, Proc.meets_access]
  intro t moved inv ready i allowed
  obtain ⟨guar, fault, missing, holds⟩ := lock t moved inv (by simpa [loanFree] using ready) i allowed
  by_cases fails : i.fails = true
  · simpa [fails] using ⟨inv, guar, fault⟩
  by_cases found : loanId < t.loans.length
  · obtain ⟨inv', guar', ran⟩ := holds (Bool.eq_false_of_not_eq_true fails) found
    simp only [fails, found, if_true, Bool.false_eq_true, if_false]
    refine ⟨inv', guar', ?_⟩
    rw [Proc.outcome_ok, Proc.meets_finishing]
    apply ran.imp
    · intro a u ended
      rw [Proc.meets_access]
      exact fun v later inv _ i allowed => (unlock u v later inv i allowed).1 a ended
    · intro e u ended
      rw [Proc.meets_access]
      exact fun v later inv _ i allowed => (unlock u v later inv i allowed).2 e ended
  · simpa [fails, found] using ⟨inv, guar, missing⟩

end Meets

theorem queryAs_atOnce {label : Access} {f : Answer → World → Except AppError α} {i : Answer}
    {w : World} (succeeds : i.fails = false) :
    (queryAs label f).atOnce i w = some (f i w, w) := by
  simp [queryAs, Proc.atOnce_access, succeeds]

theorem query_atOnce {f : Answer → World → Except AppError α} {i : Answer} {w : World}
    (succeeds : i.fails = false) : (query f).atOnce i w = some (f i w, w) :=
  queryAs_atOnce succeeds

theorem commit_atOnce {label : Access} {enabled : World → Bool}
    {f : Answer → World → Except AppError (α × World)} {i : Answer} {w w' : World} {a : α}
    (succeeds : i.fails = false) (answered : i.lost = false) (ready : enabled w = true)
    (writes : f i w = .ok (a, w')) : (commit label enabled f).atOnce i w = some (.ok a, w') := by
  simp [commit, Proc.atOnce_access, committed, succeeds, answered, ready, writes]

section Achieves
variable {c : Lone World Answer Access} {post : α → World → Prop} {err : AppError → World → Prop}

theorem queryAs_achieves {label : Access} {f : Answer → World → Except AppError α} {s : World}
    (reads : ∀ i, c.allowed label i s →
      i.fails = false ∧ c.guar label i s s ∧ Proc.outcome post err (f i s, s)) :
    (queryAs label f).Achieves c post err s := by
  refine Proc.achieves_access rfl fun i allowed => ?_
  obtain ⟨succeeds, guar, ended⟩ := reads i allowed
  simpa [succeeds] using And.intro guar ended

theorem query_achieves {f : Answer → World → Except AppError α} {s : World}
    (reads : ∀ i, c.allowed .read i s →
      i.fails = false ∧ c.guar .read i s s ∧ Proc.outcome post err (f i s, s)) :
    (query f).Achieves c post err s := queryAs_achieves reads

/-- A statement that writes. -/
theorem commit_achieves {label : Access} {enabled : World → Bool}
    {f : Answer → World → Except AppError (α × World)} {s : World} (ready : enabled s = true)
    (writes : ∀ i, c.allowed label i s → i.fails = false ∧ i.lost = false ∧
      ∃ a t, f i s = .ok (a, t) ∧ c.guar label i s t ∧ post a t) :
    (commit label enabled f).Achieves c post err s := by
  refine Proc.achieves_access ready fun i allowed => ?_
  obtain ⟨succeeds, answered, a, t, wrote, guar, ended⟩ := writes i allowed
  simpa [committed, succeeds, answered, wrote] using And.intro guar ended

/-- A statement that is refused. -/
theorem commit_achieves_refused {label : Access} {enabled : World → Bool}
    {f : Answer → World → Except AppError (α × World)} {s : World} (e : AppError)
    (ready : enabled s = true) (refuses : ∀ i, c.allowed label i s →
      i.fails = false ∧ f i s = .error e ∧ c.guar label i s s ∧ err e s) :
    (commit label enabled f).Achieves c post err s := by
  refine Proc.achieves_access ready fun i allowed => ?_
  obtain ⟨succeeds, refused, guar, ended⟩ := refuses i allowed
  simpa [committed, succeeds, refused] using And.intro guar ended

end Achieves

section Makes
variable {allowed : Access → Answer → World → Prop} {post : List Access → α → World → Prop}
  {err : List Access → AppError → World → Prop}

theorem query_makes {f : Answer → World → Except AppError α} {s : World}
    (reads : ∀ i, allowed .read i s →
      i.fails = false ∧ Proc.outcome (post [.read]) (err [.read]) (f i s, s)) :
    (query f).Makes allowed post err s := by
  refine Proc.makes_access rfl fun i answered => ?_
  obtain ⟨succeeds, ended⟩ := reads i answered
  simpa [succeeds] using ended

theorem commit_makes {label : Access} {enabled : World → Bool}
    {f : Answer → World → Except AppError (α × World)} {s : World} (ready : enabled s = true)
    (writes : ∀ i, allowed label i s → i.fails = false ∧ i.lost = false ∧
      ∃ a t, f i s = .ok (a, t) ∧ post [label] a t) :
    (commit label enabled f).Makes allowed post err s := by
  refine Proc.makes_access ready fun i allowed => ?_
  obtain ⟨succeeds, answered, a, t, wrote, ended⟩ := writes i allowed
  simpa [committed, succeeds, answered, wrote] using ended

end Makes

/-- Others neither touch a loan row that `tid` holds, nor take or give its hold. -/
abbrev RowsHeld : Nat → World → World → Prop :=
  Owned World.rowLock fun w loanId => w.loans[loanId]?

/-- Taking a free row and letting go of one's own row leave the holds of others alone. -/
theorem rowsHeld_of_lock {tid loanId : Nat} {s : World} {holder : Option Nat}
    (before : s.rowLock loanId ≠ some tid) (after : holder ≠ some tid) :
    RowsHeld tid s { s with rowLock := Function.update s.rowLock loanId holder } :=
  .of_key loanId (fun other different => ⟨by simp [different], rfl⟩) before (by simpa using after)

end Bitmonie
