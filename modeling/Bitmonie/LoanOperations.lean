import Bitmonie.CreditInflow

/-! The operations that move a loan's status besides a credit and a liquidation:
activation, cancellation, and the cycle of the expiry worker. Each reads the status in one
statement and writes it in a later one. -/
namespace Bitmonie

namespace LoansService
open LoanStatusService

def cancelTransition (userId loanId : Nat) (loan : Loan) : TransitionParams :=
  ⟨loanId, userId, some loan.status, .cancelled, .customer, .customerCancelled⟩

def cancelLoan (userId loanId : Nat) : Action Unit :=
  (query fun _ => findLoan userId loanId).bind fun loan =>
  commit (.loanStatus loanId loan.status .cancelled) (loanFree loanId) fun _ w =>
    (transition (cancelTransition userId loanId loan) w).map ((), ·)

def activateTransition (loanId : Nat) (loan : Loan) : TransitionParams :=
  ⟨loanId, loan.userId, some loan.status, .active, .collateralWebhook, .collateralConfirmed⟩

def writeActivation (loanId : Nat) (loan : Loan) (collateralReceivedAt : Time) (w : World) :
    Except AppError World := do
  let loans ← updateRow w.loans loanId fun loan =>
    { loan with collateralReceivedAt := some collateralReceivedAt }
  transition (activateTransition loanId loan) { w with loans := loans }

def findUniqueOrThrow (rows : List α) (id : Nat) : Except AppError α :=
  match rows[id]? with
  | some row => .ok row
  | none => .error .recordNotFound

/-- A loan past PENDING_COLLATERAL is left as it is, whatever its status. -/
def activateLoan (loanId : Nat) (collateralReceivedAt : Time) : Action Unit :=
  (query fun _ w => findUniqueOrThrow w.loans loanId).bind fun loan =>
  if loan.status ≠ .pendingCollateral then .pure ()
  else
    (commit (.loanStatus loanId loan.status .active) (loanFree loanId) fun _ w =>
      (writeActivation loanId loan collateralReceivedAt w).map ((), ·)).bind fun _ =>
    -- `notifyCollateralReceived` reads the user and the loan before it sends.
    query fun _ _ => .ok ()

end LoansService

namespace LoanExpiryWorker

structure ExpiredLoanRow where
  loanId : Nat
  userId : Nat
  paymentRequestId : Nat
  receivingAddress : String
  deriving DecidableEq

/-- The join of PENDING_COLLATERAL loans with their PENDING requests that are past their
time; rows held by a transaction are skipped. -/
def expiredLoans (now : Time) (w : World) : List ExpiredLoanRow :=
  (List.range w.loans.length).flatMap fun loanId =>
    (List.range w.paymentRequests.length).filterMap fun requestId =>
      match w.loans[loanId]?, w.paymentRequests[requestId]? with
      | some loan, some request =>
        if request.sourceType = .loan ∧ request.sourceId = loanId ∧ request.status = .pending ∧
            loan.status = .pendingCollateral ∧ request.expiresAt < now ∧ loanFree loanId w then
          some ⟨loanId, loan.userId, requestId, request.receivingAddress⟩
        else none
      | _, _ => none

def expiredRequest (request : PaymentRequest) : PaymentRequest := { request with status := .expired }

/-- The transaction: it writes the status without reading it. -/
def writeExpiry (row : ExpiredLoanRow) (w : World) : Except AppError World := do
  let loans ← updateRow w.loans row.loanId fun loan => { loan with status := .expired }
  let log : LoanStatusLog :=
    ⟨row.loanId, row.userId, some .pendingCollateral, .expired, .system, .invoiceExpired⟩
  let paymentRequests ← updateRow w.paymentRequests row.paymentRequestId expiredRequest
  return { w with
    loans := loans, statusLogs := w.statusLogs ++ [log], paymentRequests := paymentRequests }

def expireLoan (row : ExpiredLoanRow) : Action Unit :=
  (commit (.loanStatus row.loanId .pendingCollateral .expired) (loanFree row.loanId) fun _ w =>
    (writeExpiry row w).map ((), ·)).bind fun _ =>
  commit .redis (fun _ => true) fun _ w =>
    .ok ((), { w with pendingRequest := Function.update w.pendingRequest row.receivingAddress none })

/-- `order` is the order in which the database returns the rows, which the query leaves
open. A row that fails is logged and the loop goes on. -/
def runExpiryCycle (order : List ExpiredLoanRow → List ExpiredLoanRow) : Action Unit :=
  (query fun i w => .ok (order (expiredLoans i.now w))).bind fun rows =>
  Proc.each rows fun row => (expireLoan row).catching fun _ => .pure ()

end LoanExpiryWorker

/-- The loan's row is rewritten with the status `toStatus`, and no other row is. -/
structure StatusWritten (loanId : Nat) (toStatus : LoanStatus) (w w' : World) : Prop where
  locks : w'.rowLock = w.rowLock
  rows : ∃ stored row, w.loans[loanId]? = some stored ∧ row.status = toStatus ∧
    w'.loans = w.loans.set loanId row

theorem StatusWritten.other {loanId : Nat} {toStatus : LoanStatus} {w w' : World}
    (wrote : StatusWritten loanId toStatus w w') {other : Nat} (different : loanId ≠ other) :
    w'.loans[other]? = w.loans[other]? := by
  obtain ⟨stored, row, _, _, same⟩ := wrote.rows
  rw [same, List.getElem?_set_ne different]

namespace LoansService
open LoanStatusService

theorem cancel_written {userId loanId : Nat} {loan : Loan} {w w' : World}
    (done : transition (cancelTransition userId loanId loan) w = .ok w') :
    StatusWritten loanId .cancelled w w' ∧ LoanStatus.cancelled ∈ validTransitions loan.status := by
  obtain ⟨loans, updated, rfl⟩ := transition_ok done
  have reads : (cancelTransition userId loanId loan).fromStatus = some loan.status := rfl
  by_cases same : loan.status = .cancelled
  · simp [updateStatus, cancelTransition, same, assertValidTransition, selfTransitionReasons,
      bind, Except.bind] at updated
  by_cases valid : LoanStatus.cancelled ∈ validTransitions loan.status
  · rw [updateStatus_move reads same valid] at updated
    obtain ⟨stored, found, rfl⟩ := updateRow_ok.mp updated
    exact ⟨⟨rfl, stored, _, found, rfl, rfl⟩, valid⟩
  · simp [updateStatus, cancelTransition, same, assertValidTransition, valid,
      bind, Except.bind] at updated

theorem activation_written {loanId : Nat} {loan : Loan} {collateralReceivedAt : Time}
    {w w' : World} (pending : loan.status = .pendingCollateral)
    (done : writeActivation loanId loan collateralReceivedAt w = .ok w') :
    StatusWritten loanId .active w w' := by
  obtain ⟨loans, received, done⟩ := bind_ok.mp done
  obtain ⟨moved, updated, rfl⟩ := transition_ok done
  obtain ⟨stored, found, rfl⟩ := updateRow_ok.mp received
  have reads : (activateTransition loanId loan).fromStatus = some .pendingCollateral :=
    congrArg some pending
  rw [updateStatus_move reads (fun same => nomatch same)
    (by simp [activateTransition, validTransitions])] at updated
  obtain ⟨row, _, rfl⟩ := updateRow_ok.mp updated
  exact ⟨rfl, stored, { row with status := .active }, found, rfl, List.set_set _⟩

end LoansService

/-- The loan, its log and the request, in one transaction. -/
theorem LoanExpiryWorker.writeExpiry_ok {row : ExpiredLoanRow} {w w' : World}
    (done : writeExpiry row w = .ok w') : ∃ stored request log,
    w.loans[row.loanId]? = some stored ∧
      w.paymentRequests[row.paymentRequestId]? = some request ∧
      w' = { w with
        loans := w.loans.set row.loanId { stored with status := .expired }
        statusLogs := w.statusLogs ++ [log]
        paymentRequests :=
          w.paymentRequests.set row.paymentRequestId (expiredRequest request) } := by
  obtain ⟨loans, moved, done⟩ := bind_ok.mp done
  obtain ⟨requests, expired, done⟩ := bind_ok.mp done
  obtain ⟨stored, found, rfl⟩ := updateRow_ok.mp moved
  obtain ⟨request, present, rfl⟩ := updateRow_ok.mp expired
  exact ⟨stored, request, _, found, present, (Except.ok.inj done).symm⟩

theorem LoanExpiryWorker.expiry_written {row : ExpiredLoanRow} {w w' : World}
    (done : writeExpiry row w = .ok w') : StatusWritten row.loanId .expired w w' := by
  obtain ⟨stored, _, _, found, _, rfl⟩ := writeExpiry_ok done
  exact ⟨rfl, stored, _, found, rfl, rfl⟩

end Bitmonie
