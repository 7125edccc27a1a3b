import Bitmonie.Service

/-! The loan state machine: which moves `transition` admits, and what it writes. It
trusts the `from_status` of its caller and updates the row by id alone. -/
namespace Bitmonie.LoanStatusService

def validTransitions : LoanStatus → List LoanStatus
  | .pendingCollateral => [.active, .expired, .cancelled]
  | .active => [.repaid, .liquidated]
  | _ => []

/-- `SELF_TRANSITION_REASONS`: events that are logged and do not move the status. -/
def selfTransitionReasons : LoanStatus → List LoanReasonCode
  | .active => [.repaymentPartialNgn, .collateralToppedUp]
  | .repaid => [.collateralReleased]
  | _ => []

structure TransitionParams where
  loanId : Nat
  userId : Nat
  fromStatus : Option LoanStatus
  toStatus : LoanStatus
  triggeredBy : StatusTrigger
  reasonCode : LoanReasonCode

def assertValidTransition (fromStatus toStatus : LoanStatus) (reasonCode : LoanReasonCode) :
    Except AppError Unit :=
  if fromStatus = toStatus then
    if reasonCode ∈ selfTransitionReasons fromStatus then .ok ()
    else .error (.loanInvalidTransition fromStatus toStatus)
  else if toStatus ∈ validTransitions fromStatus then .ok ()
  else .error (.loanInvalidTransition fromStatus toStatus)

def TransitionParams.log (params : TransitionParams) : LoanStatusLog :=
  ⟨params.loanId, params.userId, params.fromStatus, params.toStatus, params.triggeredBy,
    params.reasonCode⟩

/-- The status column; a self-transition skips the update. -/
def updateStatus (params : TransitionParams) (loans : List Loan) : Except AppError (List Loan) :=
  match params.fromStatus with
  | none => .ok loans
  | some fromStatus => do
    assertValidTransition fromStatus params.toStatus params.reasonCode
    if fromStatus ≠ params.toStatus then
      updateRow loans params.loanId fun loan => { loan with status := params.toStatus }
    else .ok loans

def transition (params : TransitionParams) (w : World) : Except AppError World := do
  let loans ← updateStatus params w.loans
  return { w with loans := loans, statusLogs := w.statusLogs ++ [params.log] }

def Terminal (status : LoanStatus) : Prop := validTransitions status = []

instance (status : LoanStatus) : Decidable (Terminal status) :=
  inferInstanceAs (Decidable (validTransitions status = []))

/-- A stored status that moved, moved along a valid transition. -/
def Forward (before after : LoanStatus) : Prop :=
  before = after ∨ after ∈ validTransitions before

instance (before after : LoanStatus) : Decidable (Forward before after) :=
  inferInstanceAs (Decidable (_ ∨ _))

theorem Forward.refl (status : LoanStatus) : Forward status status := .inl rfl

/-- No status is reached again once it is left, and a terminal one is not left. -/
theorem Forward.terminal {before after : LoanStatus} (forward : Forward before after)
    (terminal : Terminal before) : after = before := by
  rcases forward with same | moved
  · exact same.symm
  · rw [terminal] at moved
    cases moved

theorem assertValidTransition_move {fromStatus toStatus : LoanStatus}
    (reasonCode : LoanReasonCode) (moves : fromStatus ≠ toStatus) :
    assertValidTransition fromStatus toStatus reasonCode = .ok () ↔
      toStatus ∈ validTransitions fromStatus := by
  simp only [assertValidTransition, if_neg moves]
  split <;> simp_all

/-- What an admitted transition writes: the status if it moves, and one log row. -/
theorem transition_ok {params : TransitionParams} {w w' : World}
    (done : transition params w = .ok w') : ∃ loans,
    updateStatus params w.loans = .ok loans ∧
      w' = { w with loans := loans, statusLogs := w.statusLogs ++ [params.log] } := by
  obtain ⟨loans, updated, wrote⟩ := bind_ok.mp done
  exact ⟨loans, updated, (Except.ok.inj wrote).symm⟩

theorem updateStatus_move {params : TransitionParams} {loans : List Loan}
    {fromStatus : LoanStatus} (reads : params.fromStatus = some fromStatus)
    (moves : fromStatus ≠ params.toStatus)
    (valid : params.toStatus ∈ validTransitions fromStatus) :
    updateStatus params loans =
      updateRow loans params.loanId fun loan => { loan with status := params.toStatus } := by
  have admitted := (assertValidTransition_move params.reasonCode moves).mpr valid
  simp only [updateStatus, reads, admitted, if_pos moves]
  rfl

theorem updateStatus_self {params : TransitionParams} {loans : List Loan}
    {fromStatus : LoanStatus} (reads : params.fromStatus = some fromStatus)
    (stays : fromStatus = params.toStatus)
    (reason : params.reasonCode ∈ selfTransitionReasons fromStatus) :
    updateStatus params loans = .ok loans := by
  subst stays
  simp [updateStatus, reads, assertValidTransition, reason]
  rfl

end Bitmonie.LoanStatusService
