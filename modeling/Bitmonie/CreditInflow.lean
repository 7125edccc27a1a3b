import Bitmonie.Accrual
import Bitmonie.LoanStatus

/-! `creditInflow`: the floor, the transaction that holds the loan row, and the rows it
writes. `creditOnce` is the same transaction with nothing between its statements. -/
namespace Bitmonie.LoansService
open LoanStatusService

structure CreditParams where
  inflowId : Nat
  loanId : Nat
  amountNgn : ℚ
  matchMethod : MatchMethod
  skipFloor : Bool := false

structure CreditInflowResult where
  loanId : Nat
  newStatus : LoanStatus
  appliedToCustody : String
  appliedToInterest : String
  appliedToPrincipal : String
  overpayNgn : String
  outstandingNgn : String
  deriving DecidableEq

structure RepaymentReceipt where
  userId : Nat
  split : Split
  outstandingNgn : ℚ
  isFullyRepaid : Bool
  deriving DecidableEq

/-- The rows of a loan, `orderBy: { created_at: 'asc' }`. -/
def repaymentsOf (w : World) (loanId : Nat) : List LoanRepayment :=
  (w.repayments.filter fun r => r.loanId = loanId).insertionSort fun a b =>
    a.createdAt ≤ b.createdAt

def toAccrualRepayment (r : LoanRepayment) : AccrualRepaymentInput :=
  ⟨r.appliedToPrincipal, r.appliedToInterest, r.appliedToCustody, r.createdAt⟩

def accrualInput (loan : Loan) : AccrualLoanInput :=
  ⟨loan.principalNgn, loan.dailyInterestRateBps, loan.dailyCustodyFeeNgn, loan.collateralReceivedAt⟩

def outstandingOf (loan : Loan) (repayments : List LoanRepayment) (asOf : Time) : Outstanding :=
  AccrualService.compute (accrualInput loan) (repayments.map toAccrualRepayment) asOf

def floorCheck (params : CreditParams) : Except AppError Unit :=
  if !params.skipFloor && params.amountNgn < minPartialRepaymentNgn then
    .error (.inflowBelowFloor (displayNgn params.amountNgn .ceil)
      (displayNgn minPartialRepaymentNgn .ceil))
  else .ok ()

/-- What one credit is about to write, decided from the rows it read. -/
structure Credit where
  now : Time
  split : Split
  newOutstandingTotal : ℚ
  isFullyRepaid : Bool
  deriving DecidableEq

/-- `none` for a loan that is already repaid: nothing to do. -/
def planCredit (amountNgn : ℚ) (now : Time) (loan : Loan) (repayments : List LoanRepayment) :
    Except AppError (Option Credit) :=
  if loan.status = .repaid then .ok none
  else if loan.status ≠ .active then .error (.loanNotActive loan.status)
  else
    let outstanding := outstandingOf loan repayments now
    let split := waterfall amountNgn outstanding
    let newOutstandingTotal := outstanding.totalOutstandingNgn - split.appliedToCustody -
      split.appliedToInterest - split.appliedToPrincipal
    .ok (some ⟨now, split, newOutstandingTotal, newOutstandingTotal ≤ 0⟩)

def repaymentRow (params : CreditParams) (credit : Credit) (createdAt : Time) : LoanRepayment where
  loanId := params.loanId
  inflowId := params.inflowId
  amountNgn := params.amountNgn
  appliedToPrincipal := credit.split.appliedToPrincipal
  appliedToInterest := credit.split.appliedToInterest
  appliedToCustody := credit.split.appliedToCustody
  overpayNgn := credit.split.overpayNgn
  matchMethod := params.matchMethod
  createdAt := createdAt

def matchedInflow (params : CreditParams) (credit : Credit) (inflow : Inflow) : Inflow :=
  { inflow with
    isMatched := true
    matchedAt := some credit.now
    sourceType := some .loanRepayment
    sourceId := some params.loanId }

def repaidLoan (params : CreditParams) (credit : Credit) (loan : Loan) : Loan :=
  { loan with
    repaidAt := some credit.now
    repaymentMethod := some .ngn
    repaymentReference := some params.inflowId }

def creditTransition (params : CreditParams) (loan : Loan) (credit : Credit) : TransitionParams where
  loanId := params.loanId
  userId := loan.userId
  fromStatus := some loan.status
  toStatus := if credit.isFullyRepaid then .repaid else .active
  triggeredBy := .customer
  reasonCode := if credit.isFullyRepaid then .repaymentCompleted else .repaymentPartialNgn

/-- `loanRepayment.create`: `inflow_id` is unique. -/
def createRepayment (row : LoanRepayment) (rows : List LoanRepayment) :
    Except AppError (List LoanRepayment) :=
  if rows.any fun r => r.inflowId = row.inflowId then .error .uniqueViolation
  else .ok (rows ++ [row])

def closeLoan (params : CreditParams) (credit : Credit) (loans : List Loan) :
    Except AppError (List Loan) :=
  if credit.isFullyRepaid then updateRow loans params.loanId (repaidLoan params credit)
  else .ok loans

/-- The statements of the transaction after its reads, in their order. -/
def writeCredit (params : CreditParams) (loan : Loan) (credit : Credit) (createdAt : Time)
    (w : World) : Except AppError World := do
  let repayments ← createRepayment (repaymentRow params credit createdAt) w.repayments
  let inflows ← updateRow w.inflows params.inflowId (matchedInflow params credit)
  let loans ← closeLoan params credit w.loans
  transition (creditTransition params loan credit)
    { w with repayments := repayments, inflows := inflows, loans := loans }

def alreadyRepaidResult (params : CreditParams) : CreditInflowResult :=
  ⟨params.loanId, .repaid, "0", "0", "0", "0", "0"⟩

def creditResult (params : CreditParams) (credit : Credit) : CreditInflowResult where
  loanId := params.loanId
  newStatus := if credit.isFullyRepaid then .repaid else .active
  appliedToCustody := displayNgn credit.split.appliedToCustody .ceil
  appliedToInterest := displayNgn credit.split.appliedToInterest .ceil
  appliedToPrincipal := displayNgn credit.split.appliedToPrincipal .ceil
  overpayNgn := displayNgn credit.split.overpayNgn .floor
  outstandingNgn := displayNgn (max credit.newOutstandingTotal 0) .ceil

def creditReceipt (loan : Loan) (credit : Credit) : RepaymentReceipt :=
  ⟨loan.userId, credit.split, max credit.newOutstandingTotal 0, credit.isFullyRepaid⟩

/-- `findFirst({ where: { id: loan_id, user_id } })` -/
def findLoan (userId loanId : Nat) (w : World) : Except AppError Loan :=
  match w.loans[loanId]? with
  | some loan => if loan.userId = userId then .ok loan else .error .loanNotFound
  | none => .error .loanNotFound

/-- `findUniqueOrThrow` with the loan's rows, under the lock. -/
def readLoan (loanId : Nat) (w : World) : Except AppError (Loan × List LoanRepayment) :=
  match w.loans[loanId]? with
  | none => .error .recordNotFound
  | some loan => .ok (loan, repaymentsOf w loanId)

theorem readLoan_found {loanId : Nat} {w : World} {rows : Loan × List LoanRepayment}
    (read : readLoan loanId w = .ok rows) : w.loans[loanId]? = some rows.1 := by
  unfold readLoan at read
  split at read
  · cases read
  · rename_i loan found
    obtain rfl := Except.ok.inj read
    exact found

/-- The body of the transaction: the read and the clock, then the writes. -/
def creditBody (tid : Nat) (params : CreditParams) :
    Action (CreditInflowResult × Option RepaymentReceipt) :=
  (query fun i w => (readLoan params.loanId w).map fun read => (read, i.now)).bind fun read =>
  (Proc.ofExcept (planCredit params.amountNgn read.2 read.1.1 read.1.2)).bind fun plan =>
  match plan with
  | none => .pure (alreadyRepaidResult params, none)
  | some credit =>
    (commit (.credit params.loanId params.inflowId) (fun _ => true) fun i w =>
      (writeCredit params read.1.1 credit i.now w).map fun w' =>
        ((), { w' with credited := tid :: w'.credited })).bind fun _ =>
    .pure (creditResult params credit, some (creditReceipt read.1.1 credit))

/-- The hand-off to the collateral release after a full repayment is not awaited; it is a
procedure of its own. -/
def creditInflow (tid : Nat) (params : CreditParams) : Action CreditInflowResult :=
  (Proc.ofExcept (floorCheck params)).bind fun _ =>
  (lockingLoan tid params.loanId (creditBody tid params)).bind fun done =>
  match done.2 with
  | none => .pure done.1
  -- `notifyRepayment` reads the user before it sends, and that read can throw.
  | some _ => (query fun _ _ => .ok ()).bind fun _ => .pure done.1

def creditOnce (params : CreditParams) (now : Time) (w : World) :
    Except AppError (CreditInflowResult × Option RepaymentReceipt) × World :=
  match floorCheck params with
  | .error e => (.error e, w)
  | .ok () =>
    match w.loans[params.loanId]? with
    | none => (.error .loanNotFound, w)
    | some loan =>
      match planCredit params.amountNgn now loan (repaymentsOf w params.loanId) with
      | .error e => (.error e, w)
      | .ok none => (.ok (alreadyRepaidResult params, none), w)
      | .ok (some credit) =>
        match writeCredit params loan credit now w with
        | .error e => (.error e, w)
        | .ok w' => (.ok (creditResult params credit, some (creditReceipt loan credit)), w')

/-- A plan is made for an ACTIVE loan only, from the replayed balance. -/
theorem planCredit_ok {amountNgn : ℚ} {now : Time} {loan : Loan}
    {repayments : List LoanRepayment} {credit : Credit}
    (planned : planCredit amountNgn now loan repayments = .ok (some credit)) :
    loan.status = .active ∧ credit.now = now ∧
      credit.split = waterfall amountNgn (outstandingOf loan repayments now) ∧
      credit.newOutstandingTotal = (outstandingOf loan repayments now).totalOutstandingNgn -
        credit.split.appliedToCustody - credit.split.appliedToInterest -
        credit.split.appliedToPrincipal ∧
      (credit.isFullyRepaid = true ↔ credit.newOutstandingTotal ≤ 0) := by
  unfold planCredit at planned
  split at planned
  · cases planned
  · obtain ⟨active, planned⟩ := unless_ok.mp planned
    obtain rfl := Option.some.inj (Except.ok.inj planned)
    exact ⟨not_not.mp active, rfl, rfl, rfl, decide_eq_true_iff⟩

def creditedLoan (params : CreditParams) (credit : Credit) (loan : Loan) : Loan :=
  if credit.isFullyRepaid then { repaidLoan params credit loan with status := .repaid } else loan

structure Written (params : CreditParams) (loan : Loan) (credit : Credit) (createdAt : Time)
    (w w' : World) : Prop where
  unused : ∀ r ∈ w.repayments, r.inflowId ≠ params.inflowId
  eq : ∃ inflow stored, w.inflows[params.inflowId]? = some inflow ∧
    (credit.isFullyRepaid = true → w.loans[params.loanId]? = some stored) ∧
    w' = { w with
      repayments := w.repayments ++ [repaymentRow params credit createdAt]
      inflows := w.inflows.set params.inflowId (matchedInflow params credit inflow)
      loans := if credit.isFullyRepaid then
          w.loans.set params.loanId (creditedLoan params credit stored)
        else w.loans
      statusLogs := w.statusLogs ++ [(creditTransition params loan credit).log] }

theorem createRepayment_ok {row : LoanRepayment} {rows rows' : List LoanRepayment} :
    createRepayment row rows = .ok rows' ↔
      (∀ r ∈ rows, r.inflowId ≠ row.inflowId) ∧ rows' = rows ++ [row] := by
  by_cases used : (rows.any fun r => r.inflowId = row.inflowId) = true
  · simp only [createRepayment, if_pos used]
    constructor
    · intro h
      cases h
    · rintro ⟨unused, _⟩
      obtain ⟨r, member, same⟩ := List.any_eq_true.mp used
      exact absurd (of_decide_eq_true same) (unused r member)
  · have unused : ∀ r ∈ rows, r.inflowId ≠ row.inflowId := by simpa using used
    simp only [createRepayment, if_neg used, Except.ok.injEq]
    exact ⟨fun h => ⟨unused, h.symm⟩, fun h => h.2.symm⟩

/-- The two updates of the loan row of a full repayment are one. -/
theorem closeLoan_ok {params : CreditParams} {loan : Loan} {credit : Credit}
    {loans repaid loans' : List Loan} (active : loan.status = .active)
    (closed : closeLoan params credit loans = .ok repaid)
    (moved : updateStatus (creditTransition params loan credit) repaid = .ok loans') :
    ∃ stored, (credit.isFullyRepaid = true → loans[params.loanId]? = some stored) ∧
      loans' = if credit.isFullyRepaid then
          loans.set params.loanId (creditedLoan params credit stored)
        else loans := by
  have reads : (creditTransition params loan credit).fromStatus = some .active :=
    congrArg some active
  cases full : credit.isFullyRepaid with
  | false =>
    have same : updateStatus (creditTransition params loan credit) repaid = .ok repaid :=
      updateStatus_self reads (by simp [creditTransition, full])
        (by simp [creditTransition, full, selfTransitionReasons])
    obtain rfl := Except.ok.inj (moved.symm.trans same)
    refine ⟨loan, by simp, ?_⟩
    simpa [closeLoan, full, eq_comm] using closed
  | true =>
    simp only [closeLoan, full, if_true] at closed
    obtain ⟨stored, present, rfl⟩ := updateRow_ok.mp closed
    rw [updateStatus_move reads (by simp [creditTransition, full])
      (by simp [creditTransition, full, validTransitions])] at moved
    obtain ⟨row, found, rfl⟩ := updateRow_ok.mp moved
    obtain rfl : repaidLoan params credit stored = row :=
      Option.some.inj ((getElem?_set_of_eq present).symm.trans found)
    refine ⟨stored, fun _ => present, ?_⟩
    simp [creditTransition, creditedLoan, full]

theorem writeCredit_ok {params : CreditParams} {loan : Loan} {credit : Credit}
    {createdAt : Time} {w w' : World} (active : loan.status = .active)
    (done : writeCredit params loan credit createdAt w = .ok w') :
    Written params loan credit createdAt w w' := by
  obtain ⟨repayments, created, done⟩ := bind_ok.mp done
  obtain ⟨inflows, matched, done⟩ := bind_ok.mp done
  obtain ⟨repaid, closed, done⟩ := bind_ok.mp done
  obtain ⟨loans, moved, rfl⟩ := transition_ok done
  obtain ⟨unused, rfl⟩ := createRepayment_ok.mp created
  obtain ⟨inflow, found, rfl⟩ := updateRow_ok.mp matched
  obtain ⟨stored, present, rfl⟩ := closeLoan_ok active closed moved
  exact ⟨unused, inflow, stored, found, present, rfl⟩

namespace Written
variable {params : CreditParams} {loan : Loan} {credit : Credit} {createdAt : Time} {w w' : World}

theorem locks (wrote : Written params loan credit createdAt w w') : w'.rowLock = w.rowLock := by
  obtain ⟨_, _, _, _, rfl⟩ := wrote.eq
  rfl

theorem loan_other (wrote : Written params loan credit createdAt w w') {loanId : Nat}
    (other : params.loanId ≠ loanId) : w'.loans[loanId]? = w.loans[loanId]? := by
  obtain ⟨_, _, _, _, rfl⟩ := wrote.eq
  dsimp only
  split
  · exact List.getElem?_set_ne other
  · rfl

theorem loan_self (wrote : Written params loan credit createdAt w w') {stored : Loan}
    (found : w.loans[params.loanId]? = some stored) :
    w'.loans[params.loanId]? = some (creditedLoan params credit stored) := by
  obtain ⟨_, row, _, present, rfl⟩ := wrote.eq
  cases full : credit.isFullyRepaid with
  | false => simpa [creditedLoan, full] using found
  | true =>
    obtain rfl := Option.some.inj ((present full).symm.trans found)
    simp only [if_true]
    exact getElem?_set_of_eq found

end Written

/-- Reads and writes of a credit do not look at the locks. -/
theorem readLoan_rowLock (loanId : Nat) (w : World) (locks : Nat → Option Nat) :
    readLoan loanId { w with rowLock := locks } = readLoan loanId w := rfl

theorem writeCredit_rowLock (params : CreditParams) (loan : Loan) (credit : Credit)
    (createdAt : Time) (w : World) (locks : Nat → Option Nat) :
    writeCredit params loan credit createdAt { w with rowLock := locks } =
      (writeCredit params loan credit createdAt w).map fun w' => { w' with rowLock := locks } := by
  unfold writeCredit
  cases createRepayment (repaymentRow params credit createdAt) w.repayments with
  | error e => rfl
  | ok repayments =>
    cases updateRow w.inflows params.inflowId (matchedInflow params credit) with
    | error e => rfl
    | ok inflows =>
      cases closeLoan params credit w.loans with
      | error e => rfl
      | ok loans =>
        simp only [bind, Except.bind, transition]
        cases updateStatus (creditTransition params loan credit) loans <;> rfl

theorem writeCredit_auxiliary {params : CreditParams} {loan : Loan} {credit : Credit}
    {createdAt : Time} {w w' : World} (done : writeCredit params loan credit createdAt w = .ok w') :
    w'.credited = w.credited ∧ w'.rowLock = w.rowLock := by
  obtain ⟨repayments, created, done⟩ := bind_ok.mp done
  obtain ⟨inflows, matched, done⟩ := bind_ok.mp done
  obtain ⟨repaid, closed, done⟩ := bind_ok.mp done
  obtain ⟨loans, moved, rfl⟩ := transition_ok done
  exact ⟨rfl, rfl⟩

/-- With no fault the procedure at one instant is the call, whatever the environment answers
otherwise. -/
theorem creditInflow_atOnce (tid : Nat) (params : CreditParams) {i : Answer} {w : World}
    (succeeds : i.fails = false) (answered : i.lost = false)
    (free : w.rowLock params.loanId = none) :
    ∃ w', (creditInflow tid params).atOnce i w =
        some ((creditOnce params i.now w).1.map Prod.fst, w') ∧
      { w' with credited := w.credited, rowLock := w.rowLock } = (creditOnce params i.now w).2 := by
  unfold creditInflow creditOnce
  cases checked : floorCheck params with
  | error e => exact ⟨_, rfl, rfl⟩
  | ok =>
    cases found : w.loans[params.loanId]? with
    | none =>
      have absent : ¬ params.loanId < w.loans.length := by simpa using found
      simp [lockingLoan, Proc.access, Proc.bind, Proc.atOnce, absent, loanFree, free, Proc.ofExcept,
        Except.map, succeeds]
    | some loan =>
      have bound : params.loanId < w.loans.length := (List.getElem?_eq_some_iff.mp found).1
      have read : readLoan params.loanId w = .ok (loan, repaymentsOf w params.loanId) := by
        simp [readLoan, found]
      rcases planned : planCredit params.amountNgn i.now loan (repaymentsOf w params.loanId) with
        e | _ | credit
      case' ok.some => cases wrote : writeCredit params loan credit i.now w
      all_goals
        simp [lockingLoan, creditBody, query, queryAs, commit, committed, Proc.access, Proc.bind, Proc.finishing,
          Proc.atOnce, loanFree, Proc.ofExcept, Except.map, readLoan_rowLock, writeCredit_rowLock, *]
      obtain ⟨credited, locks⟩ := writeCredit_auxiliary wrote
      rw [← credited, ← locks]

end Bitmonie.LoansService
