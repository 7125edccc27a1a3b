import Bitmonie.CreditInflow

/-! Whole runs of credits. The rows they write, replayed by the accrual service at any
later instant, are a running ledger; so no money is lost and no floor is reached. -/
namespace Bitmonie.LoansService
open DayAccrual AccrualService LoanStatusService

structure CreditCall where
  params : CreditParams
  now : Time

/-- One call after another; a refused call changes nothing and the run goes on. -/
def creditCalls : List CreditCall → World → World
  | [], w => w
  | call :: rest, w => creditCalls rest (creditOnce call.params call.now w).2

def applied : Except AppError (CreditInflowResult × Option RepaymentReceipt) → Bool
  | .ok (_, some _) => true
  | _ => false

/-- The credits of a loan in a run of calls: when, and how much. -/
def creditsTo (loanId : Nat) : List CreditCall → World → List (Time × ℚ)
  | [], _ => []
  | call :: rest, w =>
    let (outcome, w') := creditOnce call.params call.now w
    if call.params.loanId = loanId ∧ applied outcome then
      (call.now, call.params.amountNgn) :: creditsTo loanId rest w'
    else creditsTo loanId rest w'

/-- The calls on the loan carry positive amounts, at times from `last` on that never
decrease. -/
def Ordered (loanId : Nat) : Time → List CreditCall → Prop
  | _, [] => True
  | last, call :: rest =>
    if call.params.loanId = loanId then
      0 < call.params.amountNgn ∧ last ≤ call.now ∧ Ordered loanId call.now rest
    else Ordered loanId last rest

def lastTime (loanId : Nat) : Time → List CreditCall → Time
  | last, [] => last
  | last, call :: rest =>
    lastTime loanId (if call.params.loanId = loanId then call.now else last) rest

/-- The reference: interest for each day that begins, a credit pays interest first. -/
def runLedger (loan : Loan) (start : Time) (credits : List (Time × ℚ)) (ledger : Ledger ℚ) :
    Ledger ℚ :=
  credits.foldl (fun ledger credit =>
    (ledger.advance (rateFactor loan.dailyInterestRateBps) (ceilDays start credit.1)).pay credit.2)
    ledger

def referenceLedger (loan : Loan) (start : Time) (credits : List (Time × ℚ)) : Ledger ℚ :=
  runLedger loan start credits ⟨loan.principalNgn, 0, 0⟩

def repaidMoves (loanId : Nat) (w : World) : List LoanStatusLog :=
  w.statusLogs.filter fun log =>
    log.loanId = loanId ∧ log.fromStatus = some .active ∧ log.toStatus = .repaid

def rowsOf (loanId : Nat) (w : World) : List LoanRepayment :=
  w.repayments.filter fun r => r.loanId = loanId

theorem repaymentsOf_perm (w : World) (loanId : Nat) :
    (repaymentsOf w loanId).Perm (rowsOf loanId w) := List.perm_insertionSort _ _

structure Opened (loanId : Nat) (start : Time) (loan : Loan) (w : World) : Prop where
  found : w.loans[loanId]? = some loan
  active : loan.status = .active
  since : loan.collateralReceivedAt = some start
  principal_pos : 0 < loan.principalNgn
  rate_nonneg : 0 ≤ loan.dailyInterestRateBps
  no_rows : rowsOf loanId w = []
  no_moves : repaidMoves loanId w = []

/-- What a row of the ledger says by itself. -/
structure RowBalanced (r : LoanRepayment) : Prop where
  custody : r.appliedToCustody = 0
  interest_nonneg : 0 ≤ r.appliedToInterest
  principal_nonneg : 0 ≤ r.appliedToPrincipal
  sum : r.appliedToCustody + r.appliedToInterest + r.appliedToPrincipal + r.overpayNgn = r.amountNgn

/-- An ACTIVE loan owes principal; a REPAID one owes nothing and got there in one move. -/
inductive Standing (loanId : Nat) (ledger : Ledger ℚ) (status : LoanStatus) (w : World) : Prop where
  | active (is : status = .active) (owes : 0 < ledger.balance) (moves : repaidMoves loanId w = [])
  | repaid (is : status = .repaid) (principal : ledger.balance = 0) (interest : ledger.unpaid = 0)
      (moves : (repaidMoves loanId w).length ≤ 1)

/-- The rows of the loan and the running ledger agree. `drops` are the days and amounts
by which the rows lower the principal. -/
structure Books (loanId : Nat) (start : Time) (loan : Loan) (last : Time) (ledger : Ledger ℚ)
    (w : World) : Prop where
  row : ∃ stored, w.loans[loanId]? = some stored ∧ accrualInput stored = accrualInput loan ∧
    Standing loanId ledger stored.status w
  day : ledger.day ≤ ceilDays start last
  landed : ∀ r ∈ rowsOf loanId w, r.createdAt ≤ last
  balanced : ∀ r ∈ rowsOf loanId w, RowBalanced r
  tracks : ledger.Tracks loan.principalNgn (rateFactor loan.dailyInterestRateBps)
    (drops start ((rowsOf loanId w).map toAccrualRepayment))
    ((rowsOf loanId w).map (·.appliedToInterest)).sum

theorem Opened.books {loanId : Nat} {start : Time} {loan : Loan} {w : World}
    (opened : Opened loanId start loan w) :
    Books loanId start loan start ⟨loan.principalNgn, 0, 0⟩ w where
  row := ⟨loan, opened.found, rfl, .active opened.active opened.principal_pos opened.no_moves⟩
  day := Nat.zero_le _
  landed := by simp [opened.no_rows]
  balanced := by simp [opened.no_rows]
  tracks := by
    rw [opened.no_rows]
    exact .start _ opened.principal_pos.le

def counted (rows : List LoanRepayment) (asOf : Time) : List LoanRepayment :=
  rows.filter fun r => r.createdAt ≤ asOf

theorem counted_eq_self {rows : List LoanRepayment} {asOf : Time}
    (landed : ∀ r ∈ rows, r.createdAt ≤ asOf) : counted rows asOf = rows :=
  List.filter_eq_self.mpr fun r member => decide_eq_true (landed r member)

theorem landed_rows (rows : List LoanRepayment) (asOf : Time) :
    landed (rows.map toAccrualRepayment) asOf = (counted rows asOf).map toAccrualRepayment := by
  rw [landed, List.filter_map, counted]
  rfl

def principalLeft (loan : Loan) (rows : List LoanRepayment) : ℚ :=
  loan.principalNgn - (rows.map (·.appliedToPrincipal)).sum

/-- Interest that the rows leave; negative when they took more than was charged. -/
def interestLeft (loan : Loan) (start : Time) (rows : List LoanRepayment) (asOf : Time) : ℚ :=
  charged loan.principalNgn (rateFactor loan.dailyInterestRateBps)
    (drops start (rows.map toAccrualRepayment)) (ceilDays start asOf) -
    (rows.map (·.appliedToInterest)).sum

theorem total_drops_rows (start : Time) (rows : List LoanRepayment) :
    total (drops start (rows.map toAccrualRepayment)) =
      (rows.map (·.appliedToPrincipal)).sum := by
  rw [total_drops, List.map_map]
  rfl

theorem drops_append (start : Time) (rows later : List LoanRepayment) :
    drops start ((rows ++ later).map toAccrualRepayment) =
      drops start (rows.map toAccrualRepayment) ++ drops start (later.map toAccrualRepayment) := by
  simp [drops]

theorem principalLeft_append (loan : Loan) (rows later : List LoanRepayment) :
    principalLeft loan (rows ++ later) =
      principalLeft loan rows - (later.map (·.appliedToPrincipal)).sum := by
  rw [principalLeft, List.map_append, List.sum_append, principalLeft, sub_sub]

/-- Rows of the day of an instant lower no charge of a day that has begun. -/
theorem interestLeft_append (loan : Loan) {start asOf : Time} (rows : List LoanRepayment)
    {later : List LoanRepayment} (late : ∀ r ∈ later, ceilDays start asOf ≤ ceilDays start r.createdAt) :
    interestLeft loan start (rows ++ later) asOf =
      interestLeft loan start rows asOf - (later.map (·.appliedToInterest)).sum := by
  have late : ∀ drop ∈ drops start (later.map toAccrualRepayment),
      ceilDays start asOf ≤ drop.1 := by
    intro drop member
    obtain ⟨input, among, rfl⟩ := List.mem_map.mp member
    obtain ⟨r, held, rfl⟩ := List.mem_map.mp among
    exact late r held
  rw [interestLeft, drops_append, charged_append _ _ _ late, List.map_append, List.sum_append,
    interestLeft, sub_sub]

theorem outstandingOf_perm (loan : Loan) {rows rows' : List LoanRepayment} (perm : rows.Perm rows')
    (asOf : Time) : outstandingOf loan rows asOf = outstandingOf loan rows' asOf :=
  compute_perm _ (perm.map toAccrualRepayment) asOf

/-- `compute` in the words of the rows, its floors still in place. -/
theorem outstandingOf_eq {loan : Loan} {start : Time}
    (since : loan.collateralReceivedAt = some start) (rows : List LoanRepayment) (asOf : Time) :
    let principal := max (principalLeft loan (counted rows asOf)) 0
    let interest := max (interestLeft loan start (counted rows asOf) asOf) 0
    outstandingOf loan rows asOf =
      ⟨principal, interest, 0, principal + interest + 0, ceilDays start asOf, asOf⟩ := by
  have since : (accrualInput loan).collateralReceivedAt = some start := since
  rw [outstandingOf, compute_eq since, landed_rows, List.map_map, List.map_map]
  rfl

/-- `compute` over rows that all landed. -/
theorem compute_landed {loan : Loan} {start asOf : Time} {reps rows : List LoanRepayment}
    (since : loan.collateralReceivedAt = some start) (perm : reps.Perm rows)
    (landed : ∀ r ∈ rows, r.createdAt ≤ asOf) :
    outstandingOf loan reps asOf =
      let principal := max (loan.principalNgn - (rows.map (·.appliedToPrincipal)).sum) 0
      let interest := max (charged loan.principalNgn (rateFactor loan.dailyInterestRateBps)
        (drops start (rows.map toAccrualRepayment)) (ceilDays start asOf) -
          (rows.map (·.appliedToInterest)).sum) 0
      ⟨principal, interest, 0, principal + interest + 0, ceilDays start asOf, asOf⟩ := by
  rw [outstandingOf_perm loan perm, outstandingOf_eq since, counted_eq_self landed]
  rfl

/-- The ledger at the end of the day of `asOf`. -/
def ledgerAt (loan : Loan) (start : Time) (ledger : Ledger ℚ) (asOf : Time) : Ledger ℚ :=
  ledger.advance (rateFactor loan.dailyInterestRateBps) (ceilDays start asOf)

theorem rateFactor_nonneg {bps : Int} (nonneg : 0 ≤ bps) : 0 ≤ rateFactor bps :=
  div_nonneg (Int.cast_nonneg nonneg) (by decide)

namespace Books
variable {loanId : Nat} {start last asOf : Time} {loan : Loan} {ledger : Ledger ℚ} {w : World}

theorem tracksAt (books : Books loanId start loan last ledger w)
    (rate_nonneg : 0 ≤ loan.dailyInterestRateBps) (later : last ≤ asOf) :
    (ledgerAt loan start ledger asOf).Tracks loan.principalNgn
      (rateFactor loan.dailyInterestRateBps)
      (drops start ((rowsOf loanId w).map toAccrualRepayment))
      ((rowsOf loanId w).map (·.appliedToInterest)).sum :=
  books.tracks.advance (rateFactor_nonneg rate_nonneg)
    (books.day.trans (ceilDays_mono start later))

theorem dayAt (books : Books loanId start loan last ledger w) (later : last ≤ asOf) :
    (ledgerAt loan start ledger asOf).day = ceilDays start asOf :=
  Ledger.advance_day _ (books.day.trans (ceilDays_mono start later))

theorem principalAt (books : Books loanId start loan last ledger w)
    (rate_nonneg : 0 ≤ loan.dailyInterestRateBps) (later : last ≤ asOf) :
    loan.principalNgn - ((rowsOf loanId w).map (·.appliedToPrincipal)).sum =
      (ledgerAt loan start ledger asOf).balance := by
  rw [(books.tracksAt rate_nonneg later).balance, total_drops_rows]

theorem interestAt (books : Books loanId start loan last ledger w)
    (rate_nonneg : 0 ≤ loan.dailyInterestRateBps) (later : last ≤ asOf) :
    charged loan.principalNgn (rateFactor loan.dailyInterestRateBps)
        (drops start ((rowsOf loanId w).map toAccrualRepayment)) (ceilDays start asOf) -
        ((rowsOf loanId w).map (·.appliedToInterest)).sum =
      (ledgerAt loan start ledger asOf).unpaid := by
  rw [(books.tracksAt rate_nonneg later).unpaid, books.dayAt later]

/-- The replay of the rows, in any order, is the ledger. -/
theorem replay (books : Books loanId start loan last ledger w)
    (since : loan.collateralReceivedAt = some start)
    (rate_nonneg : 0 ≤ loan.dailyInterestRateBps) (later : last ≤ asOf)
    {reps : List LoanRepayment} (perm : reps.Perm (rowsOf loanId w)) :
    let ledger := ledgerAt loan start ledger asOf
    outstandingOf loan reps asOf = ⟨ledger.balance, ledger.unpaid, 0,
      ledger.balance + ledger.unpaid + 0, ceilDays start asOf, asOf⟩ := by
  have tracks := books.tracksAt rate_nonneg later
  rw [compute_landed since perm fun r member => (books.landed r member).trans later]
  simp only
  rw [books.principalAt rate_nonneg later, books.interestAt rate_nonneg later,
    max_eq_left tracks.balance_nonneg, max_eq_left tracks.unpaid_nonneg]

end Books

/-- A call writes one credit, or it writes nothing and applies nothing. -/
theorem creditOnce_cases (params : CreditParams) (now : Time) (w : World) :
    ((creditOnce params now w).2 = w ∧ applied (creditOnce params now w).1 = false) ∨
    ∃ loan credit w', w.loans[params.loanId]? = some loan ∧
      planCredit params.amountNgn now loan (repaymentsOf w params.loanId) = .ok (some credit) ∧
      Written params loan credit now w w' ∧
      creditOnce params now w =
        (.ok (creditResult params credit, some (creditReceipt loan credit)), w') := by
  unfold creditOnce
  split
  · exact .inl ⟨rfl, rfl⟩
  · split
    · exact .inl ⟨rfl, rfl⟩
    · rename_i loan found
      split
      · exact .inl ⟨rfl, rfl⟩
      · exact .inl ⟨rfl, rfl⟩
      · rename_i credit planned
        split
        · exact .inl ⟨rfl, rfl⟩
        · rename_i w' wrote
          exact .inr ⟨loan, credit, w', found, planned,
            writeCredit_ok (planCredit_ok planned).1 wrote, rfl⟩

namespace Written
variable {params : CreditParams} {loan : Loan} {credit : Credit} {createdAt : Time} {w w' : World}

theorem repayments (wrote : Written params loan credit createdAt w w') :
    w'.repayments = w.repayments ++ [repaymentRow params credit createdAt] := by
  obtain ⟨_, _, _, _, rfl⟩ := wrote.eq
  rfl

theorem rows_other (wrote : Written params loan credit createdAt w w') {loanId : Nat}
    (other : params.loanId ≠ loanId) : rowsOf loanId w' = rowsOf loanId w := by
  simp [rowsOf, wrote.repayments, repaymentRow, other]

theorem rows_self (wrote : Written params loan credit createdAt w w') :
    rowsOf params.loanId w' = rowsOf params.loanId w ++ [repaymentRow params credit createdAt] := by
  simp [rowsOf, wrote.repayments, repaymentRow]

theorem moves (wrote : Written params loan credit createdAt w w') (loanId : Nat) :
    repaidMoves loanId w' = repaidMoves loanId w ++
      [(creditTransition params loan credit).log].filter fun log =>
        log.loanId = loanId ∧ log.fromStatus = some .active ∧ log.toStatus = .repaid := by
  obtain ⟨_, _, _, _, rfl⟩ := wrote.eq
  simp only [repaidMoves, List.filter_append]

theorem moves_other (wrote : Written params loan credit createdAt w w') {loanId : Nat}
    (other : params.loanId ≠ loanId) : repaidMoves loanId w' = repaidMoves loanId w := by
  simp [wrote.moves, TransitionParams.log, creditTransition, other]

end Written

theorem accrualInput_creditedLoan (params : CreditParams) (credit : Credit) (loan : Loan) :
    accrualInput (creditedLoan params credit loan) = accrualInput loan := by
  unfold creditedLoan
  split <;> rfl

theorem outstandingOf_congr {loan stored : Loan} (terms : accrualInput stored = accrualInput loan)
    (reps : List LoanRepayment) (asOf : Time) :
    outstandingOf stored reps asOf = outstandingOf loan reps asOf := by
  rw [outstandingOf, outstandingOf, terms]

/-- The waterfall over a replayed balance pays the ledger. -/
theorem waterfall_ledger {amount : ℚ} (nonneg : 0 ≤ amount) (ledger : Ledger ℚ) (total : ℚ)
    (days : Nat) (asOf : Time) :
    waterfall amount ⟨ledger.balance, ledger.unpaid, 0, total, days, asOf⟩ =
      ⟨0, min amount ledger.unpaid, min (amount - min amount ledger.unpaid) ledger.balance,
        amount - min amount ledger.unpaid -
          min (amount - min amount ledger.unpaid) ledger.balance⟩ := by
  simp only [waterfall, min_eq_right nonneg, sub_zero]

/-- A credit of another loan leaves the books alone. -/
theorem Books.frame {loanId : Nat} {start last : Time} {loan other : Loan} {ledger : Ledger ℚ}
    {params : CreditParams} {credit : Credit} {createdAt : Time} {w w' : World}
    (books : Books loanId start loan last ledger w)
    (wrote : Written params other credit createdAt w w') (different : params.loanId ≠ loanId) :
    Books loanId start loan last ledger w' := by
  have rows := wrote.rows_other different
  obtain ⟨stored, found, terms, standing⟩ := books.row
  refine ⟨⟨stored, (wrote.loan_other different).trans found, terms, ?_⟩, books.day, ?_, ?_, ?_⟩
  · have moves := wrote.moves_other different
    cases standing with
    | active is owes none => exact .active is owes (moves.trans none)
    | repaid is principal interest once => exact .repaid is principal interest (moves ▸ once)
  · rw [rows]; exact books.landed
  · rw [rows]; exact books.balanced
  · rw [rows]; exact books.tracks

section Credit
variable {start last : Time} {loan stored : Loan} {ledger : Ledger ℚ} {params : CreditParams}
  {credit : Credit} {now : Time} {w w' : World}

/-- What a credit decides is what the ledger decides. -/
theorem Books.plan (books : Books params.loanId start loan last ledger w)
    (since : loan.collateralReceivedAt = some start)
    (rate_nonneg : 0 ≤ loan.dailyInterestRateBps) (later : last ≤ now)
    (pos : 0 < params.amountNgn) (found : w.loans[params.loanId]? = some stored)
    (planned : planCredit params.amountNgn now stored (repaymentsOf w params.loanId) =
      .ok (some credit)) :
    let before := ledgerAt loan start ledger now
    let interest := min params.amountNgn before.unpaid
    let principal := min (params.amountNgn - interest) before.balance
    credit.split = ⟨0, interest, principal, params.amountNgn - interest - principal⟩ ∧
      credit.newOutstandingTotal =
        (before.pay params.amountNgn).balance + (before.pay params.amountNgn).unpaid := by
  obtain ⟨row, present, terms, _⟩ := books.row
  obtain rfl := Option.some.inj (found.symm.trans present)
  obtain ⟨_, _, split, total, _⟩ := planCredit_ok planned
  have balance := books.replay since rate_nonneg later (repaymentsOf_perm w params.loanId)
  rw [outstandingOf_congr terms, balance, waterfall_ledger pos.le] at split
  rw [outstandingOf_congr terms, balance, split] at total
  refine ⟨split, ?_⟩
  rw [total, Ledger.pay]
  ring

/-- The row a credit writes adds up, and takes nothing back. -/
theorem Books.row_balanced (books : Books params.loanId start loan last ledger w)
    (since : loan.collateralReceivedAt = some start)
    (rate_nonneg : 0 ≤ loan.dailyInterestRateBps) (later : last ≤ now)
    (pos : 0 < params.amountNgn) (found : w.loans[params.loanId]? = some stored)
    (planned : planCredit params.amountNgn now stored (repaymentsOf w params.loanId) =
      .ok (some credit)) (createdAt : Time) : RowBalanced (repaymentRow params credit createdAt) := by
  obtain ⟨split, _⟩ := books.plan since rate_nonneg later pos found planned
  have tracks := books.tracksAt rate_nonneg later
  have interest := le_min pos.le tracks.unpaid_nonneg
  have left : 0 ≤ params.amountNgn - min params.amountNgn (ledgerAt loan start ledger now).unpaid :=
    sub_nonneg.mpr (min_le_left _ _)
  have principal := le_min left tracks.balance_nonneg
  obtain ⟨_, _, eq, _⟩ := planCredit_ok planned
  refine ⟨by simp [repaymentRow, split], by simpa [repaymentRow, split] using interest,
    by simpa [repaymentRow, split] using principal, ?_⟩
  have sum := waterfall_sum params.amountNgn (outstandingOf stored (repaymentsOf w params.loanId) now)
  rw [← eq] at sum
  exact sum

/-- The loan is REPAID by the credit that clears the ledger, and by no other. -/
theorem Books.standing_pay (books : Books params.loanId start loan last ledger w)
    (since : loan.collateralReceivedAt = some start)
    (rate_nonneg : 0 ≤ loan.dailyInterestRateBps) (later : last ≤ now)
    (pos : 0 < params.amountNgn) (found : w.loans[params.loanId]? = some stored)
    (planned : planCredit params.amountNgn now stored (repaymentsOf w params.loanId) =
      .ok (some credit))
    (wrote : Written params stored credit now w w') :
    Standing params.loanId ((ledgerAt loan start ledger now).pay params.amountNgn)
      (creditedLoan params credit stored).status w' := by
  obtain ⟨_, total⟩ := books.plan since rate_nonneg later pos found planned
  obtain ⟨active, _, _, _, closes⟩ := planCredit_ok planned
  obtain ⟨row, present, _, standing⟩ := books.row
  obtain rfl := Option.some.inj (found.symm.trans present)
  have paid := (books.tracksAt rate_nonneg later).pay params.amountNgn
  cases standing with
  | repaid is => rw [active] at is; cases is
  | active _ owes none =>
    have moves := wrote.moves params.loanId
    rw [none, List.nil_append] at moves
    cases full : credit.isFullyRepaid with
    | true =>
      have cleared := closes.mp full
      rw [total] at cleared
      have principal := paid.balance_nonneg
      have interest := paid.unpaid_nonneg
      refine .repaid (by simp [creditedLoan, full]) (by linarith) (by linarith) ?_
      rw [moves]
      exact List.length_filter_le _ _
    | false =>
      have owing : ¬ credit.newOutstandingTotal ≤ 0 := fun le => by simp [closes.mpr le] at full
      refine .active (by simpa [creditedLoan, full] using active) ?_ ?_
      · -- Interest is paid first, so a cleared principal would have closed the loan.
        refine lt_of_le_of_ne paid.balance_nonneg fun cleared => owing ?_
        have before : 0 < (ledgerAt loan start ledger now).balance := by
          simpa [ledgerAt] using owes
        rw [total, ← cleared, Ledger.pay_clear before cleared.symm, add_zero]
      · simp [moves, creditTransition, TransitionParams.log, full]

/-- The row is the drop and the charge that the ledger's payment made. -/
theorem Books.tracks_pay (books : Books params.loanId start loan last ledger w)
    (since : loan.collateralReceivedAt = some start)
    (rate_nonneg : 0 ≤ loan.dailyInterestRateBps) (later : last ≤ now)
    (pos : 0 < params.amountNgn) (found : w.loans[params.loanId]? = some stored)
    (planned : planCredit params.amountNgn now stored (repaymentsOf w params.loanId) =
      .ok (some credit))
    (wrote : Written params stored credit now w w') :
    ((ledgerAt loan start ledger now).pay params.amountNgn).Tracks loan.principalNgn
      (rateFactor loan.dailyInterestRateBps)
      (drops start ((rowsOf params.loanId w').map toAccrualRepayment))
      ((rowsOf params.loanId w').map (·.appliedToInterest)).sum := by
  obtain ⟨split, _⟩ := books.plan since rate_nonneg later pos found planned
  have paid := (books.tracksAt rate_nonneg later).pay params.amountNgn
  have drop : drops start [toAccrualRepayment (repaymentRow params credit now)] =
      [((ledgerAt loan start ledger now).day, min (params.amountNgn -
        min params.amountNgn (ledgerAt loan start ledger now).unpaid)
        (ledgerAt loan start ledger now).balance)] := by
    simp [drops, toAccrualRepayment, repaymentRow, split, books.dayAt later]
  have interest : (repaymentRow params credit now).appliedToInterest =
      min params.amountNgn (ledgerAt loan start ledger now).unpaid := by
    simp [repaymentRow, split]
  rw [wrote.rows_self, List.map_append, List.map_append, List.sum_append]
  simp only [List.map_cons, List.map_nil, List.sum_cons, List.sum_nil, add_zero]
  rw [interest, drops, List.map_append, ← drops, ← drops, drop]
  exact paid.perm (List.perm_append_singleton _ _).symm

/-- The step: a credit of the loan is a payment of its ledger. -/
theorem Books.pay (books : Books params.loanId start loan last ledger w)
    (since : loan.collateralReceivedAt = some start)
    (rate_nonneg : 0 ≤ loan.dailyInterestRateBps) (later : last ≤ now)
    (pos : 0 < params.amountNgn) (found : w.loans[params.loanId]? = some stored)
    (planned : planCredit params.amountNgn now stored (repaymentsOf w params.loanId) =
      .ok (some credit))
    (wrote : Written params stored credit now w w') :
    Books params.loanId start loan now
      ((ledgerAt loan start ledger now).pay params.amountNgn) w' := by
  have standing := books.standing_pay since rate_nonneg later pos found planned wrote
  have tracks := books.tracks_pay since rate_nonneg later pos found planned wrote
  obtain ⟨row, present, terms, _⟩ := books.row
  obtain rfl := Option.some.inj (found.symm.trans present)
  refine ⟨⟨_, wrote.loan_self found, (accrualInput_creditedLoan ..).trans terms, standing⟩,
    (books.dayAt later).le, ?_, ?_, tracks⟩
  · intro r member
    rw [wrote.rows_self] at member
    rcases List.mem_append.mp member with old | new
    · exact (books.landed r old).trans later
    · obtain rfl := List.mem_singleton.mp new
      exact le_rfl
  · intro r member
    rw [wrote.rows_self] at member
    rcases List.mem_append.mp member with old | new
    · exact books.balanced r old
    · obtain rfl := List.mem_singleton.mp new
      exact books.row_balanced since rate_nonneg later pos found planned now

end Credit

theorem Books.mono {loanId : Nat} {start last later : Time} {loan : Loan} {ledger : Ledger ℚ}
    {w : World} (books : Books loanId start loan last ledger w) (le : last ≤ later) :
    Books loanId start loan later ledger w where
  row := books.row
  day := books.day.trans (ceilDays_mono start le)
  landed r member := (books.landed r member).trans le
  balanced := books.balanced
  tracks := books.tracks

/-- The run: the books of a loan are kept by every sequence of calls. -/
theorem Books.run {loanId : Nat} {start last : Time} {loan : Loan} {ledger : Ledger ℚ}
    {w : World} {calls : List CreditCall} (since : loan.collateralReceivedAt = some start)
    (rate_nonneg : 0 ≤ loan.dailyInterestRateBps) (books : Books loanId start loan last ledger w)
    (ordered : Ordered loanId last calls) :
    Books loanId start loan (lastTime loanId last calls)
      (runLedger loan start (creditsTo loanId calls w) ledger) (creditCalls calls w) := by
  induction calls generalizing last ledger w with
  | nil => exact books
  | cons call rest ih =>
    simp only [creditsTo, creditCalls, lastTime]
    rcases creditOnce_cases call.params call.now w with
      ⟨unchanged, refused⟩ | ⟨stored, credit, w', found, planned, wrote, once⟩
    · have nothing : ¬ (call.params.loanId = loanId ∧ false = true) := fun both => by simp at both
      rw [unchanged, refused, if_neg nothing]
      by_cases same : call.params.loanId = loanId
      · simp only [Ordered, if_pos same] at ordered ⊢
        exact ih (books.mono ordered.2.1) ordered.2.2
      · simp only [Ordered, if_neg same] at ordered ⊢
        exact ih books ordered
    · by_cases same : call.params.loanId = loanId
      · subst same
        simp only [Ordered, if_true] at ordered ⊢
        rw [once, if_pos ⟨trivial, rfl⟩]
        exact ih (books.pay since rate_nonneg ordered.2.1 ordered.1 found planned wrote) ordered.2.2
      · simp only [Ordered, if_neg same] at ordered ⊢
        rw [once, if_neg (fun both => same both.1)]
        exact ih (books.frame wrote same) ordered

/-- What the books say at an instant at or after the last call, in the words of the rows. -/
structure Conserved (loanId : Nat) (start : Time) (loan : Loan) (asOf : Time) (w : World) :
    Prop where
  principal : ((repaymentsOf w loanId).map (·.appliedToPrincipal)).sum ≤ loan.principalNgn
  carried : ∀ seg ∈ walked start (rateFactor loan.dailyInterestRateBps) (ceilDays start asOf)
      ⟨loan.principalNgn, 0, 0⟩ (relevant ((repaymentsOf w loanId).map toAccrualRepayment) asOf),
    0 ≤ seg.currentPrincipal
  interest : ((repaymentsOf w loanId).map (·.appliedToInterest)).sum ≤
    grossInterest loan.principalNgn loan.dailyInterestRateBps start (ceilDays start asOf)
      (relevant ((repaymentsOf w loanId).map toAccrualRepayment) asOf)
  custody : ∀ r ∈ repaymentsOf w loanId, r.appliedToCustody = 0
  unfloored_principal : (outstandingOf loan (repaymentsOf w loanId) asOf).principalNgn =
    loan.principalNgn - ((repaymentsOf w loanId).map (·.appliedToPrincipal)).sum
  unfloored_interest : (outstandingOf loan (repaymentsOf w loanId) asOf).accruedInterestNgn =
    grossInterest loan.principalNgn loan.dailyInterestRateBps start (ceilDays start asOf)
      (relevant ((repaymentsOf w loanId).map toAccrualRepayment) asOf) -
      ((repaymentsOf w loanId).map (·.appliedToInterest)).sum
  split : ∀ r ∈ repaymentsOf w loanId, r.appliedToCustody + r.appliedToInterest +
    r.appliedToPrincipal + r.overpayNgn = r.amountNgn
  repaid : ∃ stored, w.loans[loanId]? = some stored ∧
    (stored.status = .repaid ↔
      (outstandingOf stored (repaymentsOf w loanId) asOf).totalOutstandingNgn = 0)
  once : (repaidMoves loanId w).length ≤ 1

namespace Books
variable {loanId : Nat} {start last asOf : Time} {loan : Loan} {ledger : Ledger ℚ} {w : World}

theorem gross (books : Books loanId start loan last ledger w) (later : last ≤ asOf) :
    grossInterest loan.principalNgn loan.dailyInterestRateBps start (ceilDays start asOf)
      (relevant ((repaymentsOf w loanId).map toAccrualRepayment) asOf) =
    charged loan.principalNgn (rateFactor loan.dailyInterestRateBps)
      (drops start ((rowsOf loanId w).map toAccrualRepayment)) (ceilDays start asOf) := by
  have all : AccrualService.landed ((repaymentsOf w loanId).map toAccrualRepayment) asOf =
      (repaymentsOf w loanId).map toAccrualRepayment := by
    rw [landed_rows, counted_eq_self fun r member =>
      (books.landed r ((repaymentsOf_perm w loanId).mem_iff.mp member)).trans later]
  rw [AccrualService.landed] at all
  rw [grossInterest_relevant, all,
    charged_perm (drops_perm start ((repaymentsOf_perm w loanId).map toAccrualRepayment))]

theorem carried (books : Books loanId start loan last ledger w)
    (rate_nonneg : 0 ≤ loan.dailyInterestRateBps) (later : last ≤ asOf) {seg : Segments}
    {rate : ℚ} {day : Nat} (member : seg ∈ walked start rate day ⟨loan.principalNgn, 0, 0⟩
      (relevant ((repaymentsOf w loanId).map toAccrualRepayment) asOf)) :
    0 ≤ seg.currentPrincipal := by
  have order := relevant_perm ((repaymentsOf w loanId).map toAccrualRepayment) asOf
  have rows := (repaymentsOf_perm w loanId).map toAccrualRepayment
  have nonneg : ∀ r ∈ (rowsOf loanId w).map toAccrualRepayment, 0 ≤ r.appliedToPrincipal := by
    intro r among
    obtain ⟨row, held, rfl⟩ := List.mem_map.mp among
    exact (books.balanced row held).principal_nonneg
  have bound := walked_principal start rate day (fun r among =>
    nonneg r (rows.mem_iff.mp (List.mem_of_mem_filter (order.mem_iff.mp among)))) member
  have part : ((relevant ((repaymentsOf w loanId).map toAccrualRepayment) asOf).map
      (·.appliedToPrincipal)).sum ≤ (((rowsOf loanId w).map toAccrualRepayment).map
      (·.appliedToPrincipal)).sum := by
    rw [(order.map _).sum_eq, ← (rows.map _).sum_eq]
    exact List.Sublist.sum_le_sum (List.filter_sublist.map _) fun a among => by
      obtain ⟨r, held, rfl⟩ := List.mem_map.mp among
      exact nonneg r (rows.mem_iff.mp held)
  have left := books.principalAt rate_nonneg later
  have balance := (books.tracksAt rate_nonneg later).balance_nonneg
  rw [List.map_map] at part
  change _ ≤ ((rowsOf loanId w).map (·.appliedToPrincipal)).sum at part
  simp only at bound
  linarith

theorem conserved (books : Books loanId start loan last ledger w)
    (since : loan.collateralReceivedAt = some start)
    (rate_nonneg : 0 ≤ loan.dailyInterestRateBps) (later : last ≤ asOf) :
    Conserved loanId start loan asOf w := by
  have perm := repaymentsOf_perm w loanId
  have tracks := books.tracksAt rate_nonneg later
  have replay := books.replay since rate_nonneg later perm
  have principal := books.principalAt rate_nonneg later
  have interest := books.interestAt rate_nonneg later
  rw [← books.gross later, ← (perm.map (·.appliedToInterest)).sum_eq] at interest
  rw [← (perm.map (·.appliedToPrincipal)).sum_eq] at principal
  obtain ⟨stored, found, terms, standing⟩ := books.row
  have balanced : ∀ r ∈ repaymentsOf w loanId, RowBalanced r := fun r member =>
    books.balanced r (perm.mem_iff.mp member)
  refine ⟨?_, fun seg member => books.carried rate_nonneg later member, ?_,
    fun r member => (balanced r member).custody, ?_, ?_, fun r member => (balanced r member).sum,
    ⟨stored, found, ?_⟩, ?_⟩
  · have := tracks.balance_nonneg
    linarith
  · have := tracks.unpaid_nonneg
    linarith
  · rw [replay, principal]
  · rw [replay, interest]
  · rw [outstandingOf_congr terms, replay]
    cases standing with
    | active is owes =>
      have balance : 0 < (ledgerAt loan start ledger asOf).balance := by simpa [ledgerAt] using owes
      have := tracks.unpaid_nonneg
      constructor
      · intro repaid
        rw [is] at repaid
        cases repaid
      · intro cleared
        linarith
    | repaid is balance unpaid => simp [is, ledgerAt, balance, unpaid]
  · cases standing with
    | active _ _ none => simp [none]
    | repaid _ _ _ once => exact once

/-- The balance a credit reports by subtraction is the one replayed after it. -/
theorem reported {params : CreditParams} {now : Time} {before : Loan} {credit : Credit}
    {w' : World} (books : Books params.loanId start loan last ledger w)
    (since : loan.collateralReceivedAt = some start)
    (rate_nonneg : 0 ≤ loan.dailyInterestRateBps) (later : last ≤ now)
    (pos : 0 < params.amountNgn) (found : w.loans[params.loanId]? = some before)
    (planned : planCredit params.amountNgn now before (repaymentsOf w params.loanId) =
      .ok (some credit))
    (wrote : Written params before credit now w w') {reps : List LoanRepayment}
    (perm : reps.Perm (rowsOf params.loanId w')) :
    credit.newOutstandingTotal =
      (outstandingOf (creditedLoan params credit before) reps now).totalOutstandingNgn ∧
    0 ≤ credit.newOutstandingTotal := by
  obtain ⟨_, total⟩ := books.plan since rate_nonneg later pos found planned
  have after := books.pay since rate_nonneg later pos found planned wrote
  obtain ⟨row, present, terms, _⟩ := books.row
  obtain rfl := Option.some.inj (found.symm.trans present)
  have day : ((ledgerAt loan start ledger now).pay params.amountNgn).day = ceilDays start now :=
    books.dayAt later
  rw [outstandingOf_congr ((accrualInput_creditedLoan ..).trans terms),
    after.replay since rate_nonneg le_rfl perm, total]
  constructor
  · simp only [ledgerAt, Ledger.advance_balance, Ledger.advance_unpaid] at day ⊢
    rw [day]
    simp
  · exact add_nonneg after.tracks.balance_nonneg after.tracks.unpaid_nonneg

end Books

/-- Repayment accounting is conserved: whatever the calls, at any instant from the last
one on, what was applied never exceeds what was owed, and the loan is REPAID exactly when
nothing is. -/
theorem repayments_conserved {loanId : Nat} {start asOf : Time} {loan : Loan} {w : World}
    {calls : List CreditCall} (opened : Opened loanId start loan w)
    (ordered : Ordered loanId start calls) (later : lastTime loanId start calls ≤ asOf) :
    Conserved loanId start loan asOf (creditCalls calls w) :=
  (opened.books.run opened.since opened.rate_nonneg ordered).conserved opened.since
    opened.rate_nonneg later

def sampleLoan : Loan where
  userId := 0
  disbursementAccountId := 0
  collateralAmountSat := 250000
  principalNgn := 100000
  satNgnRateAtCreation := 1
  status := .active
  collateralReceivedAt := some 0

def sampleWorld : World where
  loans := [sampleLoan]
  inflows := [⟨some 0, 40000, .ngn, "va", "a", false, none, none, none, none, false, 0⟩,
    ⟨some 0, 80000, .ngn, "va", "b", false, none, none, none, none, false, 0⟩]

def sampleCalls : List CreditCall :=
  [⟨⟨0, 0, 40000, .autoAmount, false⟩, 10⟩, ⟨⟨1, 0, 80000, .customerClaim, true⟩, 20⟩]

theorem sampleWorld_opened : Opened 0 0 sampleLoan sampleWorld :=
  ⟨rfl, rfl, rfl, by decide, by decide, rfl, rfl⟩

theorem repayments_conserved_sample :
    (rowsOf 0 (creditCalls sampleCalls sampleWorld)).length = 2 ∧
      (repaidMoves 0 (creditCalls sampleCalls sampleWorld)).length = 1 ∧
      Conserved 0 0 sampleLoan 90000000 (creditCalls sampleCalls sampleWorld) :=
  ⟨by decide +kernel, by decide +kernel,
    repayments_conserved sampleWorld_opened (by simp [Ordered, sampleCalls]) (by decide)⟩

/-- The replay refines the ledger at every instant from the last call on, for any order of
the rows; and the balance the next credit reports is the one that is replayed after it. -/
theorem replay_refines_ledger {loanId : Nat} {start : Time} {loan : Loan} {w : World}
    {calls : List CreditCall} (opened : Opened loanId start loan w)
    (ordered : Ordered loanId start calls) :
    (∃ stored, (creditCalls calls w).loans[loanId]? = some stored ∧
      ∀ asOf reps, lastTime loanId start calls ≤ asOf →
        reps.Perm (rowsOf loanId (creditCalls calls w)) →
        let ledger :=
          ledgerAt loan start (referenceLedger loan start (creditsTo loanId calls w)) asOf
        let outstanding := outstandingOf stored reps asOf
        outstanding.principalNgn = ledger.balance ∧
          outstanding.accruedInterestNgn = ledger.unpaid ∧
          outstanding.totalOutstandingNgn = ledger.balance + ledger.unpaid) ∧
    (∀ params now result receipt w', params.loanId = loanId → 0 < params.amountNgn →
      lastTime loanId start calls ≤ now →
      creditOnce params now (creditCalls calls w) = (.ok (result, some receipt), w') →
      ∃ before credit after, (creditCalls calls w).loans[loanId]? = some before ∧
        planCredit params.amountNgn now before (repaymentsOf (creditCalls calls w) loanId) =
          .ok (some credit) ∧
        w'.loans[loanId]? = some after ∧
        ∀ reps, reps.Perm (rowsOf loanId w') →
          let total := (outstandingOf after reps now).totalOutstandingNgn
          credit.newOutstandingTotal = total ∧ receipt.outstandingNgn = total ∧
            result.outstandingNgn = displayNgn total .ceil) := by
  have books := opened.books.run opened.since opened.rate_nonneg ordered
  constructor
  · obtain ⟨stored, found, terms, _⟩ := books.row
    refine ⟨stored, found, fun asOf reps later perm => ?_⟩
    rw [outstandingOf_congr terms, books.replay opened.since opened.rate_nonneg later perm]
    exact ⟨rfl, rfl, add_zero _⟩
  · intro params now result receipt w' same pos later once
    subst same
    rcases creditOnce_cases params now (creditCalls calls w) with
      ⟨_, refused⟩ | ⟨before, credit, wrote', found, planned, wrote, ended⟩
    · rw [once] at refused
      cases refused
    · obtain ⟨outcome, rfl⟩ := Prod.mk.inj (once.symm.trans ended)
      obtain ⟨rfl, receipts⟩ := Prod.mk.inj (Except.ok.inj outcome)
      obtain rfl := Option.some.inj receipts
      refine ⟨before, credit, _, found, planned, wrote.loan_self found, fun reps perm => ?_⟩
      obtain ⟨total, nonneg⟩ :=
        books.reported opened.since opened.rate_nonneg later pos found planned wrote perm
      simp only [← total, creditReceipt, creditResult, max_eq_left nonneg, and_self]

theorem replay_refines_ledger_sample :
    let w := creditCalls (sampleCalls.take 1) sampleWorld
    (∃ stored, w.loans[0]? = some stored ∧ ∀ reps, reps.Perm (rowsOf 0 w) →
      (outstandingOf stored reps 90000000).principalNgn = 60300) ∧
    (ledgerAt sampleLoan 0 (referenceLedger sampleLoan 0
      (creditsTo 0 (sampleCalls.take 1) sampleWorld)) 90000000).balance = 60300 := by
  have refines := @replay_refines_ledger 0 0 sampleLoan sampleWorld (sampleCalls.take 1)
    sampleWorld_opened (by simp [Ordered, sampleCalls])
  have balance : (ledgerAt sampleLoan 0 (referenceLedger sampleLoan 0
      (creditsTo 0 (sampleCalls.take 1) sampleWorld)) 90000000).balance = 60300 := by
    decide +kernel
  obtain ⟨stored, found, replayed⟩ := refines.1
  refine ⟨⟨stored, found, fun reps perm => ?_⟩, balance⟩
  rw [(replayed 90000000 reps (by decide) perm).1, balance]

end Bitmonie.LoansService
