import Bitmonie.EarlierRepayment
import Bitmonie.FixedScale

/-! The repayment rows as the database keeps them: every amount is a `Decimal(20, 2)`, so
each component of a split is rounded on its own, while the status is decided from the
unrounded numbers. -/
namespace Bitmonie.LoansService
open DayAccrual AccrualService LoanStatusService FixedScale

/-- `@db.Decimal(20, 2)` -/
def toKobo (x : ℚ) : ℚ := atScale 100 x

def IsKobo (x : ℚ) : Prop := OnScale 100 x

/-- The row that `loanRepayment.create` leaves. -/
def persisted (r : LoanRepayment) : LoanRepayment :=
  { r with
    amountNgn := toKobo r.amountNgn
    appliedToPrincipal := toKobo r.appliedToPrincipal
    appliedToInterest := toKobo r.appliedToInterest
    appliedToCustody := toKobo r.appliedToCustody
    overpayNgn := toKobo r.overpayNgn }

/-- The rows that a call inserted go through their columns; the others are there already. -/
def storeRows (before after : World) : World :=
  { after with
    repayments := before.repayments ++
      (after.repayments.drop before.repayments.length).map persisted }

def creditStored (params : CreditParams) (now : Time) (w : World) :
    Except AppError (CreditInflowResult × Option RepaymentReceipt) × World :=
  ((creditOnce params now w).1, storeRows w (creditOnce params now w).2)

def storedCalls : List CreditCall → World → World
  | [], w => w
  | call :: rest, w => storedCalls rest (creditStored call.params call.now w).2

/-- The calls on the loan carry amounts of two decimals, at times that never decrease. -/
def KoboCalls (loanId : Nat) : Time → List CreditCall → Prop
  | _, [] => True
  | last, call :: rest =>
    if call.params.loanId = loanId then
      IsKobo call.params.amountNgn ∧ last ≤ call.now ∧ KoboCalls loanId call.now rest
    else KoboCalls loanId last rest

/-- Each row adds up, and the loan is ACTIVE as long as the rows leave something to pay. -/
structure LedgerExact (loanId : Nat) (last : Time) (w : World) : Prop where
  split : ∀ r ∈ rowsOf loanId w, r.appliedToCustody + r.appliedToInterest +
    r.appliedToPrincipal + r.overpayNgn = r.amountNgn
  status : ∀ stored, w.loans[loanId]? = some stored → ∀ asOf, last ≤ asOf →
    (stored.status = .active ↔
      0 < (outstandingOf stored (repaymentsOf w loanId) asOf).totalOutstandingNgn)

/-- The split of a credit survives its columns: it pays interest only, or the interest is
no tie and, when the credit clears the loan, is not rounded down. -/
def SplitStores (amountNgn : ℚ) (outstanding : Outstanding) : Prop :=
  amountNgn ≤ outstanding.accruedInterestNgn ∨
    ¬ Tie 100 outstanding.accruedInterestNgn ∧
      (outstanding.accruedInterestNgn ≤ toKobo outstanding.accruedInterestNgn ∨
        amountNgn < outstanding.accruedInterestNgn + outstanding.principalNgn)

instance (amountNgn : ℚ) (outstanding : Outstanding) :
    Decidable (SplitStores amountNgn outstanding) := inferInstanceAs (Decidable (_ ∨ _ ∧ (_ ∨ _)))

/-- Every credit that the loan accepts finds a balance that it stores exactly. -/
def EveryCreditStores (loanId : Nat) : List CreditCall → World → Prop
  | [], _ => True
  | call :: rest, w =>
    (call.params.loanId = loanId → Accepts call.params w → ∀ stored,
      w.loans[loanId]? = some stored →
      SplitStores call.params.amountNgn
        (outstandingOf stored (repaymentsOf w loanId) call.now)) ∧
    EveryCreditStores loanId rest (creditStored call.params call.now w).2

theorem storeRows_self (w : World) : storeRows w w = w := by simp [storeRows]

/-- What one stored credit was decided from, and what it left. -/
structure StoredWrite (params : CreditParams) (now : Time) (stored : Loan) (credit : Credit)
    (w w' : World) : Prop where
  found : w.loans[params.loanId]? = some stored
  planned : planCredit params.amountNgn now stored (repaymentsOf w params.loanId) =
    .ok (some credit)
  loan_self : w'.loans[params.loanId]? = some (creditedLoan params credit stored)
  loan_other : ∀ loanId, params.loanId ≠ loanId → w'.loans[loanId]? = w.loans[loanId]?
  repayments : w'.repayments = w.repayments ++ [persisted (repaymentRow params credit now)]

/-- A stored call that the loan does not accept writes nothing. -/
theorem creditStored_cases (params : CreditParams) (now : Time) (w : World) :
    (¬ Accepts params w ∧ (creditStored params now w).2 = w) ∨
    ∃ stored credit, Accepts params w ∧
      StoredWrite params now stored credit w (creditStored params now w).2 := by
  rcases creditOnce_cases params now w with ⟨unchanged, refused⟩ | ⟨loan, credit, w', found,
    planned, wrote, once⟩
  · refine .inl ⟨fun accepts => ?_, ?_⟩
    · simp [accepts.writes now] at refused
    · simp only [creditStored, unchanged, storeRows_self]
  · have accepts : Accepts params w := applied_iff.mp (by rw [once]; rfl : applied _ = true)
    have after : (creditStored params now w).2 = { w' with
        repayments := w.repayments ++ [persisted (repaymentRow params credit now)] } := by
      simp [creditStored, once, storeRows, wrote.repayments]
    rw [after]
    exact .inr ⟨loan, credit, accepts, found, planned, wrote.loan_self found,
      fun loanId other => wrote.loan_other other, rfl⟩

namespace StoredWrite
variable {params : CreditParams} {now : Time} {stored : Loan} {credit : Credit} {w w' : World}

theorem rows_self (wrote : StoredWrite params now stored credit w w') :
    rowsOf params.loanId w' =
      rowsOf params.loanId w ++ [persisted (repaymentRow params credit now)] := by
  simp [rowsOf, wrote.repayments, persisted, repaymentRow]

theorem rows_other (wrote : StoredWrite params now stored credit w w') {loanId : Nat}
    (other : params.loanId ≠ loanId) : rowsOf loanId w' = rowsOf loanId w := by
  simp [rowsOf, wrote.repayments, persisted, repaymentRow, other]

theorem repayments_other (wrote : StoredWrite params now stored credit w w') {loanId : Nat}
    (other : params.loanId ≠ loanId) : repaymentsOf w' loanId = repaymentsOf w loanId := by
  simp [repaymentsOf, wrote.repayments, persisted, repaymentRow, other]

end StoredWrite

/-- From the last row on, each day charges the principal that is left. -/
theorem interestLeft_later (loan : Loan) {start last asOf : Time} {rows : List LoanRepayment}
    (landed : ∀ r ∈ rows, r.createdAt ≤ last) (later : last ≤ asOf) :
    interestLeft loan start rows asOf = interestLeft loan start rows last +
      principalLeft loan rows * rateFactor loan.dailyInterestRateBps *
        ((ceilDays start asOf - ceilDays start last : Nat) : ℚ) := by
  have due : ∀ drop ∈ drops start (rows.map toAccrualRepayment), drop.1 ≤ ceilDays start last := by
    intro drop member
    obtain ⟨input, among, rfl⟩ := List.mem_map.mp member
    obtain ⟨r, held, rfl⟩ := List.mem_map.mp among
    exact ceilDays_mono start (landed r held)
  rw [interestLeft, interestLeft, charged_extend _ _ due (ceilDays_mono start later),
    total_drops_rows, principalLeft]
  ring

structure Stored (loanId : Nat) (start : Time) (loan : Loan) (last : Time) (w : World) :
    Prop where
  row : ∃ stored, w.loans[loanId]? = some stored ∧ accrualInput stored = accrualInput loan ∧
    (stored.status = .active ∨ stored.status = .repaid)
  landed : ∀ r ∈ rowsOf loanId w, r.createdAt ≤ last
  kobo : IsKobo (principalLeft loan (rowsOf loanId w))
  left_nonneg : 0 ≤ principalLeft loan (rowsOf loanId w)

theorem Opened.stored {loanId : Nat} {start : Time} {loan : Loan} {w : World}
    (opened : Opened loanId start loan w) (kobo : IsKobo loan.principalNgn) :
    Stored loanId start loan start w where
  row := ⟨loan, opened.found, rfl, .inl opened.active⟩
  landed := by simp [opened.no_rows]
  kobo := by simpa [opened.no_rows, principalLeft] using kobo
  left_nonneg := by simpa [opened.no_rows, principalLeft] using opened.principal_pos.le

theorem Stored.mono {loanId : Nat} {start last later : Time} {loan : Loan} {w : World}
    (here : Stored loanId start loan last w) (le : last ≤ later) :
    Stored loanId start loan later w :=
  { here with landed := fun r member => (here.landed r member).trans le }

/-- What the accrual service recomputes from the stored rows. -/
theorem Stored.outstanding {loanId : Nat} {start last asOf : Time} {loan stored : Loan} {w : World}
    (here : Stored loanId start loan last w) (since : loan.collateralReceivedAt = some start)
    (later : last ≤ asOf) (found : w.loans[loanId]? = some stored) :
    let principal := principalLeft loan (rowsOf loanId w)
    let interest := max (interestLeft loan start (rowsOf loanId w) asOf) 0
    outstandingOf stored (repaymentsOf w loanId) asOf =
      ⟨principal, interest, 0, principal + interest + 0, ceilDays start asOf, asOf⟩ := by
  obtain ⟨row, present, terms, _⟩ := here.row
  obtain rfl := Option.some.inj (found.symm.trans present)
  have left := here.left_nonneg
  rw [principalLeft] at left
  rw [outstandingOf_congr terms, compute_landed since (repaymentsOf_perm w loanId)
    fun r member => (here.landed r member).trans later]
  simp only [principalLeft, interestLeft, max_eq_left left]

/-- Whether anything is owed does not change with time alone. -/
theorem Stored.owes_later {loanId : Nat} {start last asOf : Time} {loan stored : Loan} {w : World}
    (here : Stored loanId start loan last w) (since : loan.collateralReceivedAt = some start)
    (later : last ≤ asOf) (found : w.loans[loanId]? = some stored) :
    0 < (outstandingOf stored (repaymentsOf w loanId) asOf).totalOutstandingNgn ↔
      0 < (outstandingOf stored (repaymentsOf w loanId) last).totalOutstandingNgn := by
  rw [here.outstanding since later found, here.outstanding since le_rfl found]
  simp only [add_zero]
  have left := here.left_nonneg
  have grown := @interestLeft_later loan start _ _ _ here.landed later
  rcases left.eq_or_lt with cleared | owes
  · rw [grown, ← cleared]
    simp
  · have rest (x : ℚ) : 0 < principalLeft loan (rowsOf loanId w) + max x 0 :=
      add_pos_of_pos_of_nonneg owes (le_max_right x 0)
    exact iff_of_true (rest _) (rest _)

section Split
variable {amount principal interest left total : ℚ} {days : Nat} {asOf : Time} {split : Split}

/-- A payment covers interest in part, interest and some principal, or everything. -/
theorem waterfall_cases (principal_nonneg : 0 ≤ principal) (interest_nonneg : 0 ≤ interest)
    (eq : split = waterfall amount ⟨principal, interest, 0, total, days, asOf⟩) :
    (amount ≤ interest ∧ split = ⟨min amount 0, max amount 0, 0, 0⟩) ∨
    (interest < amount ∧ amount < interest + principal ∧
      split = ⟨0, interest, amount - interest, 0⟩) ∨
    (interest < amount ∧ interest + principal ≤ amount ∧
      split = ⟨0, interest, principal, amount - interest - principal⟩) := by
  simp only [eq, waterfall]
  rcases le_or_gt amount interest with part | covers
  · refine .inl ⟨part, ?_⟩
    have rest : amount - min amount 0 = max amount 0 := by
      have sum := max_add_min amount 0
      linarith
    have interest_part : min (max amount 0) interest = max amount 0 :=
      min_eq_left (max_le part interest_nonneg)
    simp [rest, interest_part, principal_nonneg]
  · have custody : min amount 0 = 0 := min_eq_right (interest_nonneg.trans covers.le)
    rcases lt_or_ge amount (interest + principal) with less | all
    · refine .inr (.inl ⟨covers, less, ?_⟩)
      have principal_part : min (amount - interest) principal = amount - interest :=
        min_eq_left (by linarith)
      simp [custody, min_eq_right covers.le, principal_part]
    · refine .inr (.inr ⟨covers, all, ?_⟩)
      have principal_part : min (amount - interest) principal = principal :=
        min_eq_right (by linarith)
      simp [custody, min_eq_right covers.le, principal_part]

theorem toKobo_eq_self {x : ℚ} (kobo : IsKobo x) : toKobo x = x :=
  atScale_eq_self (by norm_num) kobo

/-- The stored split adds up to the amount, unless the interest is a tie. -/
theorem storedSplit_sum (principal_nonneg : 0 ≤ principal) (interest_nonneg : 0 ≤ interest)
    (paid : IsKobo amount) (owed : IsKobo principal)
    (eq : split = waterfall amount ⟨principal, interest, 0, total, days, asOf⟩) :
    toKobo split.appliedToCustody + toKobo split.appliedToInterest +
        toKobo split.appliedToPrincipal + toKobo split.overpayNgn = toKobo amount ↔
      amount ≤ interest ∨ ¬ Tie 100 interest := by
  have zero : toKobo 0 = 0 := toKobo_eq_self onScale_zero
  rcases waterfall_cases principal_nonneg interest_nonneg eq with
    ⟨part, rfl⟩ | ⟨covers, less, rfl⟩ | ⟨covers, all, rfl⟩
  · have sum : toKobo (min amount 0) + toKobo (max amount 0) = toKobo amount := by
      rcases le_total amount 0 with neg | pos
      · rw [min_eq_left neg, max_eq_right neg, zero, add_zero]
      · rw [min_eq_right pos, max_eq_left pos, zero, zero_add]
    simp [zero, sum, part]
  · have parts := atScale_parts_iff (by norm_num) interest_nonneg paid covers.le
    simp only [zero, zero_add, add_zero, not_le.mpr covers, false_or, toKobo_eq_self paid]
    exact parts
  · have parts := atScale_parts_iff (by norm_num) interest_nonneg (paid.sub owed)
      (by linarith : interest ≤ amount - principal)
    have rest : amount - interest - principal = amount - principal - interest := by ring
    simp only [zero, zero_add, not_le.mpr covers, false_or, toKobo_eq_self owed, rest,
      toKobo_eq_self paid]
    rw [← parts, toKobo, toKobo]
    constructor <;> intro sum <;> linarith

/-- With the stored split exact, the status that the unrounded numbers decide is the one
that the stored rows say, unless interest was rounded down while the loan was cleared. -/
theorem storedSplit_status (principal_nonneg : 0 ≤ principal) (owes : 0 < principal + max left 0)
    (paid : IsKobo amount) (owed : IsKobo principal)
    (sum : amount ≤ max left 0 ∨ ¬ Tie 100 (max left 0))
    (eq : split = waterfall amount ⟨principal, max left 0, 0, total, days, asOf⟩) :
    (0 < principal + max left 0 - split.appliedToCustody - split.appliedToInterest -
        split.appliedToPrincipal ↔
      0 < principal - toKobo split.appliedToPrincipal +
        max (left - toKobo split.appliedToInterest) 0) ↔
      amount ≤ max left 0 ∨ max left 0 ≤ toKobo (max left 0) ∨
        amount < max left 0 + principal := by
  have zero : toKobo 0 = 0 := toKobo_eq_self onScale_zero
  have interest_nonneg := le_max_right left 0
  have stored_nonneg : 0 ≤ toKobo (max left 0) := atScale_nonneg (by norm_num) interest_nonneg
  rcases waterfall_cases principal_nonneg interest_nonneg eq with
    ⟨part, rfl⟩ | ⟨covers, less, rfl⟩ | ⟨covers, all, rfl⟩
  · refine iff_of_true ?_ (.inl part)
    simp only [zero, sub_zero]
    rcases le_or_gt amount 0 with neg | pos
    · rw [min_eq_left neg, max_eq_right neg, zero, sub_zero, sub_zero]
      exact iff_of_true (by linarith) owes
    · have due : 0 < left := by
        by_contra none
        rw [max_eq_right (not_lt.mp none)] at part
        linarith
      rw [max_eq_left due.le] at part
      rw [min_eq_right pos.le, max_eq_left pos.le, toKobo_eq_self paid, max_eq_left due.le,
        max_eq_left (sub_nonneg.mpr part)]
      constructor <;> intro rest <;> linarith
  · refine iff_of_true (iff_of_true ?_ ?_) (.inr (.inr less))
    · simp only
      linarith
    · have parts : toKobo (max left 0) + toKobo (amount - max left 0) = amount :=
        (atScale_parts_iff (by norm_num) interest_nonneg paid covers.le).mpr
          (sum.resolve_left (not_le.mpr covers))
      have rest_nonneg := le_max_right (left - toKobo (max left 0)) 0
      simp only
      -- Rounded up, the principal keeps the rest; rounded down, the interest does.
      rcases le_or_gt (max left 0) (toKobo (max left 0)) with up | down
      · linarith
      · have due : 0 < left := by
          by_contra none
          rw [max_eq_right (not_lt.mp none), zero] at down
          exact lt_irrefl 0 down
        have kept : 0 < max (left - toKobo (max left 0)) 0 := by
          rw [max_eq_left due.le] at down ⊢
          exact lt_max_of_lt_left (sub_pos.mpr down)
        have principal_part : toKobo (amount - max left 0) ≤ principal :=
          atScale_le (by norm_num) (sub_nonneg.mpr covers.le) owed (by linarith)
        linarith
  · simp only [toKobo_eq_self owed, sub_self, zero_add, not_le.mpr covers, false_or,
      not_lt.mpr all, or_false, lt_max_iff, lt_irrefl, sub_pos]
    have cleared : ¬ principal < principal + max left 0 - 0 - max left 0 := by
      rw [sub_zero, add_sub_cancel_right]
      exact lt_irrefl principal
    rw [iff_false_left cleared, not_lt, max_le_iff]
    exact ⟨fun le => ⟨le, stored_nonneg⟩, fun le => le.1⟩

end Split

section Credit
variable {start last : Time} {loan stored : Loan} {params : CreditParams} {credit : Credit}
  {now : Time} {w w' : World}

/-- The row takes what the split says, rounded. -/
theorem StoredWrite.principal (wrote : StoredWrite params now stored credit w w') (loan : Loan) :
    principalLeft loan (rowsOf params.loanId w') =
      principalLeft loan (rowsOf params.loanId w) - toKobo credit.split.appliedToPrincipal := by
  rw [wrote.rows_self, principalLeft_append, List.map_singleton, List.sum_singleton]
  rfl

theorem StoredWrite.interest (wrote : StoredWrite params now stored credit w w') (loan : Loan)
    (start : Time) : interestLeft loan start (rowsOf params.loanId w') now =
      interestLeft loan start (rowsOf params.loanId w) now -
        toKobo credit.split.appliedToInterest := by
  have today : ∀ r ∈ [persisted (repaymentRow params credit now)],
      ceilDays start now ≤ ceilDays start r.createdAt := by
    simp [persisted, repaymentRow]
  rw [wrote.rows_self, interestLeft_append loan _ today, List.map_singleton, List.sum_singleton]
  rfl

/-- The credit was decided from the balance of the stored rows. -/
theorem StoredWrite.plan (wrote : StoredWrite params now stored credit w w')
    (here : Stored params.loanId start loan last w)
    (since : loan.collateralReceivedAt = some start) (later : last ≤ now) :
    let principal := principalLeft loan (rowsOf params.loanId w)
    let interest := max (interestLeft loan start (rowsOf params.loanId w) now) 0
    credit.split = waterfall params.amountNgn
        ⟨principal, interest, 0, principal + interest + 0, ceilDays start now, now⟩ ∧
      (credit.isFullyRepaid = true ↔ principal + interest - credit.split.appliedToCustody -
        credit.split.appliedToInterest - credit.split.appliedToPrincipal ≤ 0) := by
  obtain ⟨_, _, split, total, closes⟩ := planCredit_ok wrote.planned
  rw [here.outstanding since later wrote.found] at split total
  refine ⟨split, ?_⟩
  rw [closes, total]
  simp only [add_zero]

theorem Stored.pay (here : Stored params.loanId start loan last w)
    (wrote : StoredWrite params now stored credit w w')
    (since : loan.collateralReceivedAt = some start) (later : last ≤ now) :
    Stored params.loanId start loan now w' := by
  obtain ⟨row, present, terms, _⟩ := here.row
  obtain rfl := Option.some.inj (wrote.found.symm.trans present)
  have active := (planCredit_ok wrote.planned).1
  have kobo_row : IsKobo (toKobo credit.split.appliedToPrincipal) :=
    onScale_atScale (by norm_num) _
  refine ⟨⟨_, wrote.loan_self, (accrualInput_creditedLoan ..).trans terms, ?_⟩, ?_, ?_, ?_⟩
  · cases full : credit.isFullyRepaid with
    | true => exact .inr (by simp [creditedLoan, full])
    | false => exact .inl (by simpa [creditedLoan, full] using active)
  · intro r member
    rw [wrote.rows_self] at member
    rcases List.mem_append.mp member with old | new
    · exact (here.landed r old).trans later
    · obtain rfl := List.mem_singleton.mp new
      exact le_rfl
  · rw [wrote.principal]
    exact here.kobo.sub kobo_row
  · obtain ⟨split, _⟩ := wrote.plan here since later
    rw [wrote.principal, sub_nonneg]
    have interest_nonneg := le_max_right (interestLeft loan start (rowsOf params.loanId w) now) 0
    -- Rounding never passes the principal, which is on the scale.
    refine atScale_le (by norm_num) ?_ here.kobo ?_
    · rcases waterfall_cases here.left_nonneg interest_nonneg split with
        ⟨_, eq⟩ | ⟨covers, _, eq⟩ | ⟨_, _, eq⟩
      · rw [eq]
      · rw [eq]; exact sub_nonneg.mpr covers.le
      · rw [eq]; exact here.left_nonneg
    · rw [split]
      exact min_le_right _ _

theorem Stored.frame {loanId : Nat} (here : Stored loanId start loan last w)
    (wrote : StoredWrite params now stored credit w w') (other : params.loanId ≠ loanId) :
    Stored loanId start loan last w' := by
  obtain ⟨row, found, terms, status⟩ := here.row
  refine ⟨⟨row, (wrote.loan_other loanId other).trans found, terms, status⟩, ?_, ?_, ?_⟩
  · rw [wrote.rows_other other]; exact here.landed
  · rw [wrote.rows_other other]; exact here.kobo
  · rw [wrote.rows_other other]; exact here.left_nonneg

/-- The step: the stored ledger stays exact exactly when the split stores. -/
theorem StoredWrite.exact_iff (wrote : StoredWrite params now stored credit w w')
    (here : Stored params.loanId start loan last w)
    (since : loan.collateralReceivedAt = some start) (later : last ≤ now)
    (paid : IsKobo params.amountNgn) (exact : LedgerExact params.loanId last w) :
    LedgerExact params.loanId now w' ↔ SplitStores params.amountNgn
      (outstandingOf stored (repaymentsOf w params.loanId) now) := by
  have after := here.pay wrote since later
  have active := (planCredit_ok wrote.planned).1
  obtain ⟨split, closes⟩ := wrote.plan here since later
  have owes := (exact.status stored wrote.found now later).mp active
  rw [here.outstanding since later wrote.found] at owes ⊢
  simp only [add_zero] at owes
  have interest_nonneg := le_max_right (interestLeft loan start (rowsOf params.loanId w) now) 0
  have sums := storedSplit_sum here.left_nonneg interest_nonneg paid here.kobo split
  have row : (∀ r ∈ rowsOf params.loanId w', r.appliedToCustody + r.appliedToInterest +
      r.appliedToPrincipal + r.overpayNgn = r.amountNgn) ↔
      params.amountNgn ≤ max (interestLeft loan start (rowsOf params.loanId w) now) 0 ∨
        ¬ Tie 100 (max (interestLeft loan start (rowsOf params.loanId w) now) 0) := by
    rw [← sums, wrote.rows_self]
    simp only [List.forall_mem_append, List.forall_mem_singleton]
    exact ⟨fun all => all.2, fun new => ⟨exact.split, new⟩⟩
  have status : (∀ stored', w'.loans[params.loanId]? = some stored' → ∀ asOf, now ≤ asOf →
      (stored'.status = .active ↔ 0 <
        (outstandingOf stored' (repaymentsOf w' params.loanId) asOf).totalOutstandingNgn)) ↔
      (0 < principalLeft loan (rowsOf params.loanId w) +
          max (interestLeft loan start (rowsOf params.loanId w) now) 0 -
          credit.split.appliedToCustody - credit.split.appliedToInterest -
          credit.split.appliedToPrincipal ↔
        0 < principalLeft loan (rowsOf params.loanId w) - toKobo credit.split.appliedToPrincipal +
          max (interestLeft loan start (rowsOf params.loanId w) now -
            toKobo credit.split.appliedToInterest) 0) := by
    have total := congrArg (·.totalOutstandingNgn) (after.outstanding since le_rfl wrote.loan_self)
    simp only [wrote.principal, wrote.interest, add_zero] at total
    have moved : (creditedLoan params credit stored).status = .active ↔
        0 < principalLeft loan (rowsOf params.loanId w) +
          max (interestLeft loan start (rowsOf params.loanId w) now) 0 -
          credit.split.appliedToCustody - credit.split.appliedToInterest -
          credit.split.appliedToPrincipal := by
      rw [← not_le, ← closes]
      cases full : credit.isFullyRepaid with
      | true => simp [creditedLoan, full]
      | false => simpa [creditedLoan, full] using active
    rw [← total, ← moved]
    constructor
    · exact fun all => all _ wrote.loan_self now le_rfl
    · intro now_ stored' found' asOf later'
      obtain rfl := Option.some.inj (wrote.loan_self.symm.trans found')
      rw [after.owes_later since later' found']
      exact now_
  constructor
  · intro stays
    have sum := row.mp stays.split
    have state := status.mp stays.status
    rw [storedSplit_status here.left_nonneg owes paid here.kobo sum split] at state
    rcases sum with part | untied
    · exact .inl part
    · exact state.imp id fun rest => ⟨untied, rest⟩
  · intro stores
    have sum : params.amountNgn ≤ max (interestLeft loan start (rowsOf params.loanId w) now) 0 ∨
        ¬ Tie 100 (max (interestLeft loan start (rowsOf params.loanId w) now) 0) :=
      stores.imp id fun rest => rest.1
    refine ⟨row.mpr sum, status.mpr ?_⟩
    rw [storedSplit_status here.left_nonneg owes paid here.kobo sum split]
    exact stores.imp id fun rest => rest.2

theorem LedgerExact.frame {loanId : Nat} (exact : LedgerExact loanId last w)
    (wrote : StoredWrite params now stored credit w w') (other : params.loanId ≠ loanId) :
    LedgerExact loanId last w' where
  split := by rw [wrote.rows_other other]; exact exact.split
  status := by
    rw [wrote.loan_other loanId other, wrote.repayments_other other]
    exact exact.status

end Credit

theorem LedgerExact.mono {loanId : Nat} {last later : Time} {w : World}
    (exact : LedgerExact loanId last w) (le : last ≤ later) : LedgerExact loanId later w :=
  ⟨exact.split, fun stored found asOf after => exact.status stored found asOf (le.trans after)⟩

/-- A stored call on the loan: what it keeps, and when the ledger stays exact. -/
theorem creditStored_exact_iff {start last : Time} {loan : Loan} {call : CreditCall} {w : World}
    (here : Stored call.params.loanId start loan last w)
    (since : loan.collateralReceivedAt = some start) (later : last ≤ call.now)
    (paid : IsKobo call.params.amountNgn) (exact : LedgerExact call.params.loanId last w) :
    let w' := (creditStored call.params call.now w).2
    Stored call.params.loanId start loan call.now w' ∧
      (LedgerExact call.params.loanId call.now w' ↔ (Accepts call.params w → ∀ stored,
        w.loans[call.params.loanId]? = some stored → SplitStores call.params.amountNgn
          (outstandingOf stored (repaymentsOf w call.params.loanId) call.now))) := by
  rcases creditStored_cases call.params call.now w with ⟨refused, unchanged⟩ |
    ⟨stored, credit, accepts, wrote⟩
  · rw [unchanged]
    exact ⟨here.mono later, iff_of_true (exact.mono later) fun accepts => absurd accepts refused⟩
  · refine ⟨here.pay wrote since later, ?_⟩
    rw [wrote.exact_iff here since later paid exact]
    constructor
    · intro stores _ stored' found
      obtain rfl := Option.some.inj (wrote.found.symm.trans found)
      exact stores
    · exact fun stores => stores accepts stored wrote.found

/-- From an exact state on, the ledger is exact in every state of the run exactly when
every credit that is accepted finds a balance that it stores. -/
theorem Stored.run {loanId : Nat} {start last : Time} {loan : Loan} {w : World}
    {calls : List CreditCall} (here : Stored loanId start loan last w)
    (since : loan.collateralReceivedAt = some start) (kobo : KoboCalls loanId last calls)
    (exact : LedgerExact loanId last w) :
    (∀ n, LedgerExact loanId (lastTime loanId last (calls.take n))
      (storedCalls (calls.take n) w)) ↔ EveryCreditStores loanId calls w := by
  induction calls generalizing last w with
  | nil => exact iff_of_true (fun n => by simpa [lastTime, storedCalls] using exact) trivial
  | cons call rest ih =>
    have states (p : List CreditCall → Prop) :
        (∀ n, p ((call :: rest).take n)) ↔ p [] ∧ ∀ n, p (call :: rest.take n) :=
      ⟨fun all => ⟨all 0, fun n => all (n + 1)⟩,
        fun both n => by cases n with | zero => exact both.1 | succ n => exact both.2 n⟩
    rw [states fun calls => LedgerExact loanId (lastTime loanId last calls) (storedCalls calls w)]
    simp only [lastTime, storedCalls, EveryCreditStores]
    by_cases same : call.params.loanId = loanId
    · subst same
      simp only [KoboCalls, if_true] at kobo ⊢
      obtain ⟨here', step⟩ := creditStored_exact_iff here since kobo.2.1 kobo.1 exact
      constructor
      · intro all
        have next := all.2 0
        simp only [List.take_zero, lastTime, storedCalls] at next
        exact ⟨fun _ => step.mp next, (ih here' kobo.2.2 next).mp all.2⟩
      · rintro ⟨stores, later⟩
        exact ⟨exact, (ih here' kobo.2.2 (step.mpr (stores trivial))).mpr later⟩
    · simp only [KoboCalls, if_neg same] at kobo ⊢
      have elsewhere : ∀ p : Prop, (call.params.loanId = loanId → p) ↔ True :=
        fun p => iff_true_intro fun h => absurd h same
      rw [elsewhere, true_and]
      rcases creditStored_cases call.params call.now w with ⟨_, unchanged⟩ | ⟨_, _, _, wrote⟩
      · rw [unchanged, ih here kobo exact]
        exact ⟨fun all => all.2, fun all => ⟨exact, all⟩⟩
      · rw [ih (here.frame wrote same) kobo (exact.frame wrote same)]
        exact ⟨fun all => all.2, fun all => ⟨exact, all⟩⟩

theorem Opened.exact {loanId : Nat} {start : Time} {loan : Loan} {w : World}
    (opened : Opened loanId start loan w) (kobo : IsKobo loan.principalNgn) :
    LedgerExact loanId start w where
  split := by simp [opened.no_rows]
  status := by
    intro stored found asOf later
    obtain rfl := Option.some.inj (opened.found.symm.trans found)
    rw [(opened.stored kobo).outstanding opened.since later found]
    refine iff_of_true opened.active ?_
    have principal : principalLeft loan (rowsOf loanId w) = loan.principalNgn := by
      simp [principalLeft, opened.no_rows]
    rw [principal]
    exact add_pos_of_pos_of_nonneg (add_pos_of_pos_of_nonneg opened.principal_pos
      (le_max_right _ _)) le_rfl

/-- Over a whole history, in every state: the rows add up and the loan is ACTIVE exactly
while they leave something to pay, if and only if no credit met a balance it could not
store. -/
theorem stored_ledger_exact_iff {loanId : Nat} {start : Time} {loan : Loan} {w : World}
    {calls : List CreditCall} (opened : Opened loanId start loan w)
    (principal : IsKobo loan.principalNgn) (kobo : KoboCalls loanId start calls) :
    (∀ n, LedgerExact loanId (lastTime loanId start (calls.take n))
      (storedCalls (calls.take n) w)) ↔ EveryCreditStores loanId calls w :=
  (opened.stored principal).run opened.since kobo (opened.exact principal)

def oneLoanWorld (principalNgn : ℚ) : World :=
  { sampleWorld with loans := [{ sampleLoan with principalNgn := principalNgn }] }

theorem oneLoanWorld_opened {principalNgn : ℚ} (pos : 0 < principalNgn) :
    Opened 0 0 { sampleLoan with principalNgn := principalNgn } (oneLoanWorld principalNgn) :=
  ⟨rfl, rfl, rfl, pos, (by decide : (0 : Int) ≤ 30), rfl, rfl⟩

theorem stored_ledger_exact_iff_sample : EveryCreditStores 0 sampleCalls sampleWorld ∧
    ∀ n, LedgerExact 0 (lastTime 0 0 (sampleCalls.take n))
      (storedCalls (sampleCalls.take n) sampleWorld) := by
  have kobo : KoboCalls 0 0 sampleCalls :=
    ⟨⟨4000000, by decide +kernel⟩, by decide, ⟨8000000, by decide +kernel⟩, by decide, trivial⟩
  have stores : EveryCreditStores 0 sampleCalls sampleWorld := by
    refine ⟨fun _ _ stored found => ?_, fun _ _ stored found => ?_, trivial⟩
    · obtain rfl : sampleLoan = stored := Option.some.inj found
      decide +kernel
    · obtain rfl : sampleLoan = stored := Option.some.inj (Eq.trans (by decide +kernel) found)
      decide +kernel
  exact ⟨stores, (@stored_ledger_exact_iff 0 0 sampleLoan sampleWorld sampleCalls
    sampleWorld_opened ⟨10000000, by decide +kernel⟩ kobo).mpr stores⟩

/-- One day of interest on 10005 is 30.015, a tie: the stored parts of 20000 make 20000.01.
One day of interest on 100000.01 is 300.00003: a loan paid off keeps the 0.00003. -/
theorem stored_ledger_not_exact :
    (Opened 0 0 { sampleLoan with principalNgn := 10005 } (oneLoanWorld 10005) ∧
      ¬ LedgerExact 0 10
        (storedCalls [⟨⟨0, 0, 20000, .autoAmount, false⟩, 10⟩] (oneLoanWorld 10005))) ∧
    Opened 0 0 { sampleLoan with principalNgn := 10000001 / 100 }
        (oneLoanWorld (10000001 / 100)) ∧
      ¬ LedgerExact 0 10 (storedCalls [⟨⟨0, 0, 10030002 / 100, .autoAmount, false⟩, 10⟩]
        (oneLoanWorld (10000001 / 100))) := by
  refine ⟨⟨oneLoanWorld_opened (by norm_num), fun exact => ?_⟩,
    oneLoanWorld_opened (by norm_num), fun exact => ?_⟩
  · exact absurd exact.split (by decide +kernel)
  · have ends : ((storedCalls [⟨⟨0, 0, 10030002 / 100, .autoAmount, false⟩, 10⟩]
        (oneLoanWorld (10000001 / 100))).loans[0]?).any (fun stored => stored.status = .repaid ∧
          (outstandingOf stored (repaymentsOf (storedCalls
            [⟨⟨0, 0, 10030002 / 100, .autoAmount, false⟩, 10⟩] (oneLoanWorld (10000001 / 100))) 0)
            10).totalOutstandingNgn = 3 / 100000) = true := by decide +kernel
    obtain ⟨stored, found, ends⟩ := (Option.any_eq_true _ _).mp ends
    obtain ⟨repaid, owed⟩ := of_decide_eq_true ends
    have active := (exact.status stored found 10 le_rfl).mpr (by rw [owed]; norm_num)
    rw [repaid] at active
    cases active

end Bitmonie.LoansService
