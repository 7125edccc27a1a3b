import Bitmonie.Collection
import Bitmonie.EarlierRepayment
import Bitmonie.Paging

/-! What the matchers of a collection take for a payoff. Both allow half a naira less than is
owed, and `creditInflow` closes a loan for nothing less than all of it. -/
namespace Bitmonie.PayoffMatch
open LoansService

/-- Interest goes first, so nothing is left exactly when the amount covers both. -/
theorem waterfall_clears_iff {amount principal interest : ℚ} (amount_nonneg : 0 ≤ amount)
    (interest_nonneg : 0 ≤ interest) (owed : 0 ≤ principal ∨ interest = 0) :
    principal + interest - min amount interest - min (amount - min amount interest) principal ≤ 0 ↔
      principal + interest ≤ amount := by
  rcases le_total amount interest with part | covers
  · rw [min_eq_left part, sub_self]
    rcases owed with nonneg | rfl
    · rw [min_eq_left nonneg]
      constructor <;> intro le <;> linarith
    · obtain rfl := le_antisymm part amount_nonneg
      rcases le_total 0 principal with nonneg | neg
      · simp [min_eq_left nonneg]
      · simp [neg]
  · rw [min_eq_right covers]
    rcases le_total (amount - interest) principal with part | all
    · rw [min_eq_left part]
      constructor <;> intro le <;> linarith
    · rw [min_eq_right all]
      constructor <;> intro le <;> linarith

/-- What a replayed balance looks like: no custody, and interest only next to principal. -/
theorem outstandingOf_parts (loan : Loan) (reps : List LoanRepayment) (asOf : Time) :
    let outstanding := outstandingOf loan reps asOf
    outstanding.accruedCustodyNgn = 0 ∧ 0 ≤ outstanding.accruedInterestNgn ∧
      (0 ≤ outstanding.principalNgn ∨ outstanding.accruedInterestNgn = 0) ∧
      outstanding.totalOutstandingNgn =
        outstanding.principalNgn + outstanding.accruedInterestNgn := by
  cases since : loan.collateralReceivedAt with
  | none => simp [outstandingOf, accrualInput, AccrualService.compute, since]
  | some start =>
    rw [outstandingOf_eq since]
    exact ⟨rfl, le_max_right _ _, .inl (le_max_right _ _), add_zero _⟩

theorem planCredit_closes_iff {amountNgn : ℚ} {now : Time} {loan : Loan}
    {reps : List LoanRepayment} {credit : Credit} (nonneg : 0 ≤ amountNgn)
    (planned : planCredit amountNgn now loan reps = .ok (some credit)) :
    credit.isFullyRepaid = true ↔
      (outstandingOf loan reps now).totalOutstandingNgn ≤ amountNgn := by
  obtain ⟨_, _, split, rest, closes⟩ := planCredit_ok planned
  obtain ⟨custody, interest, principal, total⟩ := outstandingOf_parts loan reps now
  rw [closes, rest, split, waterfall, custody, total, min_eq_right nonneg]
  simp only [sub_zero]
  exact waterfall_clears_iff nonneg interest principal

structure Payable (inflow : CreditParams) (w : World) : Prop where
  nonneg : 0 ≤ inflow.amountNgn
  floor : floorCheck inflow = .ok ()
  stored : inflow.inflowId < w.inflows.length
  unused : ∀ r ∈ w.repayments, r.inflowId ≠ inflow.inflowId

def LeavesRepaid (tid : Nat) (inflow : CreditParams) (loanId : Nat) (i : Answer) (w : World) : Prop :=
  ∃ result w' stored,
    (creditInflow tid { inflow with loanId := loanId }).atOnce i w = some (result, w') ∧
      w'.loans[loanId]? = some stored ∧ stored.status = .repaid

section Credit
variable {tid loanId userId : Nat} {inflow : CreditParams} {i : Answer} {w : World} {loan : Loan}

/-- A credit closes an ACTIVE loan exactly when it covers all that is owed. -/
theorem leavesRepaid_iff (succeeds : i.fails = false) (answered : i.lost = false)
    (free : w.rowLock loanId = none) (payable : Payable inflow w)
    (found : w.loans[loanId]? = some loan) (active : loan.status = .active) :
    LeavesRepaid tid inflow loanId i w ↔
      totalOutstanding w i.now (loanId, loan) ≤ inflow.amountNgn := by
  let params : CreditParams := { inflow with loanId := loanId }
  have accepts : Accepts params w :=
    ⟨payable.floor, ⟨loan, found, active⟩, payable.stored, payable.unused⟩
  obtain ⟨w', ran, same⟩ := creditInflow_atOnce tid params succeeds answered free
  rcases creditOnce_cases params i.now w with
    ⟨_, refused⟩ | ⟨before, credit, after, present, planned, wrote, once⟩
  · rw [accepts.writes i.now] at refused
    cases refused
  · obtain rfl := Option.some.inj (present.symm.trans found)
    have closes := planCredit_closes_iff payable.nonneg planned
    have left : w'.loans[loanId]? = some (creditedLoan params credit before) := by
      rw [once] at same
      exact (congrArg (fun left => left.loans[loanId]?) same).trans (wrote.loan_self present)
    rw [totalOutstanding, ← closes]
    constructor
    · rintro ⟨_, ended, stored, again, there, repaid⟩
      obtain ⟨-, rfl⟩ := Prod.mk.inj (Option.some.inj (ran.symm.trans again))
      obtain rfl := Option.some.inj (left.symm.trans there)
      by_contra open_still
      rw [creditedLoan, if_neg open_still, active] at repaid
      cases repaid
    · intro full
      exact ⟨_, w', _, ran, left, by simp [creditedLoan, full]⟩

end Credit

def WithinTolerance (w : World) (now : Time) (amountNgn : ℚ) (row : Nat × Loan) : Prop :=
  |totalOutstanding w now row - amountNgn| ≤ inflowOutstandingMatchToleranceNgn

instance (w : World) (now : Time) (amountNgn : ℚ) (row : Nat × Loan) :
    Decidable (WithinTolerance w now amountNgn row) := inferInstanceAs (Decidable (_ ≤ _))

/-- The first of the user's ACTIVE loans within the tolerance, by age and then by row. -/
structure Oldest (userId : Nat) (amountNgn : ℚ) (now : Time) (w : World) (row : Nat × Loan) : Prop where
  active : row ∈ activeLoansOf userId w
  within : WithinTolerance w now amountNgn row
  first : ∀ other ∈ activeLoansOf userId w, WithinTolerance w now amountNgn other →
    row.2.createdAt < other.2.createdAt ∨
      row.2.createdAt = other.2.createdAt ∧ row.1 ≤ other.1

section Matchers
variable {userId : Nat} {amountNgn : ℚ} {i : Answer} {w : World}

theorem Oldest.unique {now : Time} {row row' : Nat × Loan} (oldest : Oldest userId amountNgn now w row)
    (oldest' : Oldest userId amountNgn now w row') : row = row' := by
  have before := oldest.first row' oldest'.active oldest'.within
  have after := oldest'.first row oldest.active oldest.within
  have same : row.1 = row'.1 := by
    simp only [Time] at before after
    omega
  have found := (mem_findRows.mp oldest.active).1
  have found' := (mem_findRows.mp oldest'.active).1
  rw [same, found'] at found
  exact Prod.ext same (Option.some.inj found).symm

/-- The loans within the tolerance, as the matcher sorts them. -/
theorem head_oldest {now : Time} {row : Nat × Loan}
    (first : ((((activeLoansOf userId w).filter fun loan => |totalOutstanding w now loan - amountNgn| ≤
        inflowOutstandingMatchToleranceNgn).insertionSort fun a b =>
          a.2.createdAt ≤ b.2.createdAt).head?) = some row) :
    Oldest userId amountNgn now w row := by
  have order := (findRows_ordered w.loans fun loan =>
    loan.userId = userId ∧ loan.status = .active).filter fun loan =>
      |totalOutstanding w now loan - amountNgn| ≤ inflowOutstandingMatchToleranceNgn
  obtain ⟨among, least⟩ := @Paging.head_by _ _ (· ≤ ·) _ _ _ (fun row => row.2.createdAt) _ _ order _ first
  obtain ⟨active, within⟩ := List.mem_filter.mp among
  refine ⟨active, of_decide_eq_true within, fun other member close => ?_⟩
  rcases least other (List.mem_filter.mpr ⟨member, decide_eq_true close⟩) with rfl | ⟨le, before⟩
  · exact .inr ⟨rfl, le_rfl⟩
  · rcases le.lt_or_eq with earlier | same
    · exact .inl earlier
    · exact .inr ⟨same, (before same.ge).le⟩

/-- The matcher returns the oldest of the loans within the tolerance, and only if there is one. -/
theorem findActiveLoanMatchingOutstanding_iff (succeeds : i.fails = false) (loanId : Nat) :
    (findActiveLoanMatchingOutstanding userId amountNgn).atOnce i w = some (.ok (some loanId), w) ↔
      ∃ loan, Oldest userId amountNgn i.now w (loanId, loan) := by
  rw [findActiveLoanMatchingOutstanding, query_atOnce succeeds]
  simp only [Option.some.injEq, Prod.mk.injEq, and_true, Except.ok.injEq, Option.map_eq_some_iff]
  constructor
  · rintro ⟨row, first, rfl⟩
    exact ⟨row.2, head_oldest first⟩
  · rintro ⟨loan, oldest⟩
    have among : (loanId, loan) ∈ (activeLoansOf userId w).filter fun loan =>
        |totalOutstanding w i.now loan - amountNgn| ≤ inflowOutstandingMatchToleranceNgn :=
      List.mem_filter.mpr ⟨oldest.active, decide_eq_true oldest.within⟩
    have sorted := List.ne_nil_of_mem ((List.mem_insertionSort fun a b : Nat × Loan =>
      a.2.createdAt ≤ b.2.createdAt).mpr among)
    obtain ⟨row, first⟩ := Option.isSome_iff_exists.mp (List.isSome_head?.mpr sorted)
    exact ⟨row, first, congrArg Prod.fst ((head_oldest first).unique oldest)⟩

theorem amountClosesAnyActiveLoan_iff (succeeds : i.fails = false) :
    (amountClosesAnyActiveLoan userId amountNgn).atOnce i w = some (.ok true, w) ↔
      ∃ row ∈ activeLoansOf userId w,
        totalOutstanding w i.now row - inflowOutstandingMatchToleranceNgn ≤ amountNgn := by
  rw [amountClosesAnyActiveLoan, query_atOnce succeeds]
  simp

end Matchers

/-- What a matcher takes for a payoff is one. -/
structure PaysOff (tid userId : Nat) (inflow : CreditParams) (i : Answer) (w : World) : Prop where
  matched : ∀ loanId, (findActiveLoanMatchingOutstanding userId inflow.amountNgn).atOnce i w =
      some (.ok (some loanId), w) →
    (∃ loan, (loanId, loan) ∈ activeLoansOf userId w ∧
      WithinTolerance w i.now inflow.amountNgn (loanId, loan) ∧
      ∀ other ∈ activeLoansOf userId w, WithinTolerance w i.now inflow.amountNgn other →
        loan.createdAt ≤ other.2.createdAt) ∧ LeavesRepaid tid inflow loanId i w
  closes : (amountClosesAnyActiveLoan userId inflow.amountNgn).atOnce i w = some (.ok true, w) →
    ∃ row ∈ activeLoansOf userId w, LeavesRepaid tid inflow row.1 i w

structure Covers (userId : Nat) (amountNgn : ℚ) (now : Time) (w : World) : Prop where
  oldest : ∀ row, Oldest userId amountNgn now w row → totalOutstanding w now row ≤ amountNgn
  closing : (∃ row ∈ activeLoansOf userId w,
      totalOutstanding w now row - inflowOutstandingMatchToleranceNgn ≤ amountNgn) →
    ∃ row ∈ activeLoansOf userId w, totalOutstanding w now row ≤ amountNgn

/-- Matched payoffs pay off, exactly when the amount is not short of the balances. -/
theorem paysOff_iff (tid : Nat) {userId : Nat} {inflow : CreditParams} {i : Answer} {w : World}
    (succeeds : i.fails = false) (answered : i.lost = false)
    (free : ∀ row ∈ activeLoansOf userId w, w.rowLock row.1 = none) (payable : Payable inflow w) :
    PaysOff tid userId inflow i w ↔ Covers userId inflow.amountNgn i.now w := by
  have closes {row : Nat × Loan} (member : row ∈ activeLoansOf userId w) :
      LeavesRepaid tid inflow row.1 i w ↔ totalOutstanding w i.now row ≤ inflow.amountNgn := by
    obtain ⟨found, mine⟩ := mem_findRows.mp member
    have active : row.2.status = .active := by simp_all
    exact leavesRepaid_iff succeeds answered (free row member) payable found active
  constructor
  · rintro ⟨matched, closing⟩
    refine ⟨fun row oldest => ?_, fun some => ?_⟩
    · have found := (findActiveLoanMatchingOutstanding_iff succeeds row.1).mpr ⟨row.2, oldest⟩
      exact (closes oldest.active).mp (matched row.1 found).2
    · obtain ⟨row, member, repaid⟩ := closing ((amountClosesAnyActiveLoan_iff succeeds).mpr some)
      exact ⟨row, member, (closes member).mp repaid⟩
  · rintro ⟨oldest, closing⟩
    refine ⟨fun loanId found => ?_, fun some => ?_⟩
    · obtain ⟨loan, first⟩ := (findActiveLoanMatchingOutstanding_iff succeeds loanId).mp found
      refine ⟨⟨loan, first.active, first.within, fun other member within => ?_⟩,
        (closes first.active).mpr (oldest _ first)⟩
      rcases first.first other member within with earlier | ⟨same, _⟩
      · exact earlier.le
      · exact same.le
    · obtain ⟨row, member, covered⟩ := closing ((amountClosesAnyActiveLoan_iff succeeds).mp some)
      exact ⟨row, member, (closes member).mpr covered⟩

def owing : World where
  loans := [{
    userId := 0
    disbursementAccountId := 0
    collateralAmountSat := 250000
    principalNgn := 33333
    satNgnRateAtCreation := 6 / 10
    status := .active
    collateralReceivedAt := some 0 }]
  inflows := [⟨some 0, 33433, .ngn, "va", "a", false, none, none, none, none, false, 0⟩]

def oneDayOn : Answer := { now := 10 }

def transferOf (amountNgn : ℚ) : CreditParams := ⟨0, 0, amountNgn, .autoAmount, false⟩

theorem transferOf_payable {amountNgn : ℚ} (floor : minPartialRepaymentNgn ≤ amountNgn) :
    Payable (transferOf amountNgn) owing where
  nonneg := le_trans (by decide) floor
  floor := by simp [floorCheck, transferOf, not_lt.mpr floor]
  stored := Nat.zero_lt_one
  unused := by simp [owing]

/-- A transfer of 33433 is matched to the loan and closes it. -/
theorem paysOff_iff_covered : PaysOff 0 0 (transferOf 33433) oneDayOn owing := by
  have rows : activeLoansOf 0 owing = [(0, owing.loans[0])] := rfl
  have total : totalOutstanding owing 10 (0, owing.loans[0]) = 33432999 / 1000 := by decide +kernel
  refine (paysOff_iff 0 rfl rfl (fun _ _ => rfl) (transferOf_payable (by decide +kernel))).mpr
    ⟨fun row oldest => ?_, fun _ => ⟨(0, owing.loans[0]), by simp [rows], ?_⟩⟩
  · obtain rfl : row = (0, owing.loans[0]) := by simpa [rows] using oldest.active
    exact total.trans_le (by norm_num [transferOf])
  · exact total.trans_le (by norm_num [transferOf])

/-- Half a naira less is taken for a payoff as well, and leaves the loan ACTIVE. -/
theorem short_payoff_matched : ¬ PaysOff 0 0 (transferOf (66865 / 2)) oneDayOn owing := by
  rintro ⟨matched, -⟩
  have found : (findActiveLoanMatchingOutstanding 0 (66865 / 2)).atOnce oneDayOn owing =
      some (.ok (some 0), owing) := by
    rw [findActiveLoanMatchingOutstanding, query_atOnce rfl]
    have first : ((((activeLoansOf 0 owing).filter fun loan =>
        |totalOutstanding owing 10 loan - 66865 / 2| ≤
          inflowOutstandingMatchToleranceNgn).insertionSort fun a b =>
            a.2.createdAt ≤ b.2.createdAt).head?.map Prod.fst) = some 0 := by decide +kernel
    exact congrArg (fun id => some (Except.ok id, owing)) first
  obtain ⟨-, repaid⟩ := matched 0 found
  have covered := (leavesRepaid_iff rfl rfl rfl
    (transferOf_payable (by decide +kernel)) rfl rfl).mp repaid
  exact absurd covered (by decide +kernel)

end Bitmonie.PayoffMatch
