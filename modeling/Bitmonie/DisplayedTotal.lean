import Mathlib
import Bitmonie.SameDayCredits

/-! Paying the displayed total. The text rounds what is owed up to whole naira, nothing accrues
before the day ends, and the waterfall keeps what is left: so the figure closes the loan for
less than a naira too much, and a naira less does not. -/
namespace Bitmonie.LoansService
open DayAccrual AccrualService LoanStatusService

/-- The text can be read back. -/
theorem displayNgn_ceil_read (amount : ℚ) :
    (displayNgn amount .ceil).toInt? = some ⌈amount⌉ := Int.toInt?_repr _

/-- What a credit of the whole naira above the balance leaves over. -/
theorem overpay_of_ceil (owed : ℚ) : 0 ≤ (⌈owed⌉ : ℚ) - owed ∧ (⌈owed⌉ : ℚ) - owed < 1 := by
  have above := Int.le_ceil owed
  have below := Int.ceil_lt_add_one owed
  constructor <;> linarith

structure OnlyCredit (params : CreditParams) (start shown now : Time) (loan : Loan) (w : World) :
    Prop where
  found : w.loans[params.loanId]? = some loan
  active : loan.status = .active
  since : loan.collateralReceivedAt = some start
  day : ceilDays start now = ceilDays start shown
  quiet : ∀ r ∈ rowsOf params.loanId w, r.createdAt ≤ now ↔ r.createdAt ≤ shown
  nonneg : 0 ≤ params.amountNgn
  floor : floorCheck params = .ok ()
  stored : params.inflowId < w.inflows.length
  unused : ∀ r ∈ w.repayments, r.inflowId ≠ params.inflowId

namespace OnlyCredit
variable {params : CreditParams} {start shown now : Time} {loan : Loan} {w : World}

theorem sameDay (only : OnlyCredit params start shown now loan w) :
    SameDay start shown (rowsOf params.loanId w) ([] ++ [⟨params, now⟩]) where
  inOrder := List.pairwise_singleton _ _
  day := by simpa using only.day
  quiet := by simpa using only.quiet

theorem books (only : OnlyCredit params start shown now loan w) :
    DayBooks params.loanId shown loan (rowsOf params.loanId w) [⟨params, now⟩]
      (creditOnce params now w).2 :=
  (DayBooks.opening shown only.since only.found only.active).credit only.since only.sameDay
    (by simpa using only.nonneg) rfl only.floor only.stored only.unused

/-- The loan is REPAID exactly when the amount covers what was owed. -/
theorem status (only : OnlyCredit params start shown now loan w) :
    ∃ stored, (creditOnce params now w).2.loans[params.loanId]? = some stored ∧
      (stored.status = if (outstandingOf loan (repaymentsOf w params.loanId)
        shown).totalOutstandingNgn ≤ params.amountNgn then .repaid else .active) := by
  obtain ⟨stored, found, _, status⟩ := only.books.row
  rw [openingOf_owed only.since, ← outstandingOf_perm loan (repaymentsOf_perm w params.loanId)]
    at status
  exact ⟨stored, found, by simpa using status⟩

/-- The row it writes keeps what is above the balance. -/
theorem overpay (only : OnlyCredit params start shown now loan w)
    (covers : (outstandingOf loan (repaymentsOf w params.loanId) shown).totalOutstandingNgn ≤
      params.amountNgn) :
    ∃ row, rowsOf params.loanId (creditOnce params now w).2 = rowsOf params.loanId w ++ [row] ∧
      row.inflowId = params.inflowId ∧ row.overpayNgn = params.amountNgn -
        (outstandingOf loan (repaymentsOf w params.loanId) shown).totalOutstandingNgn := by
  have accepts : Accepts params w :=
    ⟨only.floor, ⟨loan, only.found, only.active⟩, only.stored, only.unused⟩
  rcases creditOnce_cases params now w with
    ⟨_, refused⟩ | ⟨before, credit, w', present, planned, wrote, once⟩
  · rw [accepts.writes now] at refused
    cases refused
  · have opening := DayBooks.opening shown only.since only.found only.active
    obtain ⟨split, _⟩ := @DayBooks.plan params.loanId start shown loan (rowsOf params.loanId w) []
      ⟨params, now⟩ w before credit opening only.since only.sameDay (by simpa using only.nonneg)
      present planned
    obtain ⟨balance, unpaid⟩ := @openingOf_nonneg start shown loan (rowsOf params.loanId w) only.since
    rw [outstandingOf_perm loan (repaymentsOf_perm w params.loanId), ← openingOf_owed only.since]
      at covers ⊢
    refine ⟨repaymentRow params credit now, by rw [once, wrote.rows_self], rfl, ?_⟩
    rw [List.map_nil, List.sum_nil, Ledger.pay_zero balance unpaid] at split
    rw [repaymentRow, split]
    exact Ledger.pay_rest balance covers

theorem outstanding {stored : Loan} {asOf : Time} (only : OnlyCredit params start shown now loan w)
    (later : now ≤ asOf) (day : ceilDays start asOf = ceilDays start shown)
    (quiet : ∀ r ∈ rowsOf params.loanId w, r.createdAt ≤ asOf ↔ r.createdAt ≤ shown)
    (found : (creditOnce params now w).2.loans[params.loanId]? = some stored) :
    (outstandingOf stored (repaymentsOf (creditOnce params now w).2 params.loanId)
        asOf).totalOutstandingNgn =
      max ((outstandingOf loan (repaymentsOf w params.loanId) shown).totalOutstandingNgn -
        params.amountNgn) 0 := by
  obtain ⟨balance, _⟩ := @openingOf_nonneg start shown loan (rowsOf params.loanId w) only.since
  rw [only.books.outstanding only.since (by simpa using only.nonneg) (by simpa using only.day)
    (by simpa using later) day quiet found,
    outstandingOf_perm loan (repaymentsOf_perm w params.loanId), ← openingOf_owed only.since,
    ← Ledger.pay_owed balance]
  simp [Ledger.owed]

end OnlyCredit

/-- Paying the displayed total closes the loan, for less than a naira too much; any fewer whole
naira leave it ACTIVE, with something owed for the rest of the day. -/
theorem paying_displayed_total {params : CreditParams} {start shown now : Time} {loan : Loan}
    {w : World} (only : OnlyCredit params start shown now loan w) :
    let owed := (outstandingOf loan (repaymentsOf w params.loanId) shown).totalOutstandingNgn
    let after := (creditOnce params now w).2
    ∃ naira : Int, (displayNgn owed .ceil).toInt? = some naira ∧
      (params.amountNgn = naira →
        ∃ stored row, after.loans[params.loanId]? = some stored ∧ stored.status = .repaid ∧
          rowsOf params.loanId after = rowsOf params.loanId w ++ [row] ∧
          row.inflowId = params.inflowId ∧ 0 ≤ row.overpayNgn ∧ row.overpayNgn < 1) ∧
      (∀ less : Int, less < naira → params.amountNgn = less →
        ∃ stored, after.loans[params.loanId]? = some stored ∧ stored.status = .active ∧
          ∀ asOf, now ≤ asOf → ceilDays start asOf = ceilDays start shown →
            (∀ r ∈ rowsOf params.loanId w, r.createdAt ≤ asOf ↔ r.createdAt ≤ shown) →
            0 < (outstandingOf stored (repaymentsOf after params.loanId)
              asOf).totalOutstandingNgn) := by
  obtain ⟨stored, present, status⟩ := only.status
  refine ⟨_, displayNgn_ceil_read _, fun amount => ?_, fun less below amount => ?_⟩
  · have covers := Int.le_ceil
      (outstandingOf loan (repaymentsOf w params.loanId) shown).totalOutstandingNgn
    rw [← amount] at covers
    rw [if_pos covers] at status
    obtain ⟨row, rows, inflow, overpay⟩ := only.overpay covers
    refine ⟨stored, row, present, status, rows, inflow, ?_⟩
    rw [overpay, amount]
    exact overpay_of_ceil _
  · have short := Int.lt_ceil.mp below
    rw [← amount] at short
    rw [if_neg (not_le.mpr short)] at status
    refine ⟨stored, present, status, fun asOf later day quiet => ?_⟩
    rw [only.outstanding later day quiet present]
    exact lt_max_of_lt_left (sub_pos.mpr short)

def partlyPaid : World := creditCalls (sampleCalls.take 1) sampleWorld

def payoff (naira : Int) : CreditParams := ⟨1, 0, naira, .customerClaim, true⟩

theorem payoff_only {naira : Int} (nonneg : 0 ≤ naira) :
    OnlyCredit (payoff naira) 0 86400001 90000000 sampleLoan partlyPaid := by
  have found : partlyPaid.loans[0]? = some sampleLoan := by decide +kernel
  have quiet : ∀ r ∈ rowsOf 0 partlyPaid, r.createdAt ≤ 90000000 ↔ r.createdAt ≤ 86400001 := by
    decide +kernel
  have stored : 1 < partlyPaid.inflows.length := by decide +kernel
  have unused : ∀ r ∈ partlyPaid.repayments, r.inflowId ≠ 1 := by decide +kernel
  exact ⟨found, rfl, rfl, by decide, quiet, by simpa [payoff] using nonneg, rfl, stored, unused⟩

theorem paying_displayed_total_sample :
    (displayNgn (outstandingOf sampleLoan (repaymentsOf partlyPaid 0)
        86400001).totalOutstandingNgn .ceil).toInt? = some 60481 ∧
      (∃ stored row, (creditOnce (payoff 60481) 90000000 partlyPaid).2.loans[0]? = some stored ∧
        stored.status = .repaid ∧
        rowsOf 0 (creditOnce (payoff 60481) 90000000 partlyPaid).2 = rowsOf 0 partlyPaid ++ [row] ∧
        row.overpayNgn < 1) ∧
      ∃ stored, (creditOnce (payoff 60480) 90000000 partlyPaid).2.loans[0]? = some stored ∧
        stored.status = .active := by
  have owed : ⌈(outstandingOf sampleLoan (repaymentsOf partlyPaid 0)
      86400001).totalOutstandingNgn⌉ = 60481 := by decide +kernel
  have text := displayNgn_ceil_read (outstandingOf sampleLoan (repaymentsOf partlyPaid 0)
    86400001).totalOutstandingNgn
  rw [owed] at text
  obtain ⟨naira, read, closes, _⟩ := paying_displayed_total (@payoff_only 60481 (by decide))
  obtain ⟨naira', read', _, leaves⟩ := paying_displayed_total (@payoff_only 60480 (by decide))
  obtain rfl := Option.some.inj (read.symm.trans text)
  obtain rfl := Option.some.inj (read'.symm.trans text)
  obtain ⟨stored, row, present, repaid, rows, _, _, less⟩ := closes rfl
  obtain ⟨stored', present', active, _⟩ := leaves 60480 (by decide) rfl
  exact ⟨text, ⟨stored, row, present, repaid, rows, less⟩, stored', present', active⟩

end Bitmonie.LoansService
