import Bitmonie.EarlierRepayment

/-! The credits of one day. Nothing accrues between them, so each run of them is one payment
of their sum: the order does not matter, and the displayed total is what closes the loan. -/
namespace Bitmonie.LoansService
open DayAccrual AccrualService LoanStatusService

def openingOf (loan : Loan) (history : List LoanRepayment) (now : Time) : Ledger ℚ :=
  let outstanding := outstandingOf loan history now
  ⟨outstanding.principalNgn, outstanding.accruedInterestNgn, outstanding.daysElapsed⟩

/-- Rows of the loan that `w'` has and `w` has not. -/
def rowsWritten (loanId : Nat) (w w' : World) : List LoanRepayment :=
  (rowsOf loanId w').drop (rowsOf loanId w).length

/-- Calls one after another on the day of `now`, and no row of the history lands between. -/
structure SameDay (start now : Time) (history : List LoanRepayment) (calls : List CreditCall) :
    Prop where
  inOrder : calls.Pairwise fun a b => a.now ≤ b.now
  day : ∀ call ∈ calls, ceilDays start call.now = ceilDays start now
  quiet : ∀ call ∈ calls, ∀ r ∈ history, r.createdAt ≤ call.now ↔ r.createdAt ≤ now

/-- Stored inflows, none used yet, each credited once to the loan and let through by the floor. -/
structure Creditable (loanId : Nat) (inflows : List CreditParams) (w : World) : Prop where
  onLoan : ∀ params ∈ inflows, params.loanId = loanId
  nonneg : ∀ params ∈ inflows, 0 ≤ params.amountNgn
  floor : ∀ params ∈ inflows, floorCheck params = .ok ()
  stored : ∀ params ∈ inflows, params.inflowId < w.inflows.length
  unused : ∀ params ∈ inflows, ∀ r ∈ w.repayments, r.inflowId ≠ params.inflowId
  distinct : inflows.Pairwise fun a b => a.inflowId ≠ b.inflowId

/-- Rows written by the calls, and what they took from the ledger of the morning. -/
structure Taken (before after : Ledger ℚ) (calls : List CreditCall)
    (written : List LoanRepayment) : Prop where
  called : ∀ r ∈ written, ∃ call ∈ calls, r.createdAt = call.now
  principal : (written.map (·.appliedToPrincipal)).sum = before.balance - after.balance
  interest : (written.map (·.appliedToInterest)).sum = before.unpaid - after.unpaid

theorem counted_append {history written : List LoanRepayment} {asOf : Time}
    (landed : ∀ r ∈ written, r.createdAt ≤ asOf) :
    counted (history ++ written) asOf = counted history asOf ++ written := by
  rw [counted, List.filter_append, ← counted, ← counted, counted_eq_self landed]

theorem counted_congr {history : List LoanRepayment} {asOf now : Time}
    (quiet : ∀ r ∈ history, r.createdAt ≤ asOf ↔ r.createdAt ≤ now) :
    counted history asOf = counted history now :=
  List.filter_congr fun r member => by simp only [quiet r member]

theorem interestLeft_congr {start asOf now : Time} (day : ceilDays start asOf = ceilDays start now)
    (loan : Loan) (rows : List LoanRepayment) :
    interestLeft loan start rows asOf = interestLeft loan start rows now := by
  rw [interestLeft, day, interestLeft]

section Rows
variable {start now asOf : Time} {loan : Loan} {history written written' : List LoanRepayment}
  {calls calls' : List CreditCall}

theorem openingOf_eq (since : loan.collateralReceivedAt = some start) :
    openingOf loan history now = ⟨max (principalLeft loan (counted history now)) 0,
      max (interestLeft loan start (counted history now) now) 0, ceilDays start now⟩ := by
  rw [openingOf, outstandingOf_eq since]

theorem openingOf_nonneg (since : loan.collateralReceivedAt = some start) :
    0 ≤ (openingOf loan history now).balance ∧ 0 ≤ (openingOf loan history now).unpaid := by
  rw [openingOf_eq since]
  exact ⟨le_max_right _ _, le_max_right _ _⟩

theorem openingOf_owed (since : loan.collateralReceivedAt = some start) :
    (openingOf loan history now).owed = (outstandingOf loan history now).totalOutstandingNgn := by
  rw [openingOf_eq since, outstandingOf_eq since]
  exact (add_zero _).symm

/-- What is taken from a floored balance is taken from the balance under the floor. -/
theorem max_sub_taken {raw left : ℚ} (nonneg : 0 ≤ left) (le : left ≤ max raw 0) :
    max (raw - (max raw 0 - left)) 0 = left := by
  rcases le_total raw 0 with none | some
  · rw [max_eq_right none] at le ⊢
    rw [le_antisymm le nonneg, sub_zero, sub_zero, max_eq_right none]
  · rw [max_eq_left some, sub_sub_cancel, max_eq_left nonneg]

theorem drops_on_day {day : Nat} (called : ∀ r ∈ written, ∃ call ∈ calls, r.createdAt = call.now)
    (sameDay : ∀ call ∈ calls, ceilDays start call.now = day) :
    ∀ drop ∈ drops start (written.map toAccrualRepayment), drop.1 = day := by
  intro drop member
  obtain ⟨input, among, rfl⟩ := List.mem_map.mp member
  obtain ⟨r, wrote, rfl⟩ := List.mem_map.mp among
  obtain ⟨call, made, at_call⟩ := called r wrote
  have created : (toAccrualRepayment r).createdAt = call.now := at_call
  rw [created, sameDay call made]

namespace Taken
variable {before after : Ledger ℚ}

theorem landed (taken : Taken before after calls written)
    (later : ∀ call ∈ calls, call.now ≤ asOf) : ∀ r ∈ written, r.createdAt ≤ asOf := by
  intro r member
  obtain ⟨call, made, at_call⟩ := taken.called r member
  exact at_call.trans_le (later call made)

/-- One more row, split over what is left. -/
theorem append {call : CreditCall} {row : LoanRepayment} {amount : ℚ}
    (taken : Taken before after calls written) (at_call : row.createdAt = call.now)
    (interest : row.appliedToInterest = min amount after.unpaid)
    (principal : row.appliedToPrincipal = min (amount - min amount after.unpaid) after.balance) :
    Taken before (after.pay amount) (calls ++ [call]) (written ++ [row]) where
  called r member := by
    rcases List.mem_append.mp member with old | new
    · obtain ⟨c, made, at_call⟩ := taken.called r old
      exact ⟨c, by simp [made], at_call⟩
    · obtain rfl := List.mem_singleton.mp new
      exact ⟨call, by simp, at_call⟩
  principal := by
    simp only [List.map_append, List.sum_append, taken.principal, List.map_cons, List.map_nil,
      List.sum_cons, List.sum_nil, principal, Ledger.pay]
    ring
  interest := by
    simp only [List.map_append, List.sum_append, taken.interest, List.map_cons, List.map_nil,
      List.sum_cons, List.sum_nil, interest, Ledger.pay]
    ring

/-- On the day itself the rows leave what the ledger is left with. -/
theorem outstanding {paid : ℚ}
    (taken : Taken (openingOf loan history now) ((openingOf loan history now).pay paid) calls written)
    (since : loan.collateralReceivedAt = some start) (nonneg : 0 ≤ paid)
    (sameDay : ∀ call ∈ calls, ceilDays start call.now = ceilDays start now)
    (later : ∀ call ∈ calls, call.now ≤ asOf) (day : ceilDays start asOf = ceilDays start now)
    (quiet : ∀ r ∈ history, r.createdAt ≤ asOf ↔ r.createdAt ≤ now) :
    let left := (openingOf loan history now).pay paid
    outstandingOf loan (history ++ written) asOf =
      ⟨left.balance, left.unpaid, 0, left.balance + left.unpaid + 0, left.day, asOf⟩ := by
  obtain ⟨balance, unpaid⟩ := @openingOf_nonneg start now loan history since
  have opening := @openingOf_eq start now loan history since
  generalize openingOf loan history now = before at taken balance unpaid opening ⊢
  have late : ∀ r ∈ written, ceilDays start now ≤ ceilDays start r.createdAt := by
    intro r member
    obtain ⟨call, made, at_call⟩ := taken.called r member
    rw [at_call, sameDay call made]
  have less : (before.pay paid).balance ≤ before.balance :=
    (Ledger.pay_below balance unpaid nonneg).balance
  have part : (before.pay paid).unpaid ≤ before.unpaid :=
    sub_le_self _ (le_min nonneg unpaid)
  have left_balance : 0 ≤ (before.pay paid).balance := sub_nonneg.mpr (min_le_right _ _)
  have left_unpaid : 0 ≤ (before.pay paid).unpaid := sub_nonneg.mpr (min_le_right _ _)
  rw [outstandingOf_eq since, counted_append (taken.landed later), counted_congr quiet, day,
    interestLeft_congr day, principalLeft_append, taken.principal, interestLeft_append _ _ late,
    taken.interest]
  rw [opening] at less part left_balance left_unpaid ⊢
  simp only [max_sub_taken left_balance less, max_sub_taken left_unpaid part]
  rfl

/-- Rows of the day that took the same leave the same at every later instant. -/
theorem replay (taken : Taken before after calls written)
    (taken' : Taken before after calls' written')
    (since : loan.collateralReceivedAt = some start) {day : Nat}
    (sameDay : ∀ call ∈ calls, ceilDays start call.now = day)
    (sameDay' : ∀ call ∈ calls', ceilDays start call.now = day)
    (later : ∀ call ∈ calls, call.now ≤ asOf) (later' : ∀ call ∈ calls', call.now ≤ asOf) :
    outstandingOf loan (history ++ written) asOf =
      outstandingOf loan (history ++ written') asOf := by
  have same (d : Nat) : dropped (drops start ((counted history asOf ++ written).map toAccrualRepayment)) d =
      dropped (drops start ((counted history asOf ++ written').map toAccrualRepayment)) d := by
    rw [drops_append, drops_append, dropped_append, dropped_append,
      dropped_on_day (drops_on_day taken.called sameDay),
      dropped_on_day (drops_on_day taken'.called sameDay'), total_drops_rows, total_drops_rows,
      taken.principal, taken'.principal]
  have principal : principalLeft loan (counted history asOf ++ written) =
      principalLeft loan (counted history asOf ++ written') := by
    rw [principalLeft_append, principalLeft_append, taken.principal, taken'.principal]
  have interest : interestLeft loan start (counted history asOf ++ written) asOf =
      interestLeft loan start (counted history asOf ++ written') asOf := by
    rw [interestLeft, charged_congr same]
    simp only [interestLeft, List.map_append, List.sum_append, taken.interest, taken'.interest]
  rw [outstandingOf_eq since, outstandingOf_eq since, counted_append (taken.landed later),
    counted_append (taken'.landed later'), principal, interest]

end Taken
end Rows

/-- The loan after the calls: what they took is one payment of their sum, and the loan is
REPAID once that covers what the day opened with. -/
structure DayBooks (loanId : Nat) (now : Time) (loan : Loan) (history : List LoanRepayment)
    (calls : List CreditCall) (w : World) : Prop where
  row : ∃ stored, w.loans[loanId]? = some stored ∧ accrualInput stored = accrualInput loan ∧
    stored.status =
      if calls ≠ [] ∧ (openingOf loan history now).owed ≤ (calls.map (·.params.amountNgn)).sum
      then .repaid else .active
  rows : ∃ written, rowsOf loanId w = history ++ written ∧
    Taken (openingOf loan history now)
      ((openingOf loan history now).pay (calls.map (·.params.amountNgn)).sum) calls written

section Credits
variable {loanId : Nat} {start now : Time} {loan : Loan} {history : List LoanRepayment}
  {calls : List CreditCall} {call : CreditCall} {w : World}

theorem DayBooks.opening (now : Time) (since : loan.collateralReceivedAt = some start)
    (found : w.loans[loanId]? = some loan) (active : loan.status = .active) :
    DayBooks loanId now loan (rowsOf loanId w) [] w where
  row := ⟨loan, found, rfl, by simpa using active⟩
  rows := by
    obtain ⟨balance, unpaid⟩ := @openingOf_nonneg start now loan (rowsOf loanId w) since
    have nothing : ([] : List CreditCall).map (·.params.amountNgn) = [] := rfl
    refine ⟨[], (List.append_nil _).symm, by simp, ?_, ?_⟩ <;>
      simp [nothing, Ledger.pay_zero balance unpaid]

theorem SameDay.before (sameDay : SameDay start now history (calls ++ [call])) :
    ∀ earlier ∈ calls, earlier.now ≤ call.now := fun earlier member =>
  (List.pairwise_append.mp sameDay.inOrder).2.2 earlier member call (by simp)

theorem paid_nonneg (nonneg : ∀ call ∈ calls, 0 ≤ call.params.amountNgn) :
    0 ≤ (calls.map (·.params.amountNgn)).sum := by
  apply List.sum_nonneg
  intro amount member
  obtain ⟨call, made, rfl⟩ := List.mem_map.mp member
  exact nonneg call made

/-- The replay the next credit of the day starts from. -/
theorem DayBooks.outstanding {asOf : Time} {stored : Loan}
    (books : DayBooks loanId now loan history calls w)
    (since : loan.collateralReceivedAt = some start)
    (nonneg : ∀ call ∈ calls, 0 ≤ call.params.amountNgn)
    (sameDay : ∀ call ∈ calls, ceilDays start call.now = ceilDays start now)
    (later : ∀ call ∈ calls, call.now ≤ asOf) (day : ceilDays start asOf = ceilDays start now)
    (quiet : ∀ r ∈ history, r.createdAt ≤ asOf ↔ r.createdAt ≤ now)
    (found : w.loans[loanId]? = some stored) :
    let left := (openingOf loan history now).pay (calls.map (·.params.amountNgn)).sum
    outstandingOf stored (repaymentsOf w loanId) asOf =
      ⟨left.balance, left.unpaid, 0, left.balance + left.unpaid + 0, left.day, asOf⟩ := by
  obtain ⟨row, present, terms, _⟩ := books.row
  obtain rfl := Option.some.inj (found.symm.trans present)
  obtain ⟨written, rows, taken⟩ := books.rows
  rw [outstandingOf_congr terms, outstandingOf_perm loan (repaymentsOf_perm w loanId), rows]
  exact taken.outstanding since (paid_nonneg nonneg) sameDay later day quiet

/-- What the credit decides. -/
theorem DayBooks.plan {stored : Loan} {credit : Credit}
    (books : DayBooks loanId now loan history calls w)
    (since : loan.collateralReceivedAt = some start)
    (sameDay : SameDay start now history (calls ++ [call]))
    (nonneg : ∀ c ∈ calls ++ [call], 0 ≤ c.params.amountNgn)
    (found : w.loans[loanId]? = some stored)
    (planned : planCredit call.params.amountNgn call.now stored (repaymentsOf w loanId) =
      .ok (some credit)) :
    let left := (openingOf loan history now).pay (calls.map (·.params.amountNgn)).sum
    let interest := min call.params.amountNgn left.unpaid
    let principal := min (call.params.amountNgn - interest) left.balance
    credit.split = ⟨0, interest, principal, call.params.amountNgn - interest - principal⟩ ∧
      (credit.isFullyRepaid = true ↔ (openingOf loan history now).owed ≤
        (calls.map (·.params.amountNgn)).sum + call.params.amountNgn) := by
  have amount : 0 ≤ call.params.amountNgn := nonneg call (by simp)
  obtain ⟨balance, _⟩ := @openingOf_nonneg start now loan history since
  have replayed := books.outstanding since (fun c made => nonneg c (by simp [made]))
    (fun c made => sameDay.day c (by simp [made])) sameDay.before (sameDay.day call (by simp))
    (sameDay.quiet call (by simp)) found
  obtain ⟨_, _, split, total, closes⟩ := planCredit_ok planned
  rw [replayed, waterfall_ledger amount] at split
  rw [replayed, split] at total
  refine ⟨split, ?_⟩
  have left : credit.newOutstandingTotal = (((openingOf loan history now).pay
      (calls.map (·.params.amountNgn)).sum).pay call.params.amountNgn).owed := by
    rw [total, Ledger.owed]
    simp only [Ledger.pay]
    ring
  rw [closes, left, Ledger.pay_pay balance amount, Ledger.pay_owed balance, max_le_iff, sub_nonpos]
  simp

/-- The row the credit writes takes what one more payment does. -/
theorem DayBooks.write {stored : Loan} {credit : Credit} {w' : World}
    (books : DayBooks call.params.loanId now loan history calls w)
    (since : loan.collateralReceivedAt = some start)
    (sameDay : SameDay start now history (calls ++ [call]))
    (nonneg : ∀ c ∈ calls ++ [call], 0 ≤ c.params.amountNgn)
    (found : w.loans[call.params.loanId]? = some stored)
    (planned : planCredit call.params.amountNgn call.now stored
      (repaymentsOf w call.params.loanId) = .ok (some credit))
    (wrote : Written call.params stored credit call.now w w') :
    DayBooks call.params.loanId now loan history (calls ++ [call]) w' := by
  obtain ⟨split, closes⟩ := books.plan since sameDay nonneg found planned
  obtain ⟨active, _⟩ := planCredit_ok planned
  obtain ⟨balance, _⟩ := @openingOf_nonneg start now loan history since
  obtain ⟨row, present, terms, _⟩ := books.row
  obtain rfl := Option.some.inj (found.symm.trans present)
  obtain ⟨written, rows, taken⟩ := books.rows
  have paid : ((calls ++ [call]).map (·.params.amountNgn)).sum =
      (calls.map (·.params.amountNgn)).sum + call.params.amountNgn := by simp
  constructor
  · refine ⟨_, wrote.loan_self found, (accrualInput_creditedLoan ..).trans terms, ?_⟩
    rw [paid]
    by_cases full : credit.isFullyRepaid = true
    · simp [creditedLoan, full, closes.mp full]
    · simp [creditedLoan, full, active, mt closes.mpr full]
  · refine ⟨written ++ [repaymentRow call.params credit call.now],
      by rw [wrote.rows_self, rows, List.append_assoc], ?_⟩
    rw [paid, ← Ledger.pay_pay balance (nonneg call (by simp))]
    exact taken.append rfl (by simp [repaymentRow, split]) (by simp [repaymentRow, split])

/-- The step: a credit that is let through is one more payment, or it comes too late. -/
theorem DayBooks.credit (books : DayBooks loanId now loan history calls w)
    (since : loan.collateralReceivedAt = some start)
    (sameDay : SameDay start now history (calls ++ [call]))
    (nonneg : ∀ c ∈ calls ++ [call], 0 ≤ c.params.amountNgn)
    (onLoan : call.params.loanId = loanId) (floor : floorCheck call.params = .ok ())
    (stored : call.params.inflowId < w.inflows.length)
    (unused : ∀ r ∈ w.repayments, r.inflowId ≠ call.params.inflowId) :
    DayBooks loanId now loan history (calls ++ [call]) (creditOnce call.params call.now w).2 := by
  subst onLoan
  obtain ⟨row, found, terms, status⟩ := books.row
  by_cases closed : calls ≠ [] ∧
      (openingOf loan history now).owed ≤ (calls.map (·.params.amountNgn)).sum
  · -- A REPAID loan takes nothing more.
    rw [if_pos closed] at status
    have same : (creditOnce call.params call.now w).2 = w := by
      simp [creditOnce, floor, found, planCredit, status]
    have paid : ((calls ++ [call]).map (·.params.amountNgn)).sum =
        (calls.map (·.params.amountNgn)).sum + call.params.amountNgn := by simp
    have covers : (openingOf loan history now).owed ≤
        ((calls ++ [call]).map (·.params.amountNgn)).sum := by
      rw [paid]
      exact closed.2.trans (le_add_of_nonneg_right (nonneg call (by simp)))
    obtain ⟨balance, _⟩ := @openingOf_nonneg start now loan history since
    obtain ⟨principal, interest⟩ := Ledger.pay_owed_zero balance closed.2
    obtain ⟨principal', interest'⟩ := Ledger.pay_owed_zero balance covers
    obtain ⟨written, rows, taken⟩ := books.rows
    rw [same]
    refine ⟨⟨row, found, terms, ?_⟩, written, rows, ?_, ?_, ?_⟩
    · rw [if_pos ⟨by simp, covers⟩, status]
    · intro r member
      obtain ⟨c, made, at_call⟩ := taken.called r member
      exact ⟨c, by simp [made], at_call⟩
    · rw [taken.principal, principal, principal']
    · rw [taken.interest, interest, interest']
  · rw [if_neg closed] at status
    have accepts : Accepts call.params w := ⟨floor, ⟨row, found, status⟩, stored, unused⟩
    rcases creditOnce_cases call.params call.now w with
      ⟨_, refused⟩ | ⟨before, credit, w', present, planned, wrote, once⟩
    · rw [accepts.writes call.now] at refused
      cases refused
    · rw [once]
      exact books.write since sameDay nonneg present planned wrote

end Credits

theorem SameDay.first {start now : Time} {history : List LoanRepayment}
    {first second : List CreditCall} (sameDay : SameDay start now history (first ++ second)) :
    SameDay start now history first where
  inOrder := (List.pairwise_append.mp sameDay.inOrder).1
  day call made := sameDay.day call (List.mem_append_left _ made)
  quiet call made := sameDay.quiet call (List.mem_append_left _ made)

theorem Creditable.perm {loanId : Nat} {inflows inflows' : List CreditParams} {w : World}
    (creditable : Creditable loanId inflows w) (order : inflows'.Perm inflows) :
    Creditable loanId inflows' w where
  onLoan params member := creditable.onLoan params (order.mem_iff.mp member)
  nonneg params member := creditable.nonneg params (order.mem_iff.mp member)
  floor params member := creditable.floor params (order.mem_iff.mp member)
  stored params member := creditable.stored params (order.mem_iff.mp member)
  unused params member := creditable.unused params (order.mem_iff.mp member)
  distinct := order.symm.pairwise creditable.distinct fun different => different.symm

/-- A credit leaves the other inflows as they are. -/
theorem Creditable.rest {loanId : Nat} {params : CreditParams} {inflows : List CreditParams}
    {w : World} (creditable : Creditable loanId (params :: inflows) w) (now : Time) :
    Creditable loanId inflows (creditOnce params now w).2 := by
  obtain ⟨others, distinct⟩ := List.pairwise_cons.mp creditable.distinct
  have later {p : CreditParams} (member : p ∈ inflows) : p ∈ params :: inflows :=
    List.mem_cons_of_mem _ member
  refine ⟨fun p member => creditable.onLoan p (later member),
    fun p member => creditable.nonneg p (later member),
    fun p member => creditable.floor p (later member), ?_, ?_, distinct⟩
  all_goals
    intro p member
    have stored := creditable.stored p (later member)
    have unused := creditable.unused p (later member)
    rcases creditOnce_cases params now w with ⟨unchanged, _⟩ | ⟨_, credit, w', _, _, wrote, once⟩
  · rwa [unchanged]
  · rw [once]
    obtain ⟨_, _, _, _, rfl⟩ := wrote.eq
    simpa using stored
  · rwa [unchanged]
  · rw [once, wrote.repayments]
    simpa [or_imp, forall_and, repaymentRow] using ⟨unused, others p member⟩

/-- The run: the calls of the day, each let through. -/
theorem DayBooks.run {loanId : Nat} {start now : Time} {loan : Loan}
    {history : List LoanRepayment} {done calls : List CreditCall} {w : World}
    (books : DayBooks loanId now loan history done w)
    (since : loan.collateralReceivedAt = some start)
    (sameDay : SameDay start now history (done ++ calls))
    (nonneg : ∀ c ∈ done ++ calls, 0 ≤ c.params.amountNgn)
    (creditable : Creditable loanId (calls.map (·.params)) w) :
    DayBooks loanId now loan history (done ++ calls) (creditCalls calls w) := by
  induction calls generalizing done w with
  | nil => simpa [creditCalls] using books
  | cons call rest ih =>
    rw [List.append_cons] at sameDay nonneg ⊢
    rw [List.map_cons] at creditable
    have credited := books.credit since sameDay.first
      (fun c made => nonneg c (List.mem_append_left _ made)) (creditable.onLoan _ (by simp))
      (creditable.floor _ (by simp)) (creditable.stored _ (by simp))
      (creditable.unused _ (by simp))
    exact ih credited sameDay nonneg (creditable.rest call.now)

/-- Credits of one day commute: the loan, its balance at every later instant and what was
applied in all are the same for every order, and the loan is REPAID exactly when the amounts
reach what was owed before the first. -/
theorem sameDay_credits_commute {loanId : Nat} {start now : Time} {loan : Loan} {w : World}
    {calls calls' : List CreditCall} (found : w.loans[loanId]? = some loan)
    (active : loan.status = .active) (since : loan.collateralReceivedAt = some start)
    (creditable : Creditable loanId (calls.map (·.params)) w)
    (sameDay : SameDay start now (rowsOf loanId w) calls)
    (sameDay' : SameDay start now (rowsOf loanId w) calls')
    (order : (calls'.map (·.params)).Perm (calls.map (·.params))) :
    let after := creditCalls calls w
    let after' := creditCalls calls' w
    let owed := (outstandingOf loan (repaymentsOf w loanId) now).totalOutstandingNgn
    ∃ stored stored', after.loans[loanId]? = some stored ∧ after'.loans[loanId]? = some stored' ∧
      stored'.status = stored.status ∧
      (∀ asOf, (∀ call ∈ calls ++ calls', call.now ≤ asOf) →
        let outstanding := outstandingOf stored (repaymentsOf after loanId) asOf
        let outstanding' := outstandingOf stored' (repaymentsOf after' loanId) asOf
        outstanding'.principalNgn = outstanding.principalNgn ∧
          outstanding'.accruedInterestNgn = outstanding.accruedInterestNgn) ∧
      ((rowsWritten loanId w after').map (·.appliedToInterest)).sum =
        ((rowsWritten loanId w after).map (·.appliedToInterest)).sum ∧
      ((rowsWritten loanId w after').map (·.appliedToPrincipal)).sum =
        ((rowsWritten loanId w after).map (·.appliedToPrincipal)).sum ∧
      (calls ≠ [] ∨ 0 < owed →
        (stored.status = .repaid ↔ owed ≤ (calls.map (·.params.amountNgn)).sum)) := by
  have creditable' := creditable.perm order
  have paid : (calls'.map (·.params.amountNgn)).sum = (calls.map (·.params.amountNgn)).sum := by
    simpa [List.map_map, Function.comp_def] using (order.map (·.amountNgn)).sum_eq
  have some_call : calls' ≠ [] ↔ calls ≠ [] := by
    rw [← List.length_pos_iff, ← List.length_pos_iff]
    simpa using congrArg (0 < ·) order.length_eq
  have opening := DayBooks.opening now since found active
  have books := opening.run since sameDay (fun call made =>
    creditable.nonneg call.params (List.mem_map_of_mem made)) creditable
  have books' := opening.run since sameDay' (fun call made =>
    creditable'.nonneg call.params (List.mem_map_of_mem made)) creditable'
  rw [List.nil_append] at books books'
  obtain ⟨stored, present, terms, status⟩ := books.row
  obtain ⟨stored', present', terms', status'⟩ := books'.row
  obtain ⟨written, rows, taken⟩ := books.rows
  obtain ⟨written', rows', taken'⟩ := books'.rows
  rw [paid] at taken'
  have wrote : rowsWritten loanId w (creditCalls calls w) = written := by
    rw [rowsWritten, rows, List.drop_left]
  have wrote' : rowsWritten loanId w (creditCalls calls' w) = written' := by
    rw [rowsWritten, rows', List.drop_left]
  refine ⟨stored, stored', present, present', ?_, fun asOf later => ?_, ?_, ?_, fun counts => ?_⟩
  · rw [status, status', paid]
    simp only [some_call]
  · have same := @Taken.replay start asOf loan (rowsOf loanId w) _ _ _ _ _ _ taken taken' since
      (ceilDays start now) sameDay.day sameDay'.day
      (fun call made => later call (by simp [made])) (fun call made => later call (by simp [made]))
    rw [outstandingOf_congr terms, outstandingOf_congr terms',
      outstandingOf_perm loan (repaymentsOf_perm _ loanId),
      outstandingOf_perm loan (repaymentsOf_perm (creditCalls calls' w) loanId), rows, rows', same]
    exact ⟨rfl, rfl⟩
  · rw [wrote, wrote', taken.interest, taken'.interest]
  · rw [wrote, wrote', taken.principal, taken'.principal]
  · have owed := @openingOf_owed start now loan (rowsOf loanId w) since
    rw [outstandingOf_perm loan (repaymentsOf_perm w loanId), ← owed] at counts ⊢
    rw [status]
    by_cases none : calls = []
    · have owes := counts.resolve_left (not_not_intro none)
      simp [none, not_le.mpr owes]
    · simp [none]

def swappedCalls : List CreditCall :=
  [⟨⟨1, 0, 80000, .customerClaim, true⟩, 5⟩, ⟨⟨0, 0, 40000, .autoAmount, false⟩, 30⟩]

/-- 100300 is owed before the two credits, and 120000 comes in. -/
theorem sameDay_credits_commute_sample :
    ∃ stored stored', (creditCalls sampleCalls sampleWorld).loans[0]? = some stored ∧
      (creditCalls swappedCalls sampleWorld).loans[0]? = some stored' ∧
      stored.status = .repaid ∧ stored'.status = .repaid ∧
      ((rowsWritten 0 sampleWorld (creditCalls swappedCalls sampleWorld)).map
        (·.appliedToPrincipal)).sum = 100000 := by
  have owed : (outstandingOf sampleLoan (repaymentsOf sampleWorld 0) 1).totalOutstandingNgn =
      100300 := by decide +kernel
  have principal : ((rowsWritten 0 sampleWorld (creditCalls sampleCalls sampleWorld)).map
      (·.appliedToPrincipal)).sum = 100000 := by decide +kernel
  obtain ⟨stored, stored', present, present', status, _, _, applied, closes⟩ :=
    @sameDay_credits_commute 0 0 1 sampleLoan sampleWorld sampleCalls swappedCalls rfl rfl rfl
      ⟨by decide, by decide, by decide, by decide, by decide, by decide⟩
      ⟨by decide, by decide, by decide⟩ ⟨by decide, by decide, by decide⟩ (List.Perm.swap ..)
  have repaid := (closes (.inr (by rw [owed]; decide))).mpr (by rw [owed]; decide +kernel)
  exact ⟨stored, stored', present, present', repaid, status.trans repaid, applied.trans principal⟩

end Bitmonie.LoansService
