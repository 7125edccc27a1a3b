import Bitmonie.RepaymentLedger
import Bitmonie.LiquidationMonitor

/-! One more repayment in a history of credits: the credits after it are split anew, and at
no later instant is more owed, in total or in principal, than without it. -/
namespace Bitmonie.LoansService
open DayAccrual AccrualService LoanStatusService LiquidationMonitor

structure Accepts (params : CreditParams) (w : World) : Prop where
  floor : floorCheck params = .ok ()
  active : ∃ loan, w.loans[params.loanId]? = some loan ∧ loan.status = .active
  stored : params.inflowId < w.inflows.length
  unused : ∀ r ∈ w.repayments, r.inflowId ≠ params.inflowId

theorem closeLoan_succeeds {params : CreditParams} {loan : Loan} {credit : Credit}
    {loans : List Loan} (found : loans[params.loanId]? = some loan) (active : loan.status = .active) :
    ∃ repaid moved, closeLoan params credit loans = .ok repaid ∧
      updateStatus (creditTransition params loan credit) repaid = .ok moved := by
  have reads : (creditTransition params loan credit).fromStatus = some .active :=
    congrArg some active
  cases full : credit.isFullyRepaid with
  | false =>
    refine ⟨loans, loans, by simp [closeLoan, full], updateStatus_self reads ?_ ?_⟩
    · simp [creditTransition, full]
    · simp [creditTransition, full, selfTransitionReasons]
  | true =>
    have present := @getElem?_set_of_eq _ loans _ loan (repaidLoan params credit loan) found
    have closed : closeLoan params credit loans =
        .ok (loans.set params.loanId (repaidLoan params credit loan)) := by
      simp only [closeLoan, full, if_true]
      exact updateRow_ok.mpr ⟨loan, found, rfl⟩
    obtain ⟨moved, updated⟩ : ∃ moved, updateStatus (creditTransition params loan credit)
        (loans.set params.loanId (repaidLoan params credit loan)) = .ok moved := by
      rw [updateStatus_move reads (by simp [creditTransition, full])
        (by simp [creditTransition, full, validTransitions])]
      exact ⟨_, updateRow_ok.mpr ⟨_, present, rfl⟩⟩
    exact ⟨_, moved, closed, updated⟩

theorem Accepts.writes {params : CreditParams} {w : World} (accepts : Accepts params w)
    (now : Time) : applied (creditOnce params now w).1 = true := by
  obtain ⟨loan, found, active⟩ := accepts.active
  obtain ⟨credit, planned⟩ : ∃ credit, planCredit params.amountNgn now loan
      (repaymentsOf w params.loanId) = .ok (some credit) := by simp [planCredit, active]
  obtain ⟨repaid, moved, closed, updated⟩ :=
    @closeLoan_succeeds params loan credit w.loans found active
  have created : createRepayment (repaymentRow params credit now) w.repayments =
      .ok (w.repayments ++ [repaymentRow params credit now]) :=
    createRepayment_ok.mpr ⟨accepts.unused, rfl⟩
  have matched := (@updateRow_ok _ w.inflows _ params.inflowId (matchedInflow params credit)).mpr
    ⟨_, List.getElem?_eq_getElem accepts.stored, rfl⟩
  simp [creditOnce, accepts.floor, found, planned, writeCredit, created, matched, closed, transition,
    updated, bind, Except.bind, pure, Except.pure, applied]

theorem applied_iff {params : CreditParams} {now : Time} {w : World} :
    applied (creditOnce params now w).1 = true ↔ Accepts params w := by
  constructor
  · intro applies
    rcases creditOnce_cases params now w with ⟨_, refused⟩ | ⟨loan, _, _, found, planned, wrote, _⟩
    · rw [applies] at refused
      cases refused
    · refine ⟨?_, ⟨loan, found, (planCredit_ok planned).1⟩, ?_, wrote.unused⟩
      · cases checked : floorCheck params with
        | ok => rfl
        | error e => simp [creditOnce, checked, applied] at applies
      · obtain ⟨_, _, stored, _⟩ := wrote.eq
        exact (List.getElem?_eq_some_iff.mp stored).1
  · exact fun accepts => accepts.writes now

/-- What a call on the loan does to its books. -/
theorem Books.call {loanId : Nat} {start last : Time} {loan : Loan} {ledger : Ledger ℚ}
    {call : CreditCall} {w : World} (since : loan.collateralReceivedAt = some start)
    (rate_nonneg : 0 ≤ loan.dailyInterestRateBps) (books : Books loanId start loan last ledger w)
    (same : call.params.loanId = loanId) (pos : 0 < call.params.amountNgn) (later : last ≤ call.now) :
    (¬ Accepts call.params w ∧ (creditOnce call.params call.now w).2 = w) ∨
    (Accepts call.params w ∧ ∃ row, row.inflowId = call.params.inflowId ∧
      (creditOnce call.params call.now w).2.repayments = w.repayments ++ [row] ∧
      (creditOnce call.params call.now w).2.inflows.length = w.inflows.length ∧
      Books loanId start loan call.now
        ((ledgerAt loan start ledger call.now).pay call.params.amountNgn)
        (creditOnce call.params call.now w).2) := by
  subst same
  rcases creditOnce_cases call.params call.now w with
    ⟨unchanged, refused⟩ | ⟨stored, credit, w', found, planned, wrote, once⟩
  · refine .inl ⟨fun accepts => ?_, unchanged⟩
    rw [accepts.writes call.now] at refused
    cases refused
  · have applies : applied (creditOnce call.params call.now w).1 = true := by rw [once]; rfl
    refine .inr ⟨applied_iff.mp applies, repaymentRow call.params credit call.now, rfl, ?_⟩
    rw [once]
    refine ⟨wrote.repayments, ?_, books.pay since rate_nonneg later pos found planned wrote⟩
    obtain ⟨_, _, _, _, rfl⟩ := wrote.eq
    exact List.length_set

structure Alike (extra : Nat) (w w' : World) : Prop where
  stored : w'.inflows.length = w.inflows.length
  used : ∀ inflowId, inflowId ≠ extra →
    ((∀ r ∈ w.repayments, r.inflowId ≠ inflowId) ↔ ∀ r ∈ w'.repayments, r.inflowId ≠ inflowId)

/-- The second history has one credit more: its ledger stays below, and until it has cleared
the loan both histories accept the same calls. -/
structure Paired (loanId : Nat) (start : Time) (loan : Loan) (extra : Nat) (last : Time)
    (ledger ledger' : Ledger ℚ) (w w' : World) : Prop where
  first : Books loanId start loan last ledger w
  second : Books loanId start loan last ledger' w'
  below : ∀ asOf, last ≤ asOf →
    (ledgerAt loan start ledger' asOf).Below (ledgerAt loan start ledger asOf)
  alike : 0 < ledger'.balance → Alike extra w w'

section Paired
variable {loanId extra : Nat} {start last : Time} {loan : Loan} {ledger ledger' : Ledger ℚ}
  {w w' : World}

/-- The loan of the books is ACTIVE exactly while principal is owed. -/
theorem Books.active_iff (books : Books loanId start loan last ledger w) :
    (∃ stored, w.loans[loanId]? = some stored ∧ stored.status = .active) ↔ 0 < ledger.balance := by
  obtain ⟨stored, found, _, standing⟩ := books.row
  constructor
  · rintro ⟨row, present, active⟩
    obtain rfl := Option.some.inj (found.symm.trans present)
    cases standing with
    | active _ owes => exact owes
    | repaid is => rw [active] at is; cases is
  · intro owes
    cases standing with
    | active is => exact ⟨stored, found, is⟩
    | repaid _ cleared => exact absurd cleared owes.ne'

/-- A cleared loan owes nothing at any later instant. -/
theorem Books.cleared (books : Books loanId start loan last ledger w)
    (owes : ¬ 0 < ledger.balance) (asOf : Time) :
    (ledgerAt loan start ledger asOf).balance = 0 ∧ (ledgerAt loan start ledger asOf).unpaid = 0 := by
  obtain ⟨stored, found, _, standing⟩ := books.row
  cases standing with
  | active _ balance => exact absurd balance owes
  | repaid _ balance unpaid => simp [ledgerAt, balance, unpaid]

theorem Paired.of_cleared (first : Books loanId start loan last ledger w)
    (second : Books loanId start loan last ledger' w')
    (rate_nonneg : 0 ≤ loan.dailyInterestRateBps) (owes : ¬ 0 < ledger'.balance) :
    Paired loanId start loan extra last ledger ledger' w w' where
  first := first
  second := second
  alike owing := absurd owing owes
  below asOf later := by
    obtain ⟨balance', unpaid'⟩ := second.cleared owes asOf
    have tracks := first.tracksAt rate_nonneg later
    refine ⟨(second.dayAt later).trans (first.dayAt later).symm, ?_, ?_⟩
    · rw [balance']
      exact tracks.balance_nonneg
    · simp only [Ledger.owed, balance', unpaid', add_zero]
      exact add_nonneg tracks.balance_nonneg tracks.unpaid_nonneg

theorem Paired.accepts_iff (paired : Paired loanId start loan extra last ledger ledger' w w')
    (owes : 0 < ledger'.balance) {params : CreditParams} (same : params.loanId = loanId)
    (other : params.inflowId ≠ extra) : Accepts params w ↔ Accepts params w' := by
  subst same
  have alike := paired.alike owes
  have balances : ledger'.balance ≤ ledger.balance := by
    simpa [ledgerAt] using (paired.below last le_rfl).balance
  have active := paired.first.active_iff.mpr (owes.trans_le balances)
  have active' := paired.second.active_iff.mpr owes
  constructor
  · rintro ⟨floor, -, stored, unused⟩
    exact ⟨floor, active', alike.stored ▸ stored, (alike.used _ other).mp unused⟩
  · rintro ⟨floor, -, stored, unused⟩
    exact ⟨floor, active, alike.stored ▸ stored, (alike.used _ other).mpr unused⟩

theorem Alike.append {row row' : LoanRepayment} {s s' : World} (alike : Alike extra w w')
    (same : row.inflowId = row'.inflowId) (rows : s.repayments = w.repayments ++ [row])
    (rows' : s'.repayments = w'.repayments ++ [row']) (stored : s.inflows.length = w.inflows.length)
    (stored' : s'.inflows.length = w'.inflows.length) : Alike extra s s' := by
  refine ⟨by rw [stored, stored', alike.stored], fun inflowId other => ?_⟩
  have used := alike.used inflowId other
  simp only [rows, rows', List.forall_mem_append, List.forall_mem_singleton, same, used]

/-- The step: a call that comes after the extra credit in both histories. -/
theorem Paired.call (paired : Paired loanId start loan extra last ledger ledger' w w')
    (since : loan.collateralReceivedAt = some start)
    (rate_nonneg : 0 ≤ loan.dailyInterestRateBps) {call : CreditCall}
    (same : call.params.loanId = loanId) (other : call.params.inflowId ≠ extra)
    (pos : 0 < call.params.amountNgn) (later : last ≤ call.now) :
    ∃ next next', Paired loanId start loan extra call.now next next'
      (creditOnce call.params call.now w).2 (creditOnce call.params call.now w').2 := by
  have first := paired.first.call since rate_nonneg same pos later
  have second := paired.second.call since rate_nonneg same pos later
  by_cases owes : 0 < ledger'.balance
  · have agree := paired.accepts_iff owes same other
    rcases first with ⟨refused, unchanged⟩ | ⟨accepts, row, used, rows, stored, books⟩
    · rcases second with ⟨_, unchanged'⟩ | ⟨accepts', _⟩
      · rw [unchanged, unchanged']
        exact ⟨ledger, ledger', paired.first.mono later, paired.second.mono later,
          fun asOf after => paired.below asOf (later.trans after), paired.alike⟩
      · exact absurd (agree.mpr accepts') refused
    · rcases second with ⟨refused', _⟩ | ⟨_, row', used', rows', stored', books'⟩
      · exact absurd (agree.mp accepts) refused'
      · refine ⟨_, _, books, books', fun asOf after => ?_, fun _ =>
          (paired.alike owes).append (used.trans used'.symm) rows rows' stored stored'⟩
        have paid := @Ledger.Below.pay _ _ _ _ _ _ call.params.amountNgn (paired.below call.now later)
          (paired.second.tracksAt rate_nonneg later).balance_nonneg
          (paired.first.tracksAt rate_nonneg later).balance_nonneg
        exact paid.advance (rateFactor_nonneg rate_nonneg) (ceilDays start asOf)
  · have unchanged' : (creditOnce call.params call.now w').2 = w' := by
      rcases second with ⟨_, unchanged'⟩ | ⟨accepts', _⟩
      · exact unchanged'
      · exact absurd (paired.second.active_iff.mp (same ▸ accepts'.active)) owes
    have books' := paired.second.mono later
    rw [unchanged']
    rcases first with ⟨_, unchanged⟩ | ⟨_, _, _, _, _, books⟩
    · rw [unchanged]
      exact ⟨ledger, ledger', .of_cleared (paired.first.mono later) books' rate_nonneg owes⟩
    · exact ⟨_, ledger', .of_cleared books books' rate_nonneg owes⟩

/-- The run: the calls after the extra credit. -/
theorem Paired.run {calls : List CreditCall}
    (paired : Paired loanId start loan extra last ledger ledger' w w')
    (since : loan.collateralReceivedAt = some start)
    (rate_nonneg : 0 ≤ loan.dailyInterestRateBps)
    (onLoan : ∀ call ∈ calls, call.params.loanId = loanId)
    (fresh : ∀ call ∈ calls, call.params.inflowId ≠ extra)
    (ordered : Ordered loanId last calls) :
    ∃ next next', Paired loanId start loan extra (lastTime loanId last calls) next next'
      (creditCalls calls w) (creditCalls calls w') := by
  induction calls generalizing last ledger ledger' w w' with
  | nil => exact ⟨ledger, ledger', paired⟩
  | cons call rest ih =>
    have same := onLoan call (by simp)
    simp only [Ordered, if_pos same] at ordered
    obtain ⟨pos, later, ordered⟩ := ordered
    obtain ⟨next, next', paired'⟩ :=
      paired.call since rate_nonneg same (fresh call (by simp)) pos later
    simp only [creditCalls, lastTime, if_pos same]
    exact ih paired' (fun c member => onLoan c (List.mem_cons_of_mem _ member))
      (fun c member => fresh c (List.mem_cons_of_mem _ member)) ordered

/-- The extra credit itself. -/
theorem Books.insert {call : CreditCall} (books : Books loanId start loan last ledger w)
    (since : loan.collateralReceivedAt = some start)
    (rate_nonneg : 0 ≤ loan.dailyInterestRateBps) (same : call.params.loanId = loanId)
    (pos : 0 < call.params.amountNgn) (later : last ≤ call.now) :
    ∃ ledger', Paired loanId start loan call.params.inflowId call.now ledger ledger' w
      (creditOnce call.params call.now w).2 := by
  have before := books.mono later
  rcases books.call since rate_nonneg same pos later with
    ⟨_, unchanged⟩ | ⟨_, row, used, rows, stored, after⟩
  · rw [unchanged]
    exact ⟨ledger, before, before, fun _ _ => .refl _, fun _ => ⟨rfl, fun _ _ => Iff.rfl⟩⟩
  · refine ⟨_, before, after, fun asOf beyond => ?_, fun _ => ⟨stored, fun inflowId other => ?_⟩⟩
    · have tracks := books.tracksAt rate_nonneg later
      have paid := (Ledger.pay_below tracks.balance_nonneg tracks.unpaid_nonneg pos.le).advance
        (rateFactor_nonneg rate_nonneg) (ceilDays start asOf)
      have whole := Ledger.advance_advance (rateFactor loan.dailyInterestRateBps)
        (books.day.trans (ceilDays_mono start later)) (ceilDays_mono start beyond)
      simp only [ledgerAt] at paid ⊢
      rwa [whole] at paid
    · simp [rows, or_imp, forall_and, used, Ne.symm other]

end Paired

/-- What a credit leaves of a loan's row. -/
theorem creditCalls_terms {loanId : Nat} {loan : Loan} {calls : List CreditCall} {w : World}
    (found : w.loans[loanId]? = some loan) : ∃ stored, (creditCalls calls w).loans[loanId]? = some stored ∧
      stored.collateralAmountSat = loan.collateralAmountSat ∧
      stored.satNgnRateAtCreation = loan.satNgnRateAtCreation := by
  induction calls generalizing loan w with
  | nil => exact ⟨loan, found, rfl, rfl⟩
  | cons call rest ih =>
    simp only [creditCalls]
    rcases creditOnce_cases call.params call.now w with
      ⟨unchanged, _⟩ | ⟨before, credit, w', _, _, wrote, once⟩
    · rw [unchanged]
      exact ih found
    · rw [once]
      by_cases same : call.params.loanId = loanId
      · subst same
        obtain ⟨stored, present, collateral, rate⟩ := ih (wrote.loan_self found)
        refine ⟨stored, present, collateral.trans ?_, rate.trans ?_⟩ <;>
          simp only [creditedLoan, repaidLoan] <;> split <;> rfl
      · exact ih ((wrote.loan_other same).trans found)

theorem Books.outstanding {loanId : Nat} {start last asOf : Time} {loan stored : Loan}
    {ledger : Ledger ℚ} {w : World} (books : Books loanId start loan last ledger w)
    (since : loan.collateralReceivedAt = some start)
    (rate_nonneg : 0 ≤ loan.dailyInterestRateBps) (later : last ≤ asOf)
    (found : w.loans[loanId]? = some stored) :
    let outstanding := outstandingOf stored (repaymentsOf w loanId) asOf
    outstanding.principalNgn = (ledgerAt loan start ledger asOf).balance ∧
      outstanding.totalOutstandingNgn = (ledgerAt loan start ledger asOf).owed ∧
      0 ≤ outstanding.totalOutstandingNgn := by
  obtain ⟨row, present, terms, _⟩ := books.row
  obtain rfl := Option.some.inj (found.symm.trans present)
  have tracks := books.tracksAt rate_nonneg later
  rw [outstandingOf_congr terms, books.replay since rate_nonneg later (repaymentsOf_perm w loanId)]
  refine ⟨rfl, add_zero _, ?_⟩
  rw [add_zero]
  exact add_nonneg tracks.balance_nonneg tracks.unpaid_nonneg

theorem creditCalls_append (first second : List CreditCall) (w : World) :
    creditCalls (first ++ second) w = creditCalls second (creditCalls first w) := by
  induction first generalizing w with
  | nil => rfl
  | cons call rest ih => exact ih _

theorem lastTime_append (loanId : Nat) (last : Time) (first second : List CreditCall) :
    lastTime loanId last (first ++ second) = lastTime loanId (lastTime loanId last first) second := by
  induction first generalizing last with
  | nil => rfl
  | cons call rest ih => exact ih _

theorem ordered_append {loanId : Nat} {last : Time} {first second : List CreditCall} :
    Ordered loanId last (first ++ second) ↔
      Ordered loanId last first ∧ Ordered loanId (lastTime loanId last first) second := by
  induction first generalizing last with
  | nil => simp [Ordered, lastTime]
  | cons call rest ih =>
    simp only [List.cons_append, Ordered, lastTime]
    split <;> simp [ih, and_assoc]

/-- The threshold test is monotone in what is owed. -/
theorem ratioAtMost_mono {threshold value total total' : ℚ} (threshold_nonneg : 0 ≤ threshold)
    (total_nonneg : 0 ≤ total) (le : total ≤ total')
    (fires : ratioAtMost threshold value total = true) :
    ratioAtMost threshold value total' = true := by
  simp only [ratioAtMost, decide_eq_true_eq] at fires ⊢
  have pos : 0 < total := lt_of_le_of_ne total_nonneg (Ne.symm fires.1)
  have bound := (div_le_iff₀ pos).mp fires.2
  refine ⟨(pos.trans_le le).ne', (div_le_iff₀ (pos.trans_le le)).mpr ?_⟩
  exact bound.trans (mul_le_mul_of_nonneg_left le threshold_nonneg)

/-- A rate that liquidates the loan also liquidates it where more is owed. -/
theorem shouldLiquidate_mono {currentRate : ℚ} {less more : Loan}
    {lessPaid morePaid : List LoanRepayment} {asOf : Time}
    (collateral : less.collateralAmountSat = more.collateralAmountSat)
    (rate : less.satNgnRateAtCreation = more.satNgnRateAtCreation)
    (nonneg : 0 ≤ (outstandingOf less lessPaid asOf).totalOutstandingNgn)
    (le : (outstandingOf less lessPaid asOf).totalOutstandingNgn ≤
      (outstandingOf more morePaid asOf).totalOutstandingNgn)
    (fires : shouldLiquidate currentRate less lessPaid asOf = true) :
    shouldLiquidate currentRate more morePaid asOf = true := by
  have suspect : rateSuspect currentRate less = rateSuspect currentRate more := by
    rw [rateSuspect, rateSuspect, rate]
  rw [shouldLiquidate, suspect, currentValueNgn, collateral] at fires
  rw [shouldLiquidate, currentValueNgn]
  cases credible : rateSuspect currentRate more with
  | true => simp [credible] at fires
  | false =>
    simp only [credible, Bool.false_eq_true, if_false] at fires ⊢
    exact ratioAtMost_mono (by norm_num [liquidationThreshold]) nonneg le fires

/-- With one credit more, no more is owed at any later instant, and no rate liquidates the
loan that would not have liquidated it without that credit. -/
theorem repaying_owes_less {loanId : Nat} {start asOf : Time} {loan : Loan} {w : World}
    {before after : List CreditCall} {extra : CreditCall} (opened : Opened loanId start loan w)
    (onLoan : ∀ call ∈ before ++ extra :: after, call.params.loanId = loanId)
    (fresh : ∀ call ∈ after, call.params.inflowId ≠ extra.params.inflowId)
    (ordered : Ordered loanId start (before ++ extra :: after))
    (later : lastTime loanId start (before ++ extra :: after) ≤ asOf) :
    let without := creditCalls (before ++ after) w
    let withExtra := creditCalls (before ++ extra :: after) w
    ∃ stored stored', without.loans[loanId]? = some stored ∧
      withExtra.loans[loanId]? = some stored' ∧
      let owed := outstandingOf stored (repaymentsOf without loanId) asOf
      let owed' := outstandingOf stored' (repaymentsOf withExtra loanId) asOf
      owed'.totalOutstandingNgn ≤ owed.totalOutstandingNgn ∧
        owed'.principalNgn ≤ owed.principalNgn ∧
        ∀ rate, shouldLiquidate rate stored' (repaymentsOf withExtra loanId) asOf = true →
          shouldLiquidate rate stored (repaymentsOf without loanId) asOf = true := by
  have since := opened.since
  have rate_nonneg := opened.rate_nonneg
  have same := onLoan extra (by simp)
  obtain ⟨ordered, rest⟩ := ordered_append.mp ordered
  simp only [Ordered, if_pos same] at rest
  simp only [lastTime_append, lastTime, if_pos same] at later
  have books := opened.books.run since rate_nonneg ordered
  obtain ⟨_, inserted⟩ := books.insert since rate_nonneg same rest.1 rest.2.1
  obtain ⟨ledger, ledger', paired⟩ := inserted.run since rate_nonneg
    (fun call member => onLoan call (by simp [member])) fresh rest.2.2
  intro without withExtra
  obtain ⟨stored, found, collateral, rate⟩ :=
    @creditCalls_terms loanId loan (before ++ after) w opened.found
  obtain ⟨stored', found', collateral', rate'⟩ :=
    @creditCalls_terms loanId loan (before ++ extra :: after) w opened.found
  have split : without = creditCalls after (creditCalls before w) := creditCalls_append ..
  have split' : withExtra = creditCalls after
      (creditOnce extra.params extra.now (creditCalls before w)).2 := creditCalls_append ..
  rw [← split, ← split'] at paired
  have below := paired.below asOf later
  obtain ⟨principal, total, _⟩ := paired.first.outstanding since rate_nonneg later found
  obtain ⟨principal', total', nonneg⟩ := paired.second.outstanding since rate_nonneg later found'
  have less : (outstandingOf stored' (repaymentsOf withExtra loanId) asOf).totalOutstandingNgn ≤
      (outstandingOf stored (repaymentsOf without loanId) asOf).totalOutstandingNgn := by
    rw [total, total']
    exact below.owed
  refine ⟨stored, stored', found, found', less, by rw [principal, principal']; exact below.balance,
    fun currentRate fires => ?_⟩
  exact shouldLiquidate_mono (collateral'.trans collateral.symm) (rate'.trans rate.symm) nonneg less fires

/-- Without the first of the two sample credits, 20360.9 is owed on the second day. -/
theorem repaying_owes_less_sample :
    ∃ stored', (creditCalls sampleCalls sampleWorld).loans[0]? = some stored' ∧
      (outstandingOf stored' (repaymentsOf (creditCalls sampleCalls sampleWorld) 0)
        90000000).totalOutstandingNgn ≤ 203609 / 10 := by
  obtain ⟨stored, stored', found, found', less, _⟩ :=
    @repaying_owes_less 0 0 90000000 sampleLoan sampleWorld [] (sampleCalls.drop 1)
      ⟨⟨0, 0, 40000, .autoAmount, false⟩, 10⟩ sampleWorld_opened (by decide) (by decide)
      (by simp [Ordered, sampleCalls]) (by decide)
  obtain rfl : sampleLoan = stored := Option.some.inj (Eq.trans (by decide +kernel) found)
  have without : (outstandingOf sampleLoan (repaymentsOf
      (creditCalls ([] ++ sampleCalls.drop 1) sampleWorld) 0) 90000000).totalOutstandingNgn =
        203609 / 10 := by decide +kernel
  exact ⟨stored', found', less.trans without.le⟩

end Bitmonie.LoansService
