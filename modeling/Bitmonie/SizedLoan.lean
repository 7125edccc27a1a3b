import Bitmonie.EarlierRepayment
import Bitmonie.LiquidationDecision
import Bitmonie.CollateralWebhook

/-! A loan with the collateral that the calculator asks for. Whatever is repaid, no more is
owed than if nothing were; so for 171 days the collateral, at the rate of its creation,
covers what is owed beyond the liquidation threshold. -/
namespace Bitmonie.SizedLoan
open DayAccrual AccrualService CalculatorService LoanStatusService LoansService LiquidationMonitor
  LiquidationDecision

def safeDays : Nat := 171

structure Sized (input : CalculatorInput) (quote : CalculatorResult) : Prop where
  rate_pos : 0 < input.satNgnRate
  principal_pos : 0 < input.principalNgn
  rate : quote.satNgnRateAtCreation = input.satNgnRate
  bps : quote.dailyInterestRateBps = dailyInterestRateBps
  covered : input.principalNgn / loanLtvPercent ≤ quote.collateralAmountSat * input.satNgnRate

/-- A part of a satoshi more is asked for, never less. -/
theorem sized_of_accepted {input : CalculatorInput} {quote : CalculatorResult}
    (accepted : calculate input = .ok quote) : Sized input quote := by
  obtain ⟨_, valid, ended⟩ := bind_ok.mp accepted
  obtain rfl := Except.ok.inj ended
  unfold validate at valid
  split at valid
  · cases valid
  rename_i rates
  split at valid
  · cases valid
  rename_i minimum
  have rate_pos : 0 < input.satNgnRate := not_le.mp fun nonpositive => rates (.inl nonpositive)
  have principal_pos : 0 < input.principalNgn := by
    have least : (0 : ℚ) < minLoanNgn := by decide
    exact least.trans_le (not_lt.mp minimum)
  refine ⟨rate_pos, principal_pos, rfl, rfl, (div_le_iff₀ rate_pos).mp ?_⟩
  have ceiling := Int.le_ceil (input.principalNgn / loanLtvPercent / input.satNgnRate)
  have whole := Int.self_le_toNat ⌈input.principalNgn / loanLtvPercent / input.satNgnRate⌉
  exact ceiling.trans (by exact_mod_cast whole)

section Owed
variable {loanId : Nat} {start last now : Time} {loan : Loan} {ledger : Ledger ℚ} {w : World}

def neverRepaid (loan : Loan) (day : Nat) : Ledger ℚ :=
  (⟨loan.principalNgn, 0, 0⟩ : Ledger ℚ).advance (rateFactor loan.dailyInterestRateBps) day

theorem neverRepaid_owed (loan : Loan) (day : Nat) : (neverRepaid loan day).owed =
    loan.principalNgn * (1 + rateFactor loan.dailyInterestRateBps * day) := by
  simp only [neverRepaid, Ledger.owed, Ledger.advance_balance, Ledger.advance_unpaid, Nat.sub_zero]
  ring

def Bounded (loan : Loan) (ledger : Ledger ℚ) : Prop := ledger.Below (neverRepaid loan ledger.day)

theorem Bounded.initial (loan : Loan) : Bounded loan ⟨loan.principalNgn, 0, 0⟩ := .refl _

theorem Bounded.at (bounded : Bounded loan ledger) (books : Books loanId start loan last ledger w)
    (rate_nonneg : 0 ≤ loan.dailyInterestRateBps) (later : last ≤ now) :
    (ledgerAt loan start ledger now).Below (neverRepaid loan (ceilDays start now)) := by
  have day : ledger.day ≤ ceilDays start now := books.day.trans (ceilDays_mono start later)
  have advanced := Ledger.Below.advance bounded (rateFactor_nonneg rate_nonneg) (ceilDays start now)
  have whole := Ledger.advance_advance (l := ⟨loan.principalNgn, 0, 0⟩)
    (rateFactor loan.dailyInterestRateBps) (Nat.zero_le _) day
  unfold neverRepaid at advanced ⊢
  rwa [whole] at advanced

/-- The step: a payment of the ledger. -/
theorem Bounded.pay {amount : ℚ} (bounded : Bounded loan ledger)
    (books : Books loanId start loan last ledger w) (rate_nonneg : 0 ≤ loan.dailyInterestRateBps)
    (later : last ≤ now) (pos : 0 < amount) :
    Bounded loan ((ledgerAt loan start ledger now).pay amount) := by
  have tracks := books.tracksAt rate_nonneg later
  have paid := Ledger.pay_below tracks.balance_nonneg tracks.unpaid_nonneg pos.le
  have day : ((ledgerAt loan start ledger now).pay amount).day = ceilDays start now :=
    books.dayAt later
  rw [Bounded, day]
  exact paid.trans (bounded.at books rate_nonneg later)

/-- The run: every sequence of calls. -/
theorem Bounded.run {calls : List CreditCall} (bounded : Bounded loan ledger)
    (since : loan.collateralReceivedAt = some start) (rate_nonneg : 0 ≤ loan.dailyInterestRateBps)
    (books : Books loanId start loan last ledger w) (ordered : Ordered loanId last calls) :
    ∃ ledger', Books loanId start loan (lastTime loanId last calls) ledger' (creditCalls calls w) ∧
      Bounded loan ledger' := by
  induction calls generalizing last ledger w with
  | nil => exact ⟨ledger, books, bounded⟩
  | cons call rest ih =>
    simp only [creditCalls, lastTime]
    by_cases same : call.params.loanId = loanId
    · simp only [Ordered, if_pos same] at ordered ⊢
      obtain ⟨pos, later, ordered⟩ := ordered
      rcases books.call since rate_nonneg same pos later with
        ⟨_, unchanged⟩ | ⟨_, _, _, _, _, paid⟩
      · rw [unchanged]
        exact ih bounded (books.mono later) ordered
      · exact ih (bounded.pay books rate_nonneg later pos) paid ordered
    · simp only [Ordered, if_neg same] at ordered ⊢
      rcases creditOnce_cases call.params call.now w with
        ⟨unchanged, _⟩ | ⟨_, _, w', _, _, wrote, once⟩
      · rw [unchanged]
        exact ih bounded books ordered
      · rw [once]
        exact ih bounded (books.frame wrote same) ordered

end Owed

section Activated
variable {input : CalculatorInput} {quote : CalculatorResult} {user : User} {dto : CheckoutLoanDto}
  {accountId loanId : Nat} {created start asOf : Time} {w w' : World}

/-- The row of a checkout after its activation. -/
def activatedRow (user : User) (dto : CheckoutLoanDto) (accountId : Nat) (quote : CalculatorResult)
    (created start : Time) : Loan :=
  { loanRow user dto accountId quote created with
    collateralReceivedAt := some start, status := .active }

theorem activation_opens (sized : Sized input quote) (principal : dto.principalNgn = input.principalNgn)
    (found : w.loans[loanId]? = some (loanRow user dto accountId quote created))
    (unpaid : rowsOf loanId w = []) (unmoved : repaidMoves loanId w = [])
    (activated : writeActivation loanId (loanRow user dto accountId quote created) start w = .ok w') :
    Opened loanId start (activatedRow user dto accountId quote created start) w' := by
  obtain ⟨loans, received, done⟩ := bind_ok.mp activated
  obtain ⟨moved, updated, rfl⟩ := transition_ok done
  obtain ⟨stored, present, rfl⟩ := updateRow_ok.mp received
  obtain rfl := Option.some.inj (found.symm.trans present)
  rw [updateStatus_move rfl (by simp [activateTransition, loanRow])
    (by simp [activateTransition, loanRow, validTransitions])] at updated
  obtain ⟨row, again, rfl⟩ := updateRow_ok.mp updated
  obtain rfl := Option.some.inj ((getElem?_set_of_eq found).symm.trans again)
  refine ⟨?_, rfl, rfl, ?_, ?_, unpaid, ?_⟩
  · exact getElem?_set_of_eq (getElem?_set_of_eq found)
  · simpa [activatedRow, loanRow, principal] using sized.principal_pos
  · simp [activatedRow, loanRow, sized.bps, dailyInterestRateBps]
  · rw [repaidMoves, List.filter_append]
    exact List.append_eq_nil_iff.mpr ⟨unmoved, by simp [activateTransition, TransitionParams.log]⟩

/-- 11/10 of 1513/1000 of the principal, against 10/6 of it. -/
theorem spared_of_sized (sized : Sized input quote) (principal : dto.principalNgn = input.principalNgn)
    {stored : Loan} {repayments : List LoanRepayment} {rate : ℚ} (least : input.satNgnRate ≤ rate)
    (collateral : stored.collateralAmountSat = quote.collateralAmountSat)
    (principal_nonneg : 0 ≤ stored.principalNgn) {day : Nat} (days : day ≤ safeDays)
    (owed : (outstandingOf stored repayments asOf).totalOutstandingNgn ≤
      (neverRepaid (activatedRow user dto accountId quote created start) day).owed) :
    shouldLiquidate rate stored repayments asOf = false := by
  rw [Bool.eq_false_iff, ne_eq, shouldLiquidate_iff_due principal_nonneg]
  intro due
  have uncovered := due.uncovered
  rw [collateral] at uncovered
  have amount : (0 : ℚ) ≤ quote.collateralAmountSat := Nat.cast_nonneg _
  have value := sized.covered.trans (mul_le_mul_of_nonneg_left least amount)
  have terms : rateFactor (activatedRow user dto accountId quote created start).dailyInterestRateBps =
      3 / 1000 := by
    simp only [activatedRow, loanRow, sized.bps, dailyInterestRateBps, rateFactor,
      AccrualService.bpsDenominator]
    norm_num
  have borrowed : (activatedRow user dto accountId quote created start).principalNgn =
      input.principalNgn := principal
  rw [neverRepaid_owed, terms, borrowed] at owed
  have elapsed : (day : ℚ) ≤ 171 := by exact_mod_cast days
  have pos := sized.principal_pos
  have interest := mul_le_mul_of_nonneg_left elapsed pos.le
  simp only [liquidationThreshold, loanLtvPercent] at value uncovered
  linarith

end Activated

section Cycle
variable {tid loanId n : Nat} {sellOf : String → Option Decimal} {sendEmail : Bool} {rate : ℚ}
  {order : List ActiveLoanRow → List ActiveLoanRow} {answers : Nat → Answer} {w : World}
  {f : Finished World Answer Access AppError Unit}

def alone : Contract World Answer Access where
  inv _ := True
  allowed _ _ _ := True
  rely s t := s = t
  guar _ _ _ _ := True

def Untouched (loanId : Nat) (w t : World) : Prop := t.loans[loanId]? = w.loans[loanId]?

/-- The seizure of another loan. -/
theorem seizeCollateral_other {row : ActiveLoanRow} {s : World} (different : row.id ≠ loanId)
    (here : Untouched loanId w s) : (seizeCollateral tid row rate).Meets alone
      (fun _ => Untouched loanId w) (fun _ => Untouched loanId w) s := by
  rw [seizeCollateral, Proc.meets_catching, Proc.meets_bind]
  apply commit_meets
  rintro t rfl _ _ i _
  refine ⟨trivial, fun _ => here, fun _ _ => here, fun _ t _ done => ?_⟩
  obtain ⟨_, wrote, -, rfl⟩ := map_pair_ok.mp done
  have same := ((liquidation_written wrote).other different).trans here
  refine ⟨trivial, trivial, fun _ => ?_, fun _ => same⟩
  rw [Proc.meets_catching, swapBtcToUsd, Proc.meets_access]
  rintro u rfl _ _ j _
  refine ⟨trivial, trivial, ?_⟩
  cases j.fails || j.lost <;> exact same

/-- A loop in which the loan is either no candidate or spared. -/
theorem loop_spares {rows : List ActiveLoanRow} {repayments : Nat → List LoanRepayment} {asOf : Time}
    (spared : ∀ row ∈ rows, row.id = loanId →
      shouldLiquidate rate row.loan (repayments row.id) asOf = false) :
    ((Proc.each rows fun row => checkLoan tid sendEmail rate asOf row (repayments row.id)).bind
      fun _ => heartbeat).Meets alone (fun _ => Untouched loanId w) (fun _ => Untouched loanId w)
        w := by
  have quiet {p : Action Unit} {s : World} (looks : p.Looks Quiet) (here : Untouched loanId w s) :
      p.Meets alone (fun _ => Untouched loanId w) (fun _ => Untouched loanId w) s :=
    looks.meets (fun _ _ same kept => same ▸ kept) (fun _ _ _ _ => trivial) here
  have start : Untouched loanId w w := rfl
  rw [Proc.meets_bind]
  apply (Proc.meets_each start _).imp
  · exact fun _ t here => quiet heartbeat_looks here
  · exact fun _ _ here => here
  · intro row member s here
    cases decided : shouldLiquidate rate row.loan (repayments row.id) asOf with
    | false => exact quiet (checkLoan_spared decided) here
    | true =>
      rw [checkLoan_due decided]
      have different : row.id ≠ loanId := by
        intro same
        rw [spared row member same] at decided
        cases decided
      exact seizeCollateral_other different here

/-- The first access of a procedure only looks. -/
theorem exec_first {label : Access} {g : Answer → World → Except AppError α × World}
    {next : α → Action Unit} (same : ∀ i s, (g i s).2 = s)
    (done : ((Proc.access label (fun _ => true) g).bind next).exec ((List.range n).map answers) w =
      some f) :
    f.state = w ∨ ∃ a m tail, (g (answers 0) w).1 = .ok a ∧
      (next a).exec ((List.range m).map fun k => answers (k + 1)) w = some tail ∧
        f.state = tail.state := by
  obtain ⟨i, rest, split, ⟨a, tail, ended, ran, rfl⟩ | ⟨e, _, rfl⟩⟩ := Proc.exec_access_bind done
  · obtain ⟨rfl, m, rfl⟩ := cons_of_range_map split
    rw [same] at ran
    exact .inr ⟨a, m, tail, ended, ran, rfl⟩
  · exact .inl (same i w)

theorem Untouched.of_exec {p : Action Unit} {list : List Answer}
    (meets : p.Meets alone (fun _ => Untouched loanId w) (fun _ => Untouched loanId w) w)
    (done : p.exec list w = some f) : Untouched loanId w f.state := by
  obtain ⟨_, _, ended⟩ := meets.exec (fun _ => rfl) trivial done fun _ _ => trivial
  unfold Finished.Ends at ended
  split at ended <;> exact ended

theorem checkLoans_spares {stored : Loan} (perm : ∀ rows, (order rows).Perm rows)
    (found : w.loans[loanId]? = some stored)
    (spared : shouldLiquidate rate stored (repaymentsOf w loanId) (answers 1).now = false)
    (done : (checkLoans tid sendEmail order rate).exec ((List.range n).map answers) w = some f) :
    Untouched loanId w f.state := by
  have reads {β : Type} {g : Answer → World → Except AppError β} (i : Answer) (s : World) :
      (if i.fails then (Except.error AppError.unavailable, s) else (g i s, s)).2 = s := by
    split <;> rfl
  have candidate {row : ActiveLoanRow} (member : row ∈ order (activeLoans w))
      (same : row.id = loanId) : row.loan = stored := by
    have read := (mem_activeLoans.mp ((perm _).mem_iff.mp member)).1
    rw [same, found] at read
    exact (Option.some.inj read).symm
  rcases exec_first reads done with same | ⟨rows, m, tail, ended, ran, same⟩
  · rw [Untouched, same]
  rw [same]
  split at ended
  · cases ended
  obtain rfl := Except.ok.inj ended
  unfold readRepayments at ran
  split at ran
  · rename_i empty
    exact .of_exec (loop_spares fun row member => by simp [List.isEmpty_iff.mp empty] at member) ran
  rcases exec_first reads ran with same' | ⟨history, _, tail', ended', ran', same'⟩
  · rw [Untouched, same']
  rw [same']
  split at ended'
  · cases ended'
  obtain rfl := Except.ok.inj ended'
  refine .of_exec (loop_spares fun row member same => ?_) ran'
  rw [candidate member same, same]
  exact spared

/-- A cycle whose rate and clock spare the loan does not touch it, whatever fails. -/
theorem cycle_spares {stored : Loan} (perm : ∀ rows, (order rows).Perm rows)
    (found : w.loans[loanId]? = some stored)
    (spared : ∀ raw rate, (answers 1).price = some raw → sellOf raw = some (.finite rate) →
      shouldLiquidate rate stored (repaymentsOf w loanId) (answers 3).now = false)
    (done : (runLiquidationCycle tid sellOf sendEmail order).exec ((List.range n).map answers) w =
      some f) : Untouched loanId w f.state := by
  have gets {β : Type} {g : Answer → β} (i : Answer) (s : World) :
      (committed (fun i w => .ok (g i, w)) i s).2 = s := by
    unfold committed
    by_cases fails : i.fails = true <;> simp [fails]
  have quiet {p : Action Unit} {list : List Answer} {t : Finished World Answer Access AppError Unit}
      (looks : p.Looks Quiet) (ran : p.exec list w = some t) : Untouched loanId w t.state := by
    rw [Untouched, looks.exec ran]
  rcases exec_first gets done with same | ⟨stale, m, tail, _, ran, same⟩
  · rw [Untouched, same]
  rw [same]
  split at ran
  · exact quiet heartbeat_looks ran
  rcases exec_first gets ran with same' | ⟨rateRaw, m', tail', ended, ran', same'⟩
  · rw [Untouched, same']
  rw [same']
  obtain ⟨_, _, price⟩ := committed_ok ended
  obtain ⟨price, _⟩ := Prod.mk.inj (Except.ok.inj price)
  split at ran'
  · exact quiet heartbeat_looks ran'
  rename_i raw present
  split at ran'
  · exact quiet heartbeat_looks ran'
  · rename_i rate sell
    split at ran'
    · exact quiet (redisSet_looks.bind fun _ => heartbeat_looks) ran'
    · have here := (truthy_eq_some.mp present).1
      exact checkLoans_spares perm found (spared raw rate (price.trans here) sell) ran'
  · exact quiet (redisSet_looks.bind fun _ => heartbeat_looks) ran'

/-- A loan that was sized by the calculator and activated at `start` is not liquidated before
day 172 by a cycle whose rate is no lower than the one of its creation, whatever credits came
in and whatever accesses of the cycle fail. -/
theorem sized_loan_safe {input : CalculatorInput} {quote : CalculatorResult} {user : User}
    {dto : CheckoutLoanDto} {accountId : Nat} {created start : Time} {pending opened : World}
    {calls : List CreditCall} (accepted : calculate input = .ok quote)
    (principal : dto.principalNgn = input.principalNgn)
    (stored : pending.loans[loanId]? = some (loanRow user dto accountId quote created))
    (unpaid : rowsOf loanId pending = []) (unmoved : repaidMoves loanId pending = [])
    (activated : writeActivation loanId (loanRow user dto accountId quote created) start pending =
      .ok opened)
    (ordered : Ordered loanId start calls) (perm : ∀ rows, (order rows).Perm rows)
    (later : lastTime loanId start calls ≤ (answers 3).now)
    (days : ceilDays start (answers 3).now ≤ safeDays)
    (least : ∀ raw rate, (answers 1).price = some raw → sellOf raw = some (.finite rate) →
      quote.satNgnRateAtCreation ≤ rate)
    (done : (runLiquidationCycle tid sellOf sendEmail order).exec ((List.range n).map answers)
      (creditCalls calls opened) = some f) :
    ∃ loan : Loan, f.state.loans[loanId]? = some loan ∧
      (creditCalls calls opened).loans[loanId]? = some loan ∧ loan.status ≠ .liquidated := by
  have sized := sized_of_accepted accepted
  have opens := activation_opens sized principal stored unpaid unmoved activated
  obtain ⟨ledger, books, bounded⟩ := (Bounded.initial _).run opens.since opens.rate_nonneg
    opens.books ordered
  obtain ⟨loan, found, collateral, _⟩ := @creditCalls_terms loanId _ calls opened opens.found
  obtain ⟨row, present, terms, standing⟩ := books.row
  obtain rfl := Option.some.inj (found.symm.trans present)
  obtain ⟨_, total, _⟩ := books.outstanding opens.since opens.rate_nonneg later found
  have borrowed : loan.principalNgn = input.principalNgn :=
    (congrArg AccrualLoanInput.principalNgn terms).trans principal
  have untouched : Untouched loanId (creditCalls calls opened) f.state := by
    refine cycle_spares perm found (fun raw rate price sell => ?_) done
    apply spared_of_sized sized principal (sized.rate ▸ least raw rate price sell) collateral
      (borrowed ▸ sized.principal_pos.le) days
    rw [total]
    exact (bounded.at books opens.rate_nonneg later).owed
  refine ⟨loan, untouched.trans found, found, fun liquidated => ?_⟩
  cases standing with
  | active is => rw [liquidated] at is; cases is
  | repaid is => rw [liquidated] at is; cases is

end Cycle

def sampleInput : CalculatorInput := ⟨100000, 3 / 5, 90000⟩

def sampleQuote : CalculatorResult where
  principalNgn := 100000
  originationFeeNgn := 0
  dailyCustodyFeeNgn := 0
  dailyInterestRateBps := 30
  dailyInterestNgn := 300
  collateralAmountSat := 277778
  initialCollateralUsd := 2500002 / 10000
  ltvPercent := 6 / 10
  satNgnRateAtCreation := 3 / 5
  amountToReceiveNgn := 100000
  initialLiquidationRateNgn := 110000 / 277778
  initialAlertRateNgn := 120000 / 277778

def sampleRow : Loan := loanRow { id := 0 } { principalNgn := 100000 } 0 sampleQuote 0

def sampleAnswers (k : Nat) : Answer :=
  if k = 1 then { price := some "0.6" } else { now := 171 * msPerDay }

theorem sampleInput_accepted : calculate sampleInput = .ok sampleQuote := by
  have valid : validate sampleInput = .ok () := by
    simp only [validate, sampleInput, minLoanNgn, maxSelfserveLoanNgn]
    norm_num
  have sats : ⌈(100000 : ℚ) / (6 / 10) / (3 / 5)⌉.toNat = 277778 := by decide +kernel
  have units : ⌈(100000 : ℚ) / hundredKNgn⌉ = 1 := by decide +kernel
  simp only [calculate, valid, sampleQuote]
  simp only [sampleInput, loanLtvPercent, sats, units, originationFeePer100kNgn,
    dailyInterestRateBps, CalculatorService.bpsDenominator, satsPerBtc, liquidationThreshold,
    CalculatorService.alertThreshold]
  norm_num

theorem sized_loan_safe_sample : ∃ opened n f,
    writeActivation 0 sampleRow 0 { loans := [sampleRow] } = .ok opened ∧
    (runLiquidationCycle 0 (fun _ => some (.finite (3 / 5))) false id).exec
      ((List.range n).map sampleAnswers) opened = some f ∧
    ∃ loan : Loan, f.state.loans[0]? = some loan ∧ loan.status ≠ .liquidated := by
  obtain ⟨opened, activated⟩ : ∃ opened,
      writeActivation 0 sampleRow 0 { loans := [sampleRow] } = .ok opened := ⟨_, rfl⟩
  have perm (rows : List ActiveLoanRow) : (id rows).Perm rows := .rfl
  obtain ⟨n, f, done⟩ := (cycle_unblocked 0 (fun _ => some (.finite (3 / 5))) false perm
    opened).ends rfl sampleAnswers
  obtain ⟨loan, found, _, standing⟩ := @sized_loan_safe 0 0 n (fun _ => some (.finite (3 / 5)))
    false id sampleAnswers f sampleInput sampleQuote { id := 0 } { principalNgn := 100000 } 0 0 0
    { loans := [sampleRow] } opened [] sampleInput_accepted rfl rfl rfl rfl activated trivial perm
    (by decide) (by decide) (by rintro _ _ _ ⟨⟩; exact le_rfl) done
  exact ⟨opened, n, f, activated, done, loan, found, standing⟩

end Bitmonie.SizedLoan
