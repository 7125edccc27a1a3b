import Bitmonie.LoanOperations

/-! The liquidation monitor: the cached rate, the candidates, and one loan after another;
and the call by which ops takes a liquidation at a bad rate back. What Redis holds is
decided by the environment at each read. -/
namespace Bitmonie

namespace LiquidationMonitor
open LoansService

/-- What `new Decimal(text)` can be. -/
inductive Decimal where
  | finite (value : ℚ)
  | infinite
  | nan
  deriving DecidableEq

def truthy (text : Option String) : Option String := text.filter (· ≠ "")

/-- A quotient by zero is infinite, or no number, and below no threshold. -/
def ratioAtMost (threshold value total : ℚ) : Bool := total ≠ 0 ∧ value / total ≤ threshold

/-- An infinite quotient is above every tier, and no number is above none. -/
def ratioAtLeast (tier value total : ℚ) : Bool :=
  if total = 0 then value ≠ 0 else tier ≤ value / total

/-- The rate has cratered beyond a credible move since the loan was created. -/
def rateSuspect (currentRate : ℚ) (loan : Loan) : Bool :=
  currentRate < loan.satNgnRateAtCreation * minLiquidationRateFraction

def currentValueNgn (currentRate : ℚ) (loan : Loan) : ℚ := loan.collateralAmountSat * currentRate

/-- The sanity floor of the rate comes first, then the threshold. -/
def shouldLiquidate (currentRate : ℚ) (loan : Loan) (repayments : List LoanRepayment)
    (asOf : Time) : Bool :=
  if rateSuspect currentRate loan then false
  else ratioAtMost liquidationThreshold (currentValueNgn currentRate loan)
    (outstandingOf loan repayments asOf).totalOutstandingNgn

structure ActiveLoanRow where
  id : Nat
  loan : Loan

/-- `WHERE status = 'ACTIVE' FOR UPDATE SKIP LOCKED`, outside any transaction: the row
locks end with the statement. -/
def activeLoans (w : World) : List ActiveLoanRow :=
  (List.range w.loans.length).filterMap fun id =>
    match w.loans[id]? with
    | some loan => if loan.status = .active ∧ loanFree id w then some ⟨id, loan⟩ else none
    | none => none

/-- The transaction: it writes the status without reading it. -/
def writeLiquidation (row : ActiveLoanRow) (currentRate : ℚ) (now : Time) (w : World) :
    Except AppError World := do
  let loans ← updateRow w.loans row.id fun loan =>
    { loan with
      status := .liquidated, liquidatedAt := some now, liquidationRateActual := some currentRate }
  let log : LoanStatusLog :=
    ⟨row.id, row.loan.userId, some .active, .liquidated, .system, .liquidationCompleted⟩
  return { w with loans := loans, statusLogs := w.statusLogs ++ [log] }

def liquidateLoan (tid : Nat) (row : ActiveLoanRow) (currentRate : ℚ) : Action Unit :=
  commit (.loanStatus row.id .active .liquidated) (loanFree row.id) fun i w =>
    (writeLiquidation row currentRate i.now w).map fun w' =>
      ((), { w' with seizing := Function.update w'.seizing row.id (some tid) })

/-- Blink sells the seized sats; a call whose answer is lost may have sold them. -/
def swapBtcToUsd (loanId : Nat) : Action Unit :=
  .access (.swapBtcToUsd loanId) (fun _ => true) fun i w =>
    (if i.fails || i.lost then .error .unavailable else .ok (),
      { w with
        swaps := Function.update w.swaps loanId (w.swaps loanId + 1)
        seizing := Function.update w.seizing loanId none })

/-- The swap comes after the commit, and its failure is only logged. -/
def seizeCollateral (tid : Nat) (row : ActiveLoanRow) (currentRate : ℚ) : Action Unit :=
  ((liquidateLoan tid row currentRate).bind fun _ =>
    (swapBtcToUsd row.id).catching fun _ => .pure ()).catching fun _ => .pure ()

def redisGet (f : Answer → α) : Action α := commit .redis (fun _ => true) fun i w => .ok (f i, w)

def redisSet : Action Unit := commit .redis (fun _ => true) fun _ w => .ok ((), w)

/-- `SET … NX`: whether the key was not there. -/
def redisSetFirst : Action Bool := redisGet fun i => !i.keyLives

/-- The user and the repayment account are read, and either can be missing. A send that
fails is only logged. -/
def sendCoverageNotice (sendEmail : Bool) : Action Unit :=
  if sendEmail then
    (query fun i _ => .ok (truthy i.message)).bind fun recipient =>
    match recipient with
    | none => .pure ()
    | some _ => (commit .sendEmail (fun _ => true) fun _ w => .ok ((), w)).catching fun _ => .pure ()
  else .pure ()

/-- Each tier nudges once while its key lives; below the margin call both do. -/
def evaluateCoverageTiers (sendEmail : Bool) (value total : ℚ) : Action Unit :=
  if ratioAtLeast coverageWarnTier value total then .pure ()
  else
    redisSetFirst.bind fun warnFirst =>
    (if warnFirst then sendCoverageNotice sendEmail else .pure ()).bind fun _ =>
    if ratioAtLeast coverageMarginCallTier value total then .pure ()
    else
      redisSetFirst.bind fun marginCallFirst =>
      if marginCallFirst then sendCoverageNotice sendEmail else .pure ()

/-- The alert to ops is a log line, once while its key lives. -/
def alertOps (value total : ℚ) : Action Unit :=
  if ratioAtMost alertThreshold value total then
    (redisGet (·.keyLives)).bind fun alreadyAlerted =>
    if alreadyAlerted then .pure () else redisSet
  else .pure ()

/-- One turn of the loop. -/
def checkLoan (tid : Nat) (sendEmail : Bool) (currentRate : ℚ) (asOf : Time)
    (row : ActiveLoanRow) (repayments : List LoanRepayment) : Action Unit :=
  let total := (outstandingOf row.loan repayments asOf).totalOutstandingNgn
  let value := currentValueNgn currentRate row.loan
  if rateSuspect currentRate row.loan then .pure ()
  else if ratioAtMost liquidationThreshold value total then seizeCollateral tid row currentRate
  else
    ((evaluateCoverageTiers sendEmail value total).catching fun _ => .pure ()).bind fun _ =>
    alertOps value total

def heartbeat : Action Unit := redisSet

/-- The rows of the candidates, which the accrual service sorts, and the clock; without
candidates nothing is read. -/
def readRepayments (rows : List ActiveLoanRow) :
    Action ((Nat → List LoanRepayment) × Time) :=
  if rows.isEmpty then .pure (fun _ => [], 0)
  else query fun i w => .ok (repaymentsOf w, i.now)

/-- From a usable rate on. `order` is the order in which the database returns the
candidates. -/
def checkLoans (tid : Nat) (sendEmail : Bool) (order : List ActiveLoanRow → List ActiveLoanRow)
    (currentRate : ℚ) : Action Unit :=
  (query fun _ w => .ok (order (activeLoans w))).bind fun rows =>
  (readRepayments rows).bind fun read =>
  (Proc.each rows fun row =>
    checkLoan tid sendEmail currentRate read.2 row (read.1 row.id)).bind fun _ => heartbeat

/-- `sellOf` reads the sell rate out of the cached text; it is none where `JSON.parse` or
`new Decimal` throws. -/
def runLiquidationCycle (tid : Nat) (sellOf : String → Option Decimal) (sendEmail : Bool)
    (order : List ActiveLoanRow → List ActiveLoanRow) : Action Unit :=
  (redisGet (·.priceStale)).bind fun stale =>
  match truthy stale with
  | some _ => heartbeat
  | none =>
    (redisGet (·.price)).bind fun rateRaw =>
    match truthy rateRaw with
    | none => heartbeat
    | some raw =>
      match sellOf raw with
      | none => heartbeat
      | some (.finite currentRate) =>
        -- Never on a zero or negative price: the feed is marked stale.
        if currentRate ≤ 0 then redisSet.bind fun _ => heartbeat
        else checkLoans tid sendEmail order currentRate
      | some _ => redisSet.bind fun _ => heartbeat

end LiquidationMonitor

namespace OpsLoansService
open LoanStatusService

/-- A liquidation without a rate, or at a rate below the loan's own floor. -/
def isBadRate (loan : Loan) : Bool :=
  loan.liquidationRateActual.all fun actualRate =>
    actualRate < loan.satNgnRateAtCreation * minLiquidationRateFraction

/-- The transaction, without the audit row: it writes the status without reading it. -/
def writeRestoration (loanId : Nat) (loan : Loan) (w : World) : Except AppError World := do
  let loans ← updateRow w.loans loanId fun loan =>
    { loan with status := .active, liquidatedAt := none, liquidationRateActual := none }
  let log : LoanStatusLog :=
    ⟨loanId, loan.userId, some .liquidated, .active, .system, .liquidationReversedBadRate⟩
  return { w with loans := loans, statusLogs := w.statusLogs ++ [log] }

def restoreFromBadLiquidation (loanId : Nat) : Action Unit :=
  (query fun _ w => match w.loans[loanId]? with
    | none => .error .loanNotFound
    | some loan => .ok loan).bind fun loan =>
  if loan.status ≠ .liquidated then .throw (.loanNotLiquidated loan.status)
  else if !isBadRate loan then
    .throw (.liquidationNotBadRate (loan.liquidationRateActual.map (toFixed 6))
      (toFixed 6 loan.satNgnRateAtCreation)
      (toFixed 6 (loan.satNgnRateAtCreation * minLiquidationRateFraction)))
  else commit (.loanStatus loanId .liquidated .active) (loanFree loanId) fun _ w =>
    (writeRestoration loanId loan w).map ((), ·)

end OpsLoansService

namespace LiquidationMonitor
open LoansService

def liquidated (currentRate : ℚ) (now : Time) (loan : Loan) : Loan :=
  { loan with
    status := .liquidated, liquidatedAt := some now, liquidationRateActual := some currentRate }

theorem writeLiquidation_ok {row : ActiveLoanRow} {currentRate : ℚ} {now : Time} {w w' : World}
    (done : writeLiquidation row currentRate now w = .ok w') : ∃ stored log,
    w.loans[row.id]? = some stored ∧ log.loanId = row.id ∧ log.toStatus = .liquidated ∧
      w' = { w with
        loans := w.loans.set row.id (liquidated currentRate now stored)
        statusLogs := w.statusLogs ++ [log] } := by
  obtain ⟨loans, moved, done⟩ := bind_ok.mp done
  obtain ⟨stored, found, rfl⟩ := updateRow_ok.mp moved
  exact ⟨stored, _, found, rfl, rfl, (Except.ok.inj done).symm⟩

theorem liquidation_written {row : ActiveLoanRow} {currentRate : ℚ}
    {now : Time} {w w' : World} (done : writeLiquidation row currentRate now w = .ok w') :
    StatusWritten row.id .liquidated w w' := by
  obtain ⟨stored, _, found, _, _, rfl⟩ := writeLiquidation_ok done
  exact ⟨rfl, stored, _, found, rfl, rfl⟩

def Quiet : Access → Prop
  | .read | .redis | .sendEmail => True
  | _ => False

theorem looks_of_same {label : Access} {f : Answer → α} (quiet : Quiet label) :
    (commit label (fun _ => true) fun i w => .ok (f i, w)).Looks Quiet := by
  refine Proc.looks_access quiet fun i s => ?_
  unfold committed
  by_cases fails : i.fails = true <;> simp [fails]

theorem redisGet_looks (f : Answer → α) : (redisGet f).Looks Quiet := looks_of_same trivial

theorem redisSet_looks : redisSet.Looks Quiet := looks_of_same trivial

theorem heartbeat_looks : heartbeat.Looks Quiet := redisSet_looks

theorem sendCoverageNotice_looks (sendEmail : Bool) :
    (sendCoverageNotice sendEmail).Looks Quiet := by
  unfold sendCoverageNotice
  split
  · apply (query_looks trivial).bind
    rintro (_ | _)
    · trivial
    · have sends : (commit .sendEmail (fun _ => true) fun _ w => .ok ((), w)).Looks Quiet :=
        looks_of_same trivial
      exact sends.catching fun _ => trivial
  · trivial

theorem evaluateCoverageTiers_looks (sendEmail : Bool) (value total : ℚ) :
    (evaluateCoverageTiers sendEmail value total).Looks Quiet := by
  have notice (first : Bool) :
      (if first then sendCoverageNotice sendEmail else .pure () : Action Unit).Looks Quiet := by
    cases first
    · trivial
    · exact sendCoverageNotice_looks sendEmail
  unfold evaluateCoverageTiers
  split
  · trivial
  · refine (redisGet_looks _).bind fun warnFirst => (notice warnFirst).bind fun _ => ?_
    split
    · trivial
    · exact (redisGet_looks _).bind notice

theorem alertOps_looks (value total : ℚ) : (alertOps value total).Looks Quiet := by
  unfold alertOps
  split
  · refine (redisGet_looks _).bind fun alreadyAlerted => ?_
    cases alreadyAlerted
    · exact redisSet_looks
    · trivial
  · trivial

theorem readRepayments_looks (rows : List ActiveLoanRow) : (readRepayments rows).Looks Quiet := by
  unfold readRepayments
  split
  · trivial
  · exact query_looks trivial

section Turn
variable {tid : Nat} {sendEmail : Bool} {currentRate : ℚ} {asOf : Time} {row : ActiveLoanRow}
  {repayments : List LoanRepayment}

theorem checkLoan_due (due : shouldLiquidate currentRate row.loan repayments asOf = true) :
    checkLoan tid sendEmail currentRate asOf row repayments =
      seizeCollateral tid row currentRate := by
  unfold shouldLiquidate at due
  split at due
  · contradiction
  · rename_i credible
    simp only [checkLoan, credible, due, if_true, Bool.false_eq_true, if_false]

theorem checkLoan_spared (spared : shouldLiquidate currentRate row.loan repayments asOf = false) :
    (checkLoan tid sendEmail currentRate asOf row repayments).Looks Quiet := by
  unfold checkLoan
  split
  · trivial
  · rename_i credible
    have above := spared
    simp only [shouldLiquidate, credible, Bool.false_eq_true, if_false] at above
    simp only [above, Bool.false_eq_true, if_false]
    refine ((evaluateCoverageTiers_looks _ _ _).catching fun _ => ?_).bind fun _ =>
      alertOps_looks _ _
    trivial

end Turn

/-- A contract of a cycle comes from its selection and from each seizure; `chosen` is what
is known of the candidates once the first ones have had their turns. -/
theorem runLiquidationCycle_due {c : Contract World Answer Access} {tid : Nat}
    {sellOf : String → Option Decimal} {sendEmail : Bool}
    {order : List ActiveLoanRow → List ActiveLoanRow} (kept : World → Prop)
    (chosen : List ActiveLoanRow → List ActiveLoanRow → World → Prop) {w : World}
    (still : ∀ label i t, Quiet label → c.guar label i t t)
    (keeps : ∀ s t, c.rely s t → kept s → kept t)
    (stays : ∀ rows past s t, c.rely s t → chosen rows past s → chosen rows past t)
    (select : ∀ t, c.inv t → kept t → chosen (order (activeLoans t)) [] t)
    (spare : ∀ rows past row t, chosen rows past t → chosen rows (past ++ [row]) t)
    (seize : ∀ rows past row rest, rows = past ++ row :: rest → ∀ rate repayments asOf,
      shouldLiquidate rate row.loan repayments asOf = true → ∀ t, chosen rows past t →
        (seizeCollateral tid row rate).Meets c (fun _ => chosen rows (past ++ [row]))
          (fun _ _ => True) t)
    (start : kept w) :
    (runLiquidationCycle tid sellOf sendEmail order).Meets c (fun _ _ => True)
      (fun _ _ => True) w := by
  have only {p : Action Unit} (looks : p.Looks Quiet) (t : World) :
      p.Meets c (fun _ _ => True) (fun _ _ => True) t :=
    looks.meets (fun _ _ _ h => h) still trivial
  have first {α : Type} {p : Action α} {f : α → Action Unit} {t : World} (looks : p.Looks Quiet)
      (here : kept t) (rest : ∀ a u, kept u → (f a).Meets c (fun _ _ => True) (fun _ _ => True) u) :
      (p.bind f).Meets c (fun _ _ => True) (fun _ _ => True) t := by
    rw [Proc.meets_bind]
    exact (looks.meets keeps still here).imp rest fun _ _ _ => trivial
  have checks (rate : ℚ) (t : World) (here : kept t) :
      (checkLoans tid sendEmail order rate).Meets c (fun _ _ => True) (fun _ _ => True) t := by
    rw [checkLoans, Proc.meets_bind]
    apply query_meets
    intro u moved inv i _
    refine ⟨still .read i u trivial, trivial, fun _ _ => trivial, fun rows read => ?_⟩
    obtain rfl := Except.ok.inj read
    have chose := select u inv (keeps t u moved here)
    rw [Proc.meets_bind]
    apply ((readRepayments_looks _).meets (stays _ _) still chose).imp
    · intro history v chosenᵥ
      rw [Proc.meets_bind]
      apply (Proc.meets_each_prefix chosenᵥ _).imp
      · exact fun _ x _ => only heartbeat_looks x
      · exact fun _ _ h => h
      · intro past row rest split x known
        cases decided : shouldLiquidate rate row.loan (history.1 row.id) history.2 with
        | true =>
          rw [checkLoan_due decided]
          exact seize _ past row rest split rate _ _ decided x known
        | false =>
          exact ((checkLoan_spared decided).meets (stays _ _) still known).imp
            (fun _ y => spare _ past row y) fun _ _ _ => trivial
    · exact fun _ _ _ => trivial
  unfold runLiquidationCycle
  apply first (redisGet_looks _) start
  intro stale t here
  split
  · exact only heartbeat_looks t
  · apply first (redisGet_looks _) here
    intro rateRaw u here
    split
    · exact only heartbeat_looks u
    · split
      · exact only heartbeat_looks u
      · split
        · exact only (redisSet_looks.bind fun _ => heartbeat_looks) u
        · exact checks _ u here
      · exact only (redisSet_looks.bind fun _ => heartbeat_looks) u

/-- The same, where a seizure may come at any rate. -/
theorem runLiquidationCycle_turns {c : Contract World Answer Access} {tid : Nat}
    {sellOf : String → Option Decimal} {sendEmail : Bool}
    {order : List ActiveLoanRow → List ActiveLoanRow} (kept : World → Prop)
    (chosen : List ActiveLoanRow → List ActiveLoanRow → World → Prop) {w : World}
    (still : ∀ label i t, Quiet label → c.guar label i t t)
    (keeps : ∀ s t, c.rely s t → kept s → kept t)
    (stays : ∀ rows past s t, c.rely s t → chosen rows past s → chosen rows past t)
    (select : ∀ t, c.inv t → kept t → chosen (order (activeLoans t)) [] t)
    (spare : ∀ rows past row t, chosen rows past t → chosen rows (past ++ [row]) t)
    (seize : ∀ rows past row rest, rows = past ++ row :: rest → ∀ rate t, chosen rows past t →
      (seizeCollateral tid row rate).Meets c (fun _ => chosen rows (past ++ [row]))
        (fun _ _ => True) t)
    (start : kept w) :
    (runLiquidationCycle tid sellOf sendEmail order).Meets c (fun _ _ => True)
      (fun _ _ => True) w :=
  runLiquidationCycle_due kept chosen still keeps stays select spare
    (fun rows past row rest split rate _ _ _ => seize rows past row rest split rate) start

/-- The same, where what is known of the candidates does not depend on the turns. -/
theorem runLiquidationCycle_meets {c : Contract World Answer Access} {tid : Nat}
    {sellOf : String → Option Decimal} {sendEmail : Bool}
    {order : List ActiveLoanRow → List ActiveLoanRow} (kept : World → Prop)
    (chosen : List ActiveLoanRow → World → Prop) {w : World}
    (still : ∀ label i t, Quiet label → c.guar label i t t)
    (keeps : ∀ s t, c.rely s t → kept s → kept t)
    (stays : ∀ rows s t, c.rely s t → chosen rows s → chosen rows t)
    (select : ∀ t, c.inv t → kept t → chosen (order (activeLoans t)) t)
    (seize : ∀ rows, ∀ row ∈ rows, ∀ rate t, chosen rows t →
      (seizeCollateral tid row rate).Meets c (fun _ => chosen rows) (fun _ _ => True) t)
    (start : kept w) :
    (runLiquidationCycle tid sellOf sendEmail order).Meets c (fun _ _ => True)
      (fun _ _ => True) w := by
  refine runLiquidationCycle_turns kept (fun rows _ => chosen rows) still keeps
    (fun rows _ => stays rows) select (fun _ _ _ _ known => known) ?_ start
  rintro rows past row rest rfl rate t known
  exact seize _ row (by simp) rate t known

end LiquidationMonitor

end Bitmonie
