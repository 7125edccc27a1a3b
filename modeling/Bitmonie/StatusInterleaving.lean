import Bitmonie.LiquidationMonitor

/-! The status of a loan under every interleaving of the operations that write it. Each
write updates by id a row that was read earlier, so it is forward exactly when the row
still holds the status that was read, or holds the new one already. -/
namespace Bitmonie.StatusInterleaving
open LoanStatusService LoansService LoanExpiryWorker LiquidationMonitor

inductive Operation where
  | activateLoan (loanId : Nat) (collateralReceivedAt : Time)
  | cancelLoan (userId loanId : Nat)
  | runExpiryCycle (order : List ExpiredLoanRow → List ExpiredLoanRow)
  | runLiquidationCycle (sellOf : String → Option Decimal) (sendEmail : Bool)
      (order : List ActiveLoanRow → List ActiveLoanRow)
  | creditInflow (params : CreditParams)

def procedure (tid : Nat) : Operation → Action Unit
  | .activateLoan loanId collateralReceivedAt => activateLoan loanId collateralReceivedAt
  | .cancelLoan userId loanId => cancelLoan userId loanId
  | .runExpiryCycle order => runExpiryCycle order
  | .runLiquidationCycle sellOf sendEmail order => runLiquidationCycle tid sellOf sendEmail order
  | .creditInflow params => (creditInflow tid params).bind fun _ => .pure ()

/-- The stored status of a loan changes along a valid transition, or not at all. -/
def ForwardAt (loanId : Nat) (before after : World) : Prop :=
  ∀ loan, before.loans[loanId]? = some loan →
    ∃ loan', after.loans[loanId]? = some loan' ∧ Forward loan.status loan'.status

/-- A status write that takes effect finds the status its operation read, or the one it
is about to write. -/
def current : Access → Answer → World → Bool
  | .loanStatus loanId fromStatus toStatus, i, w =>
    i.fails || toStatus ∉ validTransitions fromStatus ||
      (w.loans[loanId]?).all fun loan => loan.status = fromStatus || loan.status = toStatus
  | _, _, _ => true

/-- A status has one valid predecessor, so the condition is exact: any other stored
status makes the write an invalid move. -/
theorem forward_iff_current {fromStatus toStatus stored : LoanStatus}
    (valid : toStatus ∈ validTransitions fromStatus) :
    Forward stored toStatus ↔ stored = fromStatus ∨ stored = toStatus := by
  revert valid
  cases fromStatus <;> cases toStatus <;> cases stored <;> decide

/-- The contract of every operation: nothing but valid moves, and held rows are left to
their holders. -/
def forwardOnly : Discipline World Answer Access where
  inv _ := True
  allowed label i w := current label i w = true
  fresh tid w := ∀ loanId, w.rowLock loanId ≠ some tid
  rely := RowsHeld
  guar tid _ _ s t := (∀ other, tid ≠ other → RowsHeld other s t) ∧ ∀ loanId, ForwardAt loanId s t

theorem forwardOnly_sound : forwardOnly.Sound where
  refl := Owned.refl
  trans _ _ _ _ := Owned.trans
  compatible _ other _ _ _ _ different _ guar := guar.1 other different
  fresh _ _ _ rely unheld loanId := rely.unheld loanId (unheld loanId)

abbrev contract (tid : Nat) : Contract World Answer Access := forwardOnly.contract tid

/-- Any result will do; the contract binds the accesses. -/
abbrev Keeps (tid : Nat) (p : Action α) (w : World) : Prop :=
  p.Meets (contract tid) (fun _ _ => True) (fun _ _ => True) w

theorem ForwardAt.of_eq {loanId : Nat} {w w' : World}
    (same : w'.loans[loanId]? = w.loans[loanId]?) : ForwardAt loanId w w' :=
  fun loan found => ⟨loan, same.trans found, Forward.refl loan.status⟩

theorem ForwardAt.refl (loanId : Nat) (w : World) : ForwardAt loanId w w := .of_eq rfl

theorem still (tid : Nat) (label : Access) (i : Answer) (w : World) :
    (contract tid).guar label i w w :=
  ⟨fun other _ => Owned.refl other w, fun loanId => ForwardAt.refl loanId w⟩

/-- An access that touches neither loans nor locks. -/
theorem still_of_eq {tid : Nat} {label : Access} {i : Answer} {w w' : World}
    (loans : w'.loans = w.loans) (locks : w'.rowLock = w.rowLock) :
    (contract tid).guar label i w w' := by
  exact ⟨fun other _ => .of_view locks fun loanId _ => by rw [loans],
    fun loanId => .of_eq (by rw [loans])⟩

theorem query_keeps {tid : Nat} {f : Answer → World → Except AppError α} {w : World}
    {post : α → World → Prop}
    (read : ∀ t i a, RowsHeld tid w t → f i t = .ok a → post a t) :
    (query f).Meets (contract tid) post (fun _ _ => True) w :=
  query_meets fun t moved _ i _ => ⟨still tid .read i t, trivial, fun _ _ => trivial,
    fun a result => read t i a moved result⟩

/-- The step: a status write whose row is current moves the status forward. -/
theorem statusWrite_keeps {tid loanId : Nat} {fromStatus toStatus : LoanStatus} {w : World}
    {f : Answer → World → Except AppError (α × World)}
    (writes : ∀ i t a t', f i t = .ok (a, t') →
      StatusWritten loanId toStatus t t' ∧ toStatus ∈ validTransitions fromStatus) :
    Keeps tid (commit (.loanStatus loanId fromStatus toStatus) (loanFree loanId) f) w := by
  apply commit_meets
  intro t _ _ free i allowed
  refine ⟨still tid _ i t, fun _ => trivial, fun _ _ => trivial, fun a t' succeeds done => ?_⟩
  obtain ⟨wrote, valid⟩ := writes i t a t' done
  refine ⟨trivial, ⟨fun other _ => ?_, fun id => ?_⟩, fun _ => trivial, fun _ => trivial⟩
  · apply Owned.of_view wrote.locks
    intro id held
    by_cases same : loanId = id
    · subst same
      rw [loanFree, held] at free
      cases free
    · exact wrote.other same
  · by_cases same : loanId = id
    · subst same
      intro loan found
      obtain ⟨stored, row, present, status, rows⟩ := wrote.rows
      refine ⟨row, by rw [rows, getElem?_set_of_eq present], ?_⟩
      rw [status, forward_iff_current valid]
      change current (.loanStatus loanId fromStatus toStatus) i t = true at allowed
      simpa [current, succeeds, valid, found] using allowed
    · exact .of_eq (wrote.other same)

theorem cancelLoan_keeps (tid userId loanId : Nat) (w : World) :
    Keeps tid (cancelLoan userId loanId) w := by
  rw [Keeps, cancelLoan, Proc.meets_bind]
  apply query_keeps
  intro _ _ loan _ _
  apply statusWrite_keeps
  intro i t a t' done
  obtain ⟨w', moved, -, rfl⟩ := map_pair_ok.mp done
  exact cancel_written moved

theorem activateLoan_keeps (tid loanId : Nat) (collateralReceivedAt : Time) (w : World) :
    Keeps tid (activateLoan loanId collateralReceivedAt) w := by
  rw [Keeps, activateLoan, Proc.meets_bind]
  apply query_keeps
  intro _ _ loan _ _
  split
  · trivial
  · rename_i pending
    have pending : loan.status = .pendingCollateral := not_not.mp pending
    rw [Proc.meets_bind]
    apply (statusWrite_keeps _).imp
    · exact fun _ _ _ => query_keeps fun _ _ _ _ _ => trivial
    · exact fun _ _ h => h
    · intro i t a t' done
      obtain ⟨w', wrote, -, rfl⟩ := map_pair_ok.mp done
      rw [pending]
      exact ⟨activation_written pending wrote, by decide⟩

theorem expireLoan_keeps (tid : Nat) (row : ExpiredLoanRow) (w : World) :
    Keeps tid (expireLoan row) w := by
  rw [Keeps, expireLoan, Proc.meets_bind]
  apply (statusWrite_keeps _).imp
  · intro _ t _
    apply commit_meets
    intro t _ _ _ i _
    refine ⟨still tid _ i t, fun _ => trivial, fun _ _ => trivial, fun _ t' _ done => ?_⟩
    obtain ⟨_, rfl⟩ := Prod.mk.inj (Except.ok.inj done)
    exact ⟨trivial, still_of_eq rfl rfl, fun _ => trivial, fun _ => trivial⟩
  · exact fun _ _ h => h
  · intro i t a t' done
    obtain ⟨w', wrote, -, rfl⟩ := map_pair_ok.mp done
    exact ⟨expiry_written wrote, by decide⟩

theorem runExpiryCycle_keeps (tid : Nat) (order : List ExpiredLoanRow → List ExpiredLoanRow)
    (w : World) : Keeps tid (runExpiryCycle order) w := by
  rw [Keeps, runExpiryCycle, Proc.meets_bind]
  apply query_keeps
  intro _ _ rows _ _
  apply Proc.meets_each trivial
  intro row _ t _
  rw [Proc.meets_catching]
  exact (expireLoan_keeps tid row t).imp (fun _ _ _ => trivial) fun _ _ _ => trivial

theorem liquidateLoan_keeps (tid : Nat) (row : ActiveLoanRow) (rate : ℚ) (w : World) :
    Keeps tid (liquidateLoan tid row rate) w := by
  apply statusWrite_keeps
  intro i t a t' done
  obtain ⟨w', wrote, -, rfl⟩ := map_pair_ok.mp done
  have written := liquidation_written wrote
  exact ⟨⟨written.locks, written.rows⟩, by decide⟩

theorem seizeCollateral_keeps (tid : Nat) (row : ActiveLoanRow) (rate : ℚ) (w : World) :
    Keeps tid (seizeCollateral tid row rate) w := by
  rw [Keeps, seizeCollateral, Proc.meets_catching, Proc.meets_bind]
  apply (liquidateLoan_keeps tid row rate w).imp
  · intro _ t _
    rw [Proc.meets_catching, swapBtcToUsd, Proc.meets_access]
    intro u _ _ _ i _
    refine ⟨trivial, still_of_eq rfl rfl, ?_⟩
    cases i.fails || i.lost <;> trivial
  · exact fun _ _ h => h

theorem runLiquidationCycle_keeps (tid : Nat) (sellOf : String → Option Decimal)
    (sendEmail : Bool) (order : List ActiveLoanRow → List ActiveLoanRow) (w : World) :
    Keeps tid (runLiquidationCycle tid sellOf sendEmail order) w := by
  apply runLiquidationCycle_meets (fun _ => True) (fun _ _ => True)
  · exact fun label i t _ => still tid label i t
  · exact fun _ _ _ h => h
  · exact fun _ _ _ _ h => h
  · exact fun _ _ h => h
  · exact fun _ row _ rate t _ => seizeCollateral_keeps tid row rate t
  · trivial

/-- Under the lock the row that is written is the row that was read. -/
theorem credit_keeps {tid : Nat} {params : CreditParams} {loan : Loan} {credit : Credit}
    {w w' : World} (active : loan.status = .active) (held : w.rowLock params.loanId = some tid)
    (found : w.loans[params.loanId]? = some loan) {createdAt : Time}
    (wrote : Written params loan credit createdAt w w') (label : Access) (i : Answer) :
    (contract tid).guar label i w { w' with credited := tid :: w'.credited } := by
  refine ⟨fun other different => .of_view wrote.locks fun loanId theirs => ?_, fun loanId => ?_⟩
  · have elsewhere : params.loanId ≠ loanId := by
      rintro rfl
      exact different (Option.some.inj (held.symm.trans theirs))
    exact wrote.loan_other elsewhere
  · by_cases same : params.loanId = loanId
    · subst same
      intro before had
      obtain rfl := Option.some.inj (found.symm.trans had)
      refine ⟨_, wrote.loan_self found, ?_⟩
      rw [active, creditedLoan]
      split
      · exact .inr (by simp [validTransitions])
      · exact .inl active.symm
    · exact .of_eq (wrote.loan_other same)

theorem creditBody_keeps (tid : Nat) (params : CreditParams) {w : World}
    (held : w.rowLock params.loanId = some tid) :
    (creditBody tid params).Meets (contract tid) (fun _ u => u.rowLock params.loanId = some tid)
      (fun _ u => u.rowLock params.loanId = some tid) w := by
  rw [creditBody, Proc.meets_bind]
  apply query_meets
  intro t moved _ i _
  have heldₜ := (moved.kept params.loanId held).1
  refine ⟨still tid .read i t, heldₜ, fun _ _ => heldₜ, fun read result => ?_⟩
  obtain ⟨rows, reads, rfl⟩ := map_ok.mp result
  rw [Proc.meets_bind]
  cases planned : planCredit params.amountNgn i.now rows.1 rows.2 with
  | error e => exact heldₜ
  | ok plan =>
    cases plan with
    | none => exact heldₜ
    | some credit =>
      simp only [Proc.ofExcept, Proc.meets_pure, Proc.meets_bind]
      apply commit_meets
      intro u moved' _ _ j _
      obtain ⟨heldᵤ, same⟩ := moved'.kept params.loanId heldₜ
      refine ⟨still tid _ j u, fun _ => heldᵤ, fun _ _ => heldᵤ, fun _ u' _ done => ?_⟩
      obtain ⟨v, wrote, -, rfl⟩ := map_pair_ok.mp done
      have active := (planCredit_ok planned).1
      have found : u.loans[params.loanId]? = some rows.1 := by
        rw [same]
        exact readLoan_found reads
      have written := writeCredit_ok active wrote
      have after : v.rowLock params.loanId = some tid := (congrFun written.locks _).trans heldᵤ
      exact ⟨trivial, credit_keeps active heldᵤ found written _ j, fun _ => after, fun _ => after⟩

theorem creditInflow_keeps (tid : Nat) (params : CreditParams) (w : World) :
    Keeps tid (creditInflow tid params) w := by
  rw [Keeps, creditInflow, Proc.meets_bind]
  cases floorCheck params with
  | error e => trivial
  | ok =>
    simp only [Proc.ofExcept, Proc.meets_pure, Proc.meets_bind]
    apply lockingLoan_meets
    · intro t _ _ free i _
      refine ⟨still tid _ i t, trivial, trivial, fun _ _ => ⟨trivial, ⟨?_, ?_⟩, ?_⟩⟩
      · intro other different
        exact rowsHeld_of_lock (by simp [free]) fun same => different (Option.some.inj same)
      · exact fun loanId => ForwardAt.refl loanId t
      · exact creditBody_keeps tid params (by simp)
    · intro u t moved _ i _
      have release (mine : u.rowLock params.loanId = some tid) :
          (contract tid).guar (.unlockLoan params.loanId) i t
            { t with rowLock := Function.update t.rowLock params.loanId none } := by
        have held := (moved.kept params.loanId mine).1
        refine ⟨fun other different => rowsHeld_of_lock ?_ (by simp), fun loanId => ForwardAt.refl loanId t⟩
        rw [held]
        exact fun same => different (Option.some.inj same)
      refine ⟨fun done mine => ⟨trivial, release mine, ?_⟩, fun _ mine => ⟨trivial, release mine, trivial⟩⟩
      cases done.2 with
      | none => trivial
      | some receipt =>
        rw [Proc.meets_bind]
        exact query_keeps fun _ _ _ _ _ => trivial

theorem procedure_keeps (tid : Nat) (op : Operation) (w : World) : Keeps tid (procedure tid op) w := by
  cases op with
  | activateLoan loanId collateralReceivedAt =>
    exact activateLoan_keeps tid loanId collateralReceivedAt w
  | cancelLoan userId loanId => exact cancelLoan_keeps tid userId loanId w
  | runExpiryCycle order => exact runExpiryCycle_keeps tid order w
  | runLiquidationCycle sellOf sendEmail order =>
    exact runLiquidationCycle_keeps tid sellOf sendEmail order w
  | creditInflow params =>
    rw [Keeps, procedure, Proc.meets_bind]
    exact (creditInflow_keeps tid params w).imp (fun _ _ _ => trivial) fun _ _ _ => trivial

/-- The state machine over a whole run: each access moves each loan forward, and a loan
whose status was terminal at some point still has it. -/
structure ForwardOnly (w₀ : World) (trace : List (Nat × Event World Answer Access))
    (w : World) : Prop where
  forward : ∀ e ∈ trace, ∀ loanId, ForwardAt loanId e.2.before e.2.after
  final : ∀ first rest, trace = first ++ rest → ∀ (loanId : Nat) (loan : Loan),
    (stateAfter w₀ first).loans[loanId]? = some loan → Terminal loan.status →
      ∃ loan' : Loan, w.loans[loanId]? = some loan' ∧ loan'.status = loan.status

/-- In a run whose status writes all find a current row, statuses only move forward. -/
theorem statuses_forward_only {w₀ : World} {trace : List (Nat × Event World Answer Access)}
    {c : Config World Answer Access AppError Unit} (unlocked : ∀ loanId, w₀.rowLock loanId = none)
    (run : Runs procedure w₀ trace c)
    (found : ∀ e ∈ trace, current e.2.label e.2.answer e.2.before = true) :
    ForwardOnly w₀ trace c.shared := by
  have held := run.holds forwardOnly_sound (fun _ _ _ _ _ _ => trivial)
    (fun _ _ _ _ _ _ => trivial) trivial (fun tid loanId => by simp [unlocked loanId])
    (fun tid op w _ _ => procedure_keeps tid op w) found
  have forward : ∀ e ∈ trace, ∀ loanId, ForwardAt loanId e.2.before e.2.after :=
    fun e member => (held.events e member).2.2.2
  refine ⟨forward, fun first rest split loanId loan found terminal => ?_⟩
  apply run.keeps (fun w => ∃ loan', w.loans[loanId]? = some loan' ∧ loan'.status = loan.status)
    ?_ split ⟨loan, found, rfl⟩
  rintro e member ⟨before, had, same⟩
  obtain ⟨after, has, moved⟩ := forward e member loanId before had
  exact ⟨after, has, (moved.terminal (same ▸ terminal)).trans same⟩

def pendingLoan : Loan where
  userId := 0
  disbursementAccountId := 0
  collateralAmountSat := 250000
  principalNgn := 100000
  satNgnRateAtCreation := 3 / 5

def oneLoan : World where
  loans := [pendingLoan]

/-- The customer cancels between the read and the write of an activation: the loan goes
from CANCELLED to ACTIVE. -/
def cancelDuringActivation : List (Choice Operation Answer) :=
  [.start (.cancelLoan 0 0), .start (.activateLoan 0 5), .run 1 {}, .run 0 {}, .run 0 {}, .run 1 {}]

theorem statuses_not_forward_only : ∃ trace c, Runs procedure oneLoan trace c ∧
    ¬ ForwardOnly oneLoan trace c.shared := by
  have played := exists_run procedure oneLoan cancelDuringActivation
    (fun trace c => decide ((stateAfter oneLoan (trace.take 3)).loans[0]? =
        some { pendingLoan with status := .cancelled } ∧
      (c.shared.loans[0]?).map (·.status) = some .active)) (by decide +kernel)
  obtain ⟨trace, c, run, checked⟩ := played
  obtain ⟨before, after⟩ := of_decide_eq_true checked
  refine ⟨trace, c, run, fun holds => ?_⟩
  obtain ⟨loan, found, same⟩ := holds.final (trace.take 3) (trace.drop 3)
    (List.take_append_drop 3 trace).symm 0 _ before (by decide)
  rw [found] at after
  have activated : loan.status = .active := Option.some.inj after
  rw [same] at activated
  cases activated

/-- An activation, then a cycle of the liquidation monitor, with nothing in between. -/
def liquidationAfterActivation : List (Choice Operation Answer) :=
  [.start (.activateLoan 0 5), .run 0 {}, .run 0 {},
    .start (.runLiquidationCycle (fun _ => some (.finite (2 / 5))) false id), .run 1 {},
    .run 1 { price := some "0.4" }, .run 1 {}, .run 1 { now := 6 }, .run 1 { now := 7 },
    .run 1 {}, .run 1 {}]

theorem statuses_forward_only_liquidation : ∃ trace c, Runs procedure oneLoan trace c ∧
    (c.shared.loans[0]?).map (·.status) = some .liquidated ∧
    ForwardOnly oneLoan trace c.shared := by
  have played := exists_run procedure oneLoan liquidationAfterActivation
    (fun trace c => decide ((c.shared.loans[0]?).map (·.status) = some .liquidated ∧
      ∀ e ∈ trace, current e.2.label e.2.answer e.2.before = true)) (by decide +kernel)
  obtain ⟨trace, c, run, checked⟩ := played
  obtain ⟨liquidated, found⟩ := of_decide_eq_true checked
  exact ⟨trace, c, run, liquidated, statuses_forward_only (fun _ => rfl) run found⟩

end Bitmonie.StatusInterleaving
