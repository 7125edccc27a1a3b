import Mathlib.Data.List.Chain
import Bitmonie.ActivePayout
import Bitmonie.CollateralRelease
import Bitmonie.LiquidationDecision

/-! The status log of a loan, written partly by `transition` and partly by hand with
hard-coded values. When calls run one at a time, each to its end or cut short, it is the
history of the stored status. -/
namespace Bitmonie.StatusHistory
open LoanStatusService LoansService PaymentRequestsService LoanExpiryWorker LiquidationMonitor
  LiquidationDecision OpsLoansService CollateralRelease ActivePayout PayoutRules

inductive Operation where
  | checkoutLoan (user : User) (dto : CheckoutLoanDto)
  | activateLoan (loanId : Nat) (collateralReceivedAt : Time)
  | cancelLoan (userId loanId : Nat)
  | runExpiryCycle (rows : RowOrder ExpiredLoanRow)
  | runLiquidationCycle (sellOf : String → Option Decimal) (sendEmail : Bool)
      (rows : RowOrder ActiveLoanRow)
  | restoreFromBadLiquidation (loanId : Nat)
  | creditInflow (params : CreditParams)
  | releaseForLoan (loanId : Nat)

def procedure : Operation → Action Unit
  | .checkoutLoan user dto => (checkoutLoan user dto).bind fun _ => .pure ()
  | .activateLoan loanId collateralReceivedAt => activateLoan loanId collateralReceivedAt
  | .cancelLoan userId loanId => cancelLoan userId loanId
  | .runExpiryCycle rows => runExpiryCycle rows.order
  | .runLiquidationCycle sellOf sendEmail rows => runLiquidationCycle 0 sellOf sendEmail rows.order
  | .restoreFromBadLiquidation loanId => restoreFromBadLiquidation loanId
  | .creditInflow params => (creditInflow 0 params).bind fun _ => .pure ()
  | .releaseForLoan loanId => (releaseForLoan 0 loanId).bind fun _ => .pure ()

/-- The database rolls the open transaction back and lets go of its rows. -/
def rollback (w : World) : World := { w with rowLock := fun _ => none }

def logsOf (loanId : Nat) (w : World) : List LoanStatusLog :=
  w.statusLogs.filter fun log => log.loanId = loanId

/-- An entry that moves the status, or that says why it stays. -/
structure Admitted (log : LoanStatusLog) : Prop where
  stays : log.fromStatus = some log.toStatus → log.reasonCode ∈ selfTransitionReasons log.toStatus
  moves : ∀ fromStatus, log.fromStatus = some fromStatus → fromStatus ≠ log.toStatus →
    log.toStatus ∈ validTransitions fromStatus ∨
      (fromStatus = .liquidated ∧ log.toStatus = .active ∧
        log.reasonCode = .liquidationReversedBadRate)

/-- The entries, in the order they were written, lead from no status to the stored one. -/
structure Faithful (logs : List LoanStatusLog) (status : LoanStatus) : Prop where
  first : ∃ log rest, logs = log :: rest ∧ log.fromStatus = none ∧ log.toStatus = .pendingCollateral
  linked : logs.IsChain fun before after => after.fromStatus = some before.toStatus
  last : logs.getLast?.map (·.toStatus) = some status
  admitted : ∀ log ∈ logs, Admitted log

theorem Faithful.created {log : LoanStatusLog} (from_ : log.fromStatus = none)
    (to_ : log.toStatus = .pendingCollateral) : Faithful [log] .pendingCollateral where
  first := ⟨log, [], rfl, from_, to_⟩
  linked := .singleton log
  last := by simp [to_]
  admitted other member := by
    obtain rfl := List.mem_singleton.mp member
    exact ⟨by simp [from_], by simp [from_]⟩

/-- One more entry, from the stored status. -/
theorem Faithful.append {logs : List LoanStatusLog} {status : LoanStatus} {log : LoanStatusLog}
    (faithful : Faithful logs status) (from_ : log.fromStatus = some status)
    (admitted : Admitted log) : Faithful (logs ++ [log]) log.toStatus where
  first := by
    obtain ⟨first, rest, rfl, created⟩ := faithful.first
    exact ⟨first, rest ++ [log], rfl, created⟩
  linked := by
    refine List.isChain_append.mpr ⟨faithful.linked, .singleton log, fun before at_ after here => ?_⟩
    obtain rfl : log = after := by simpa using here
    have last := faithful.last
    rw [Option.mem_def.mp at_, Option.map_some] at last
    exact from_.trans last.symm
  last := by simp
  admitted other member := by
    rcases List.mem_append.mp member with old | new
    · exact faithful.admitted other old
    · obtain rfl := List.mem_singleton.mp new
      exact admitted

/-- A loan has one payment request at most, and a request has its loan. -/
structure Single (w : World) : Prop where
  single : ∀ (a b : Nat) (first second : PaymentRequest), w.paymentRequests[a]? = some first →
    w.paymentRequests[b]? = some second → first.sourceId = second.sourceId → a = b
  owned : ∀ (id : Nat) (request : PaymentRequest), w.paymentRequests[id]? = some request →
    request.sourceId < w.loans.length

/-- The history of every loan, and none of a loan that does not exist. -/
structure Recorded (w : World) : Prop extends Single w where
  history : ∀ (loanId : Nat) (loan : Loan), w.loans[loanId]? = some loan →
    Faithful (logsOf loanId w) loan.status
  unwritten : ∀ loanId, w.loans.length ≤ loanId → logsOf loanId w = []

def serial : Contract World Answer Access where
  inv := Recorded
  allowed _ _ _ := True
  rely s t := s = t
  guar _ _ _ _ := True

theorem Recorded.of_eq {s t : World} (recorded : Recorded s) (loans : t.loans = s.loans)
    (logs : t.statusLogs = s.statusLogs) (requests : t.paymentRequests = s.paymentRequests) :
    Recorded t := by
  refine ⟨⟨?_, ?_⟩, fun loanId loan found => ?_, fun loanId beyond => ?_⟩
  · simpa only [requests] using recorded.single
  · simpa only [loans, requests] using recorded.owned
  · rw [loans] at found
    simpa only [logsOf, logs] using recorded.history loanId loan found
  · rw [loans] at beyond
    simpa only [logsOf, logs] using recorded.unwritten loanId beyond

/-- The step: an entry from the stored status, which the row then has. -/
theorem Recorded.write {w t : World} {log : LoanStatusLog} {stored row : Loan}
    (recorded : Recorded w) (found : w.loans[log.loanId]? = some stored)
    (from_ : log.fromStatus = some stored.status) (admitted : Admitted log)
    (status : row.status = log.toStatus) (loans : t.loans = w.loans.set log.loanId row)
    (logs : t.statusLogs = w.statusLogs ++ [log]) (single : Single t) : Recorded t := by
  refine ⟨single, fun loanId loan present => ?_, fun loanId beyond => ?_⟩
  · by_cases same : log.loanId = loanId
    · subst same
      rw [loans, getElem?_set_of_eq found] at present
      obtain rfl := Option.some.inj present
      have wrote : logsOf log.loanId t = logsOf log.loanId w ++ [log] := by
        simp [logsOf, logs, List.filter_append]
      rw [wrote, status]
      exact (recorded.history log.loanId stored found).append from_ admitted
    · rw [loans, List.getElem?_set_ne same] at present
      have kept : logsOf loanId t = logsOf loanId w := by
        simp [logsOf, logs, List.filter_append, same]
      rw [kept]
      exact recorded.history loanId loan present
  · rw [loans, List.length_set] at beyond
    have bound := (List.getElem?_eq_some_iff.mp found).1
    have different : log.loanId ≠ loanId := by omega
    simpa [logsOf, logs, List.filter_append, different] using recorded.unwritten loanId beyond

theorem Single.of_eq {s t : World} (single : Single s) (loans : t.loans.length = s.loans.length)
    (requests : t.paymentRequests = s.paymentRequests) : Single t := by
  refine ⟨?_, ?_⟩
  · simpa only [requests] using single.single
  · simpa only [loans, requests] using single.owned

/-- A new loan, with its first entry. -/
theorem Recorded.create {w t : World} {log : LoanStatusLog} {row : Loan} (recorded : Recorded w)
    (at_ : log.loanId = w.loans.length) (from_ : log.fromStatus = none)
    (to_ : log.toStatus = .pendingCollateral) (status : row.status = .pendingCollateral)
    (loans : t.loans = w.loans ++ [row]) (logs : t.statusLogs = w.statusLogs ++ [log])
    (requests : t.paymentRequests = w.paymentRequests) : Recorded t := by
  refine ⟨⟨?_, fun id request found => ?_⟩, fun loanId loan present => ?_, fun loanId beyond => ?_⟩
  · simpa only [requests] using recorded.single
  · rw [requests] at found
    have := recorded.owned id request found
    rw [loans, List.length_append]
    omega
  · rw [loans] at present
    rcases row_of_concat present with old | ⟨rfl, rfl⟩
    · have bound := (List.getElem?_eq_some_iff.mp old).1
      have different : log.loanId ≠ loanId := by omega
      simpa [logsOf, logs, List.filter_append, different] using recorded.history loanId loan old
    · have none : logsOf w.loans.length w = [] := recorded.unwritten _ le_rfl
      rw [logsOf] at none
      rw [logsOf, logs, List.filter_append, none, status]
      simpa [at_] using Faithful.created from_ to_
  · rw [loans, List.length_append, List.length_singleton] at beyond
    have different : log.loanId ≠ loanId := by omega
    have old : w.loans.length ≤ loanId := by omega
    simpa [logsOf, logs, List.filter_append, different] using recorded.unwritten loanId old

/-- A write to the row of a loan that leaves its status alone. -/
theorem Recorded.set_row {w : World} {loanId : Nat} {stored row : Loan} (recorded : Recorded w)
    (found : w.loans[loanId]? = some stored) (same : row.status = stored.status) :
    Recorded { w with loans := w.loans.set loanId row } := by
  refine ⟨recorded.toSingle.of_eq (by simp) rfl, fun other loan present => ?_, fun other beyond => ?_⟩
  · by_cases here : loanId = other
    · subst here
      rw [getElem?_set_of_eq found] at present
      obtain rfl := Option.some.inj present
      exact same ▸ recorded.history loanId stored found
    · rw [List.getElem?_set_ne here] at present
      exact recorded.history other loan present
  · rw [List.length_set] at beyond
    exact recorded.unwritten other beyond

/-- `transition`, from the stored status. -/
theorem transition_recorded {params : TransitionParams} {w t : World} {stored : Loan}
    (recorded : Recorded w) (found : w.loans[params.loanId]? = some stored)
    (from_ : params.fromStatus = some stored.status) (done : transition params w = .ok t) :
    Recorded t := by
  obtain ⟨loans, updated, rfl⟩ := transition_ok done
  simp only [updateStatus, from_] at updated
  obtain ⟨_, valid, updated⟩ := bind_ok.mp updated
  by_cases same : stored.status = params.toStatus
  · rw [if_neg (not_not.mpr same)] at updated
    obtain rfl := Except.ok.inj updated
    have reason : params.reasonCode ∈ selfTransitionReasons params.toStatus := by
      rw [assertValidTransition, if_pos same, same] at valid
      split at valid
      · assumption
      · cases valid
    have row : w.loans = w.loans.set params.loanId stored := by
      obtain ⟨bound, at_⟩ := List.getElem?_eq_some_iff.mp found
      rw [← at_, List.set_getElem_self]
    refine recorded.write found from_ ⟨fun _ => reason, fun fromStatus is different => ?_⟩ same row
      rfl (recorded.toSingle.of_eq rfl rfl)
    obtain rfl := Option.some.inj (from_.symm.trans is)
    exact absurd same different
  · rw [if_pos same] at updated
    obtain ⟨row, present, rfl⟩ := updateRow_ok.mp updated
    obtain rfl := Option.some.inj (found.symm.trans present)
    have moved := (assertValidTransition_move params.reasonCode same).mp valid
    refine recorded.write found from_ ⟨fun stays => ?_, fun fromStatus is _ => ?_⟩ rfl rfl rfl
      (recorded.toSingle.of_eq (by simp) rfl)
    · exact absurd (Option.some.inj (from_.symm.trans stays)) same
    · obtain rfl := Option.some.inj (from_.symm.trans is)
      exact .inl moved

theorem liquidation_recorded {row : ActiveLoanRow} {rate : ℚ} {now : Time} {w t : World}
    (recorded : Recorded w) (active : HasStatus row.id .active w)
    (done : writeLiquidation row rate now w = .ok t) : Recorded t := by
  obtain ⟨loan, found, status⟩ := active
  obtain ⟨loans, moved, done⟩ := bind_ok.mp done
  obtain rfl := Except.ok.inj done
  obtain ⟨stored, present, rfl⟩ := updateRow_ok.mp moved
  obtain rfl := Option.some.inj (found.symm.trans present)
  have admitted : Admitted ⟨row.id, row.loan.userId, some .active, .liquidated, .system,
      .liquidationCompleted⟩ := by
    refine ⟨by simp, ?_⟩
    rintro _ ⟨⟩ _
    exact .inl (by simp [validTransitions])
  exact recorded.write found (congrArg some status.symm) admitted rfl rfl rfl
    (recorded.toSingle.of_eq (by simp) rfl)

theorem restoration_recorded {loanId : Nat} {loan : Loan} {w t : World} (recorded : Recorded w)
    (liquidated : HasStatus loanId .liquidated w)
    (done : writeRestoration loanId loan w = .ok t) : Recorded t := by
  obtain ⟨before, found, status⟩ := liquidated
  obtain ⟨loans, moved, done⟩ := bind_ok.mp done
  obtain rfl := Except.ok.inj done
  obtain ⟨stored, present, rfl⟩ := updateRow_ok.mp moved
  obtain rfl := Option.some.inj (found.symm.trans present)
  have admitted : Admitted ⟨loanId, loan.userId, some .liquidated, .active, .system,
      .liquidationReversedBadRate⟩ := by
    refine ⟨by simp, ?_⟩
    rintro _ ⟨⟩ _
    exact .inr ⟨rfl, rfl, rfl⟩
  exact recorded.write found (congrArg some status.symm) admitted rfl rfl rfl
    (recorded.toSingle.of_eq (by simp) rfl)

/-- The request keeps its loan when it expires. -/
theorem expiry_recorded {row : ExpiredLoanRow} {w t : World} (recorded : Recorded w)
    (waiting : HasStatus row.loanId .pendingCollateral w) (done : writeExpiry row w = .ok t) :
    Recorded t := by
  obtain ⟨before, found, status⟩ := waiting
  obtain ⟨loans, moved, done⟩ := bind_ok.mp done
  obtain ⟨requests, expired, done⟩ := bind_ok.mp done
  obtain rfl := Except.ok.inj done
  obtain ⟨stored, present, rfl⟩ := updateRow_ok.mp moved
  obtain rfl := Option.some.inj (found.symm.trans present)
  obtain ⟨request, here, rfl⟩ := updateRow_ok.mp expired
  have was (id : Nat) (after : PaymentRequest)
      (at_ : (w.paymentRequests.set row.paymentRequestId (expiredRequest request))[id]? = some after) :
      ∃ earlier, w.paymentRequests[id]? = some earlier ∧ after.sourceId = earlier.sourceId := by
    by_cases same : row.paymentRequestId = id
    · subst same
      obtain rfl := Option.some.inj ((getElem?_set_of_eq here).symm.trans at_)
      exact ⟨request, here, rfl⟩
    · exact ⟨after, (List.getElem?_set_ne same).symm.trans at_, rfl⟩
  have admitted : Admitted ⟨row.loanId, row.userId, some .pendingCollateral, .expired, .system,
      .invoiceExpired⟩ := by
    refine ⟨by simp, ?_⟩
    rintro _ ⟨⟩ _
    exact .inl (by simp [validTransitions])
  refine recorded.write found (congrArg some status.symm) admitted rfl rfl rfl ⟨?_, ?_⟩
  · intro a b first second hasA hasB same
    obtain ⟨first', hadA, sourceA⟩ := was a first hasA
    obtain ⟨second', hadB, sourceB⟩ := was b second hasB
    exact recorded.single a b first' second' hadA hadB (sourceA.symm.trans (same.trans sourceB))
  · intro id after at_
    obtain ⟨earlier, had, same⟩ := was id after at_
    rw [same, List.length_set]
    exact recorded.owned id earlier had

theorem read_keeps {f : Answer → World → Except AppError α} {w : World} {post : α → World → Prop}
    (read : ∀ i a, Recorded w → f i w = .ok a → post a w) : Keeps serial post (query f) w := by
  apply query_meets
  rintro t rfl recorded i _
  exact ⟨trivial, trivial, fun _ _ => trivial, fun a => read i a recorded⟩

theorem write_keeps {label : Access} {enabled : World → Bool} {w : World}
    {f : Answer → World → Except AppError (α × World)} {post : α → World → Prop}
    (writes : ∀ i a t, Recorded w → f i w = .ok (a, t) → Recorded t ∧ post a t) :
    Keeps serial post (commit label enabled f) w := by
  apply commit_meets
  rintro t rfl recorded _ i _
  refine ⟨trivial, fun _ => trivial, fun _ _ => trivial, fun a t _ done => ?_⟩
  obtain ⟨recorded', ends⟩ := writes i a t recorded done
  exact ⟨recorded', trivial, fun _ => ends, fun _ => trivial⟩

/-- A write that ends in what `next` makes of the state. -/
theorem writeUnit_keeps {label : Access} {enabled : World → Bool} {w : World}
    {next : Answer → World → Except AppError World}
    (writes : ∀ i t, Recorded w → next i w = .ok t → Recorded t) :
    Keeps serial (fun _ _ => True)
      (commit label enabled fun i w => (next i w).map ((), ·)) w := by
  refine write_keeps fun i _ t recorded done => ?_
  obtain ⟨_, wrote, -, rfl⟩ := map_pair_ok.mp done
  exact ⟨writes i _ recorded wrote, trivial⟩

/-- A write to none of the tables of the history. -/
theorem elsewhere_keeps {label : Access} {g : Answer → World → World} {w : World}
    {a : Answer → α} (loans : ∀ i, (g i w).loans = w.loans)
    (logs : ∀ i, (g i w).statusLogs = w.statusLogs)
    (requests : ∀ i, (g i w).paymentRequests = w.paymentRequests) :
    Keeps serial (fun _ _ => True) (commit label (fun _ => true) fun i w => .ok (a i, g i w)) w := by
  refine write_keeps fun i _ t recorded done => ?_
  obtain ⟨_, rfl⟩ := Prod.mk.inj (Except.ok.inj done)
  exact ⟨recorded.of_eq (loans i) (logs i) (requests i), trivial⟩

theorem cancelLoan_keeps (userId loanId : Nat) (w : World) :
    Keeps serial (fun _ _ => True) (cancelLoan userId loanId) w := by
  rw [Keeps, cancelLoan, Proc.meets_bind]
  apply read_keeps
  intro _ loan _ read
  have found : w.loans[loanId]? = some loan := by
    unfold findLoan at read
    split at read
    · rename_i stored found
      split at read
      · obtain rfl := Except.ok.inj read
        exact found
      · cases read
    · cases read
  exact writeUnit_keeps fun _ _ recorded done => transition_recorded recorded found rfl done

theorem activateLoan_keeps (loanId : Nat) (collateralReceivedAt : Time) (w : World) :
    Keeps serial (fun _ _ => True) (activateLoan loanId collateralReceivedAt) w := by
  rw [Keeps, activateLoan, Proc.meets_bind]
  apply read_keeps
  intro _ loan _ read
  have found : w.loans[loanId]? = some loan := by
    unfold findUniqueOrThrow at read
    split at read
    · obtain rfl := Except.ok.inj read
      assumption
    · cases read
  split
  · trivial
  rw [Proc.meets_bind]
  have activates : Keeps serial (fun _ _ => True)
      (commit (.loanStatus loanId loan.status .active) (loanFree loanId) fun _ w =>
        (writeActivation loanId loan collateralReceivedAt w).map ((), ·)) w := by
    refine writeUnit_keeps fun _ t recorded done => ?_
    obtain ⟨loans, received, done⟩ := bind_ok.mp done
    obtain ⟨stored, present, rfl⟩ := updateRow_ok.mp received
    obtain rfl := Option.some.inj (found.symm.trans present)
    refine transition_recorded ?_ (getElem?_set_of_eq found) rfl done
    exact recorded.set_row found rfl
  exact activates.imp (fun _ _ _ => read_keeps fun _ _ _ _ => trivial) fun _ _ h => h

theorem restoreFromBadLiquidation_keeps (loanId : Nat) (w : World) :
    Keeps serial (fun _ _ => True) (restoreFromBadLiquidation loanId) w := by
  rw [Keeps, restoreFromBadLiquidation, Proc.meets_bind]
  apply read_keeps
  intro _ loan _ read
  split
  · trivial
  rename_i liquidated
  split
  · trivial
  have found : w.loans[loanId]? = some loan := by
    split at read
    · cases read
    · obtain rfl := Except.ok.inj read
      assumption
  exact writeUnit_keeps fun _ _ recorded done =>
    restoration_recorded recorded ⟨loan, found, not_not.mp liquidated⟩ done

theorem creditBody_keeps (params : CreditParams) (w : World) :
    Keeps serial (fun _ _ => True) (creditBody 0 params) w := by
  rw [Keeps, creditBody, Proc.meets_bind]
  apply read_keeps
  intro i read _ result
  obtain ⟨rows, reads, rfl⟩ := map_ok.mp result
  rw [Proc.meets_bind]
  cases planned : planCredit params.amountNgn i.now rows.1 rows.2 with
  | error e => trivial
  | ok plan =>
    cases plan with
    | none => trivial
    | some credit =>
      simp only [Proc.ofExcept, Proc.meets_pure, Proc.meets_bind]
      have found := readLoan_found reads
      refine write_keeps fun j _ t recorded done => ⟨?_, trivial⟩
      obtain ⟨v, wrote, -, rfl⟩ := map_pair_ok.mp done
      obtain ⟨repayments, _, wrote⟩ := bind_ok.mp wrote
      obtain ⟨inflows, _, wrote⟩ := bind_ok.mp wrote
      obtain ⟨repaid, closed, wrote⟩ := bind_ok.mp wrote
      obtain ⟨row, present, status, recorded'⟩ : ∃ row, repaid[params.loanId]? = some row ∧
          rows.1.status = row.status ∧ Recorded { w with loans := repaid } := by
        unfold closeLoan at closed
        split at closed
        · obtain ⟨stored, present, rfl⟩ := updateRow_ok.mp closed
          obtain rfl := Option.some.inj (found.symm.trans present)
          exact ⟨_, getElem?_set_of_eq found, rfl, recorded.set_row found rfl⟩
        · obtain rfl := Except.ok.inj closed
          exact ⟨rows.1, found, rfl, recorded⟩
      have written : Recorded v := transition_recorded
        (w := { w with repayments := repayments, inflows := inflows, loans := repaid })
        (recorded'.of_eq rfl rfl rfl) present (congrArg some status) wrote
      exact written.of_eq rfl rfl rfl

theorem creditInflow_keeps (params : CreditParams) (w : World) :
    Keeps serial (fun _ _ => True) (creditInflow 0 params) w := by
  rw [Keeps, creditInflow, Proc.meets_bind]
  cases floorCheck params with
  | error e => trivial
  | ok =>
    simp only [Proc.ofExcept, Proc.meets_pure, Proc.meets_bind]
    apply lockingLoan_meets
    · rintro t rfl recorded _ i _
      exact ⟨trivial, trivial, trivial, fun _ _ =>
        ⟨recorded.of_eq rfl rfl rfl, trivial, creditBody_keeps params _⟩⟩
    · rintro u t rfl recorded i _
      refine ⟨fun done _ => ⟨recorded.of_eq rfl rfl rfl, trivial, ?_⟩,
        fun _ _ => ⟨recorded.of_eq rfl rfl rfl, trivial, trivial⟩⟩
      cases done.2 with
      | none => trivial
      | some receipt =>
        rw [Proc.meets_bind]
        exact read_keeps fun _ _ _ _ => trivial

/-- The stamp is logged from REPAID, the status that the call read under its lock. -/
theorem release_recorded {loanId userId : Nat} {reference : String} {now : Time} {w t : World}
    (recorded : Recorded w) (repaid : HasStatus loanId .repaid w)
    (done : writeRelease loanId userId reference now w = .ok t) : Recorded t := by
  obtain ⟨loan, there, status⟩ := repaid
  obtain ⟨loan, found, -, done⟩ := writeRelease_done done
  obtain rfl := Option.some.inj (there.symm.trans found)
  refine transition_recorded ?_ (getElem?_set_of_eq found) (congrArg some status.symm) done
  exact recorded.set_row found rfl

theorem sendToLightningAddress_keeps (loanId : Nat) (address : String) {w : World}
    (repaid : HasStatus loanId .repaid w) :
    (sendToLightningAddress loanId address).Meets serial (fun _ => HasStatus loanId .repaid)
      (fun _ _ => True) w := by
  rw [sendToLightningAddress, Proc.meets_access]
  rintro t rfl recorded _ i _
  cases i.fails with
  | true => exact ⟨recorded, trivial, trivial⟩
  | false =>
    refine ⟨recorded.of_eq rfl rfl rfl, trivial, ?_⟩
    cases i.lost with
    | true => trivial
    | false => exact repaid

theorem releaseLocked_keeps (loanId : Nat) (w : World) :
    Keeps serial (fun _ _ => True) (releaseLocked loanId) w := by
  have alert {t : World} {alerted : World → Nat → Bool} : Keeps serial (fun _ _ => True)
      (commit .redis (fun _ => true) fun _ w => .ok ((), { w with releaseAlerted := alerted w })) t :=
    elsewhere_keeps (fun _ => rfl) (fun _ => rfl) fun _ => rfl
  rw [Keeps, releaseLocked, Proc.meets_bind]
  apply read_keeps
  intro _ found _ read
  obtain rfl := Except.ok.inj read
  split
  · trivial
  rename_i address due
  have repaid : HasStatus loanId .repaid w := by
    cases present : w.loans[loanId]? with
    | none => rw [present] at due; cases due
    | some loan =>
      rw [present] at due
      simp only [eligible] at due
      split at due
      · cases due
      · rename_i status
        exact ⟨loan, present, not_not.mp status⟩
  rw [Proc.meets_bind, Proc.meets_attempt]
  apply (sendToLightningAddress_keeps loanId _ repaid).imp
  · intro reference t repaid
    rw [Proc.meets_catching, Proc.meets_bind]
    have stamps : Keeps serial (fun _ _ => True)
        (stampRelease loanId ((w.loans[loanId]?.map (·.userId)).getD 0) reference) t :=
      writeUnit_keeps fun _ _ recorded done => release_recorded recorded repaid done
    apply stamps.imp _ fun _ _ _ => trivial
    intro _ u _
    rw [Proc.meets_bind]
    apply alert.imp _ fun _ _ _ => trivial
    intro _ v _
    have notifies : Keeps serial (fun _ _ => True) (query fun _ _ => .ok ()) v :=
      read_keeps fun _ _ _ _ => trivial
    rw [Proc.meets_bind]
    exact notifies.imp (fun _ _ _ => trivial) fun _ _ _ => trivial
  · intro e t _
    rw [Proc.meets_bind]
    exact alert.imp (fun _ _ _ => trivial) fun _ _ _ => trivial

theorem releaseForLoan_keeps (loanId : Nat) (w : World) :
    Keeps serial (fun _ _ => True) (releaseForLoan 0 loanId) w := by
  rw [Keeps, releaseForLoan, Proc.meets_bind, acquireLock, Proc.meets_access]
  have unlocks {t : World} : Keeps serial (fun _ _ => True) (deleteLock 0 loanId) t := by
    rw [Keeps, deleteLock, Proc.meets_access]
    rintro u rfl recorded _ i _
    exact ⟨recorded.of_eq rfl rfl rfl, trivial, trivial⟩
  rintro t rfl recorded _ i _
  cases i.fails with
  | true => exact ⟨recorded, trivial, trivial⟩
  | false =>
    simp only [Bool.false_eq_true, if_false]
    cases w.releaseLock loanId with
    | true =>
      refine ⟨recorded, trivial, ?_⟩
      cases i.lost <;> trivial
    | false =>
      cases i.lost with
      | true => exact ⟨recorded.of_eq rfl rfl rfl, trivial, trivial⟩
      | false =>
        refine ⟨recorded.of_eq rfl rfl rfl, trivial, ?_⟩
        simp only [Bool.false_eq_true, if_false, Proc.outcome_ok, if_true, Proc.meets_finishing]
        exact (releaseLocked_keeps loanId _).imp (fun _ _ _ => unlocks) fun _ _ _ => unlocks

structure Unrequested (loanId : Nat) (w : World) : Prop where
  exists_ : loanId < w.loans.length
  none : ∀ (id : Nat) (request : PaymentRequest), w.paymentRequests[id]? = some request →
    request.sourceId ≠ loanId

theorem createLoan_keeps {user : User} {dto : CheckoutLoanDto} {accountId : Nat}
    {quote : CalculatorService.CalculatorResult} {w : World} :
    Keeps serial Unrequested (createLoan user dto accountId quote) w := by
  rw [Keeps, createLoan, Proc.meets_catching]
  refine Proc.Meets.imp (write_keeps fun i loanId t recorded done => ?_)
    (fun _ _ fresh => fresh) fun _ _ _ => trivial
  obtain ⟨rfl, _, rfl⟩ := writeLoan_ok done
  refine ⟨@Recorded.create w _ (createTransition user.id w.loans.length).log _ recorded rfl rfl rfl
    rfl rfl rfl rfl, by simp, fun id request found => ?_⟩
  exact Nat.ne_of_lt (recorded.owned id request found)

/-- The first request of a loan. -/
theorem Recorded.create_request {w : World} {row : PaymentRequest} (recorded : Recorded w)
    (fresh : Unrequested row.sourceId w) :
    Recorded { w with paymentRequests := w.paymentRequests ++ [row] } := by
  refine ⟨⟨fun a b first second hasA hasB same => ?_, fun id request found => ?_⟩,
    recorded.history, recorded.unwritten⟩
  · rcases row_of_concat hasA with oldA | ⟨atA, rfl⟩ <;>
      rcases row_of_concat hasB with oldB | ⟨atB, rfl⟩
    · exact recorded.single a b first second oldA oldB same
    · exact absurd same (fresh.none a first oldA)
    · exact absurd same.symm (fresh.none b second oldB)
    · exact atA.trans atB.symm
  · rcases row_of_concat found with old | ⟨_, rfl⟩
    · exact recorded.owned id request old
    · exact fresh.exists_

theorem createRequest_keeps {params : CreatePaymentRequestParams} {w : World}
    (fresh : Unrequested params.sourceId w) : Keeps serial (fun _ _ => True) (create params) w := by
  refine create_meets (fun _ _ _ => True) (fun _ _ => trivial) ?_ ?_ ?_ fresh
  · rintro s t rfl fresh
    exact fresh
  · intro invoice t fresh
    refine write_keeps fun i id u recorded done => ?_
    obtain ⟨_, rfl⟩ := Prod.mk.inj (Except.ok.inj done)
    exact ⟨recorded.create_request fresh, trivial⟩
  · exact fun _ _ _ _ => elsewhere_keeps (fun _ => rfl) (fun _ => rfl) fun _ => rfl

theorem checkoutLoan_keeps (user : User) (dto : CheckoutLoanDto) (w : World) :
    Keeps serial (fun _ _ => True) (checkoutLoan user dto) w :=
  checkoutLoan_meets (fun _ _ => trivial) (fun _ _ => trivial) (fun _ _ _ => createLoan_keeps)
    fun _ _ _ fresh => createRequest_keeps fresh

def StillWaiting (rows : List ExpiredLoanRow) (past : List ExpiredLoanRow) (w : World) : Prop :=
  ∀ row ∈ rows, (∀ other ∈ past, other.loanId ≠ row.loanId) →
    HasStatus row.loanId .pendingCollateral w

theorem mem_expiredLoans {now : Time} {w : World} {row : ExpiredLoanRow}
    (member : row ∈ expiredLoans now w) : HasStatus row.loanId .pendingCollateral w := by
  obtain ⟨loanId, _, inner⟩ := List.mem_flatMap.mp member
  obtain ⟨requestId, _, chosen⟩ := List.mem_filterMap.mp inner
  split at chosen
  · rename_i loan request found _
    split at chosen
    · rename_i joined
      obtain rfl := Option.some.inj chosen
      exact ⟨loan, found, joined.2.2.2.1⟩
    · cases chosen
  · cases chosen

/-- A loan has one request at most, so the join has it once. -/
theorem expiredLoans_apart {now : Time} {w : World} (single : Single w) :
    (expiredLoans now w).Pairwise fun first second => first.loanId ≠ second.loanId := by
  refine List.pairwise_flatMap.mpr ⟨fun loanId _ => ?_, ?_⟩
  · refine List.pairwise_filterMap.mpr (List.nodup_range.imp @fun a b different first one second other => ?_)
    have source : ∃ request, w.paymentRequests[a]? = some request ∧ request.sourceId = loanId := by
      grind
    have source' : ∃ request, w.paymentRequests[b]? = some request ∧ request.sourceId = loanId := by
      grind
    obtain ⟨request, present, same⟩ := source
    obtain ⟨request', present', same'⟩ := source'
    exact absurd (single.single a b request request' present present' (same.trans same'.symm)) different
  · refine List.nodup_range.imp @fun a b different first one second other => ?_
    obtain ⟨_, _, chosen⟩ := List.mem_filterMap.mp one
    obtain ⟨_, _, chosen'⟩ := List.mem_filterMap.mp other
    have named : first.loanId = a := by grind
    have named' : second.loanId = b := by grind
    rw [named, named']
    exact different

/-- One turn: the row is written, or nothing is. -/
theorem expireLoan_turn {rows past : List ExpiredLoanRow} {row : ExpiredLoanRow} {w : World}
    (here : StillWaiting rows past w) (member : row ∈ rows)
    (apart : ∀ other ∈ past, other.loanId ≠ row.loanId) :
    ((expireLoan row).catching fun _ => .pure ()).Meets serial
      (fun _ => StillWaiting rows (past ++ [row])) (fun _ _ => True) w := by
  have later {t : World} (waiting : StillWaiting rows past t) : StillWaiting rows (past ++ [row]) t :=
    fun other inside unturned => waiting other inside fun p old =>
      unturned p (List.mem_append_left _ old)
  rw [Proc.meets_catching, expireLoan, Proc.meets_bind]
  apply commit_meets
  rintro t rfl recorded _ i _
  refine ⟨trivial, fun _ => later here, fun _ _ => later here, fun _ t _ done => ?_⟩
  obtain ⟨v, wrote, -, rfl⟩ := map_pair_ok.mp done
  have recorded' := expiry_recorded recorded (here row member apart) wrote
  have others : StillWaiting rows (past ++ [row]) v := by
    intro other inside unturned
    have different : row.loanId ≠ other.loanId := unturned row (by simp)
    obtain ⟨loan, found, status⟩ := later here other inside unturned
    exact ⟨loan, ((expiry_written wrote).other different).trans found, status⟩
  refine ⟨recorded', trivial, fun _ => ?_, fun _ => others⟩
  apply commit_meets
  rintro u rfl recorded _ j _
  refine ⟨trivial, fun _ => others, fun _ _ => others, fun _ v _ done => ?_⟩
  obtain ⟨_, rfl⟩ := Prod.mk.inj (Except.ok.inj done)
  exact ⟨recorded.of_eq rfl rfl rfl, trivial, fun _ => others, fun _ => others⟩

theorem runExpiryCycle_keeps (rows : RowOrder ExpiredLoanRow) (w : World) :
    Keeps serial (fun _ _ => True) (runExpiryCycle rows.order) w := by
  rw [Keeps, runExpiryCycle, Proc.meets_bind]
  apply read_keeps
  intro i read recorded done
  obtain rfl := Except.ok.inj done
  have apart : (rows.order (expiredLoans i.now w)).Pairwise
      fun first second => first.loanId ≠ second.loanId :=
    ((rows.perm _).pairwise_iff fun different => different.symm).mpr
      (expiredLoans_apart recorded.toSingle)
  have start : StillWaiting (rows.order (expiredLoans i.now w)) [] w := fun row member _ =>
    mem_expiredLoans ((rows.perm _).mem_iff.mp member)
  apply (Proc.meets_each_prefix start _).imp (fun _ _ _ => trivial) fun _ _ h => h
  intro past row rest split t here
  have whole : rows.order (expiredLoans i.now w) = past ++ row :: rest := split
  rw [whole] at apart
  refine expireLoan_turn here (by simp [whole]) fun other old => ?_
  exact (List.pairwise_append.mp apart).2.2 other old row (List.mem_cons_self ..)

def StillActive (rows : List ActiveLoanRow) (past : List ActiveLoanRow) (w : World) : Prop :=
  ∀ row ∈ rows, (∀ other ∈ past, other.id ≠ row.id) → HasStatus row.id .active w

theorem seizeCollateral_turn {rows past : List ActiveLoanRow} {row : ActiveLoanRow} {rate : ℚ}
    {w : World} (here : StillActive rows past w) (member : row ∈ rows)
    (apart : ∀ other ∈ past, other.id ≠ row.id) : (seizeCollateral 0 row rate).Meets serial
      (fun _ => StillActive rows (past ++ [row])) (fun _ _ => True) w := by
  have later {t : World} (active : StillActive rows past t) : StillActive rows (past ++ [row]) t :=
    fun other inside unturned => active other inside fun p old =>
      unturned p (List.mem_append_left _ old)
  rw [seizeCollateral, Proc.meets_catching, Proc.meets_bind]
  apply commit_meets
  rintro t rfl recorded _ i _
  refine ⟨trivial, fun _ => later here, fun _ _ => later here, fun _ t _ done => ?_⟩
  obtain ⟨v, wrote, -, rfl⟩ := map_pair_ok.mp done
  have recorded' := liquidation_recorded recorded (here row member apart) wrote
  have others : StillActive rows (past ++ [row]) v := by
    intro other inside unturned
    have different : row.id ≠ other.id := unturned row (by simp)
    obtain ⟨loan, found, status⟩ := later here other inside unturned
    exact ⟨loan, ((liquidation_written wrote).other different).trans found, status⟩
  refine ⟨recorded'.of_eq rfl rfl rfl, trivial, fun _ => ?_, fun _ => others⟩
  rw [Proc.meets_catching, swapBtcToUsd, Proc.meets_access]
  rintro u rfl recorded _ j _
  refine ⟨recorded.of_eq rfl rfl rfl, trivial, ?_⟩
  cases j.fails || j.lost <;> exact others

theorem runLiquidationCycle_keeps (sellOf : String → Option Decimal) (sendEmail : Bool)
    (rows : RowOrder ActiveLoanRow) (w : World) :
    Keeps serial (fun _ _ => True) (runLiquidationCycle 0 sellOf sendEmail rows.order) w := by
  apply runLiquidationCycle_turns (fun _ => True) fun candidates past t =>
    (candidates.Pairwise fun first second => first.id ≠ second.id) ∧ StillActive candidates past t
  · exact fun _ _ _ _ => trivial
  · exact fun _ _ _ h => h
  · rintro _ _ s t rfl known
    exact known
  · intro t _ _
    refine ⟨?_, fun row member _ => ?_⟩
    · have nodup : (rows.order (activeLoans t)).Nodup := (rows.perm _).nodup_iff.mpr (activeLoans_nodup t)
      refine nodup.imp_of_mem fun first second different same => ?_
      exact different (eq_of_id ((rows.perm _).mem_iff.mp first) ((rows.perm _).mem_iff.mp second) same)
    · obtain ⟨found, status, _⟩ := mem_activeLoans.mp ((rows.perm _).mem_iff.mp member)
      exact ⟨row.loan, found, status⟩
  · rintro candidates past row t ⟨apart, here⟩
    exact ⟨apart, fun other inside unturned => here other inside fun p old =>
      unturned p (List.mem_append_left _ old)⟩
  · rintro candidates past row rest rfl rate t ⟨apart, here⟩
    refine (seizeCollateral_turn here (by simp) fun other old => ?_).imp (fun _ _ known => ⟨apart, known⟩)
      fun _ _ h => h
    exact (List.pairwise_append.mp apart).2.2 other old row (List.mem_cons_self ..)
  · trivial

theorem procedure_keeps (op : Operation) (w : World) :
    Keeps serial (fun _ _ => True) (procedure op) w := by
  have ends {α : Type} {p : Action α} (keeps : Keeps serial (fun _ _ => True) p w) :
      Keeps serial (fun _ _ => True) (p.bind fun _ => .pure ()) w := by
    rw [Keeps, Proc.meets_bind]
    exact keeps.imp (fun _ _ _ => trivial) fun _ _ h => h
  cases op with
  | checkoutLoan user dto => exact ends (checkoutLoan_keeps user dto w)
  | activateLoan loanId collateralReceivedAt => exact activateLoan_keeps loanId collateralReceivedAt w
  | cancelLoan userId loanId => exact cancelLoan_keeps userId loanId w
  | runExpiryCycle rows => exact runExpiryCycle_keeps rows w
  | runLiquidationCycle sellOf sendEmail rows =>
    exact runLiquidationCycle_keeps sellOf sendEmail rows w
  | restoreFromBadLiquidation loanId => exact restoreFromBadLiquidation_keeps loanId w
  | creditInflow params => exact ends (creditInflow_keeps params w)
  | releaseForLoan loanId => exact ends (releaseForLoan_keeps loanId w)

structure Empty (w : World) : Prop where
  loans : w.loans = []
  logs : w.statusLogs = []
  requests : w.paymentRequests = []

theorem Empty.recorded {w : World} (empty : Empty w) : Recorded w := by
  obtain ⟨loans, logs, requests⟩ := empty
  refine ⟨⟨?_, ?_⟩, ?_, ?_⟩ <;> simp [loans, logs, requests, logsOf]

/-- The status log is a faithful history of every loan, in every run of calls that each end
or are cut short before the next one starts. -/
theorem log_faithful {w₀ w : World} (empty : Empty w₀)
    (run : StoppedRuns procedure rollback w₀ w) {loanId : Nat} {loan : Loan}
    (found : w.loans[loanId]? = some loan) : Faithful (logsOf loanId w) loan.status := by
  have recovers (t : World) (recorded : Recorded t) : Recorded (rollback t) :=
    recorded.of_eq rfl rfl rfl
  have recorded : Recorded w := run.holds (c := serial) (fun _ => rfl) (fun _ _ _ => trivial)
    empty.recorded recovers fun op t _ => procedure_keeps op t
  exact recorded.history loanId loan found

def sampleWorld : World where
  disbursementAccounts := [bankAccount]
  inflows := [⟨some 0, 200000, .ngn, "va", "order", false, none, none, none, none, false, 0⟩]

/-- An activation is cut short after its read and made again; the loan is repaid in full and
its collateral released. -/
def sampleCalls : List (Operation × List Answer × Bool) :=
  [(.checkoutLoan { id := 0 } { principalNgn := 100000, collateralReleaseAddress := some "me@ln" },
      checkoutAnswers, false),
    (.activateLoan 0 5, [{}], true),
    (.activateLoan 0 5, List.replicate 3 {}, false),
    (.creditInflow ⟨0, 0, 200000, .autoAmount, false⟩, List.replicate 5 { now := 6 }, false),
    (.releaseForLoan 0, List.replicate 7 {}, false)]

theorem log_faithful_sample : ∃ w loan, StoppedRuns procedure rollback sampleWorld w ∧
    w.loans[0]? = some loan ∧ loan.status = .repaid ∧ (logsOf 0 w).length = 4 ∧
    Faithful (logsOf 0 w) loan.status := by
  have played : (playStopped procedure rollback sampleCalls sampleWorld).any (fun w =>
      decide ((w.loans[0]?).map (·.status) = some .repaid ∧ (logsOf 0 w).length = 4)) = true := by
    decide +kernel
  obtain ⟨w, ran, checked⟩ := (Option.any_eq_true _ _).mp played
  obtain ⟨status, entries⟩ := of_decide_eq_true checked
  obtain ⟨loan, found, repaid⟩ := Option.map_eq_some_iff.mp status
  have run := playStopped_runs .nil ran
  exact ⟨w, loan, run, found, repaid, entries, log_faithful ⟨rfl, rfl, rfl⟩ run found⟩

end Bitmonie.StatusHistory
