import Bitmonie.StatusHistory
import Bitmonie.Activity

/-! The end of a loan in the activity feed: which entries of the status log are shown as
one, and how many of them a loan has. -/
namespace Bitmonie.TerminalOutcomes
open LoanStatusService LoansService LoanExpiryWorker LiquidationMonitor OpsLoansService
  PaymentRequestsService
open CollateralRelease (releaseLocked releaseForLoan sendToLightningAddress acquireLock deleteLock
  writeRelease_done eligible)
open StatusHistory (procedure rollback logsOf Faithful Admitted Empty)
open ActivityService (ActivityType reasonToType)

/-- What the end of a loan is shown as. -/
def outcomeType : LoanStatus → Option ActivityType
  | .repaid => some .loanRepaid
  | .cancelled => some .loanCancelled
  | .expired => some .loanExpired
  | .liquidated => some .loanLiquidated
  | .pendingCollateral | .active => none

def shownAs (type : ActivityType) (log : LoanStatusLog) : Bool :=
  reasonToType log.reasonCode == some type

def enters (status : LoanStatus) (log : LoanStatusLog) : Bool :=
  log.toStatus == status && log.fromStatus != some status

/-- An entry is shown as the end of a loan when it is one, but for a liquidation. -/
def Tagged (log : LoanStatusLog) : Prop :=
  ∀ status type, outcomeType status = some type →
    shownAs type log = (status != .liquidated && enters status log)

theorem tagged_iff {log : LoanStatusLog} : Tagged log ↔
    shownAs .loanRepaid log = enters .repaid log ∧
      shownAs .loanCancelled log = enters .cancelled log ∧
      shownAs .loanExpired log = enters .expired log ∧ shownAs .loanLiquidated log = false := by
  constructor
  · intro tagged
    exact ⟨tagged .repaid .loanRepaid rfl, tagged .cancelled .loanCancelled rfl,
      tagged .expired .loanExpired rfl, tagged .liquidated .loanLiquidated rfl⟩
  · rintro ⟨repaid, cancelled, expired, liquidated⟩ status type ends
    cases status <;> simp only [outcomeType, Option.some.injEq, reduceCtorEq] at ends <;> subst ends
    · exact repaid
    · exact liquidated
    · exact expired
    · exact cancelled

def tagging : Contract World Answer Access where
  inv w := ∀ log ∈ w.statusLogs, Tagged log
  allowed _ _ _ := True
  rely _ _ := True
  guar _ _ _ _ := True

def Adds (w t : World) : Prop := ∃ log, Tagged log ∧ t.statusLogs = w.statusLogs ++ [log]

section Operations

variable {α : Type} {loanId userId : Nat} {w t : World}

theorem leaves_tags {p : Action α} (leaves : p.Leaves World.statusLogs) : p.Complies tagging :=
  leaves.complies fun _ _ _ _ same tagged => ⟨fun log member => tagged log (same ▸ member), trivial⟩

theorem query_tags {label : Access} {f : Answer → World → Except AppError α} :
    (queryAs label f).Complies tagging :=
  leaves_tags query_leaves

theorem commit_tags {label : Access} {enabled : World → Bool}
    {f : Answer → World → Except AppError (α × World)}
    (adds : ∀ i w a t, f i w = .ok (a, t) → Adds w t) :
    (commit label enabled f).Complies tagging := by
  intro s
  apply commit_meets
  intro w _ tagged _ i _
  refine ⟨trivial, fun _ => trivial, fun _ _ => trivial, fun a t _ done => ?_⟩
  refine ⟨fun log member => ?_, trivial, fun _ => trivial, fun _ => trivial⟩
  obtain ⟨added, tag, logs⟩ := adds i w a t done
  rw [logs, List.mem_append] at member
  rcases member with old | new
  · exact tagged log old
  · exact List.mem_singleton.1 new ▸ tag

/-- A write that ends in what `next` makes of the state. -/
theorem write_tags {label : Access} {enabled : World → Bool}
    {next : Answer → World → Except AppError World}
    (adds : ∀ i w t, next i w = .ok t → Adds w t) :
    (commit label enabled fun i w => (next i w).map ((), ·)).Complies tagging := by
  refine commit_tags fun i w _ t done => ?_
  obtain ⟨_, wrote, -, rfl⟩ := map_pair_ok.mp done
  exact adds i w _ wrote

theorem transition_adds {params : TransitionParams} {u : World}
    (done : transition params u = .ok t) (logs : u.statusLogs = w.statusLogs)
    (tag : Tagged params.log) : Adds w t := by
  obtain ⟨loans, -, rfl⟩ := transition_ok done
  exact ⟨params.log, tag, by rw [logs]⟩

theorem cancelLoan_tags : (cancelLoan userId loanId).Complies tagging := by
  refine query_tags.bind fun loan => write_tags fun _ w t done => ?_
  obtain ⟨-, valid⟩ := cancel_written done
  have pending : loan.status = .pendingCollateral := by
    cases status : loan.status <;> simp [status, validTransitions] at valid
    rfl
  refine transition_adds done rfl (tagged_iff.2 ?_)
  rw [TransitionParams.log, cancelTransition, pending]
  exact ⟨rfl, rfl, rfl, rfl⟩

theorem activateLoan_tags {collateralReceivedAt : Time} :
    (activateLoan loanId collateralReceivedAt).Complies tagging := by
  refine query_tags.bind fun loan => ?_
  split
  · exact fun _ => trivial
  · rename_i waits
    refine (write_tags fun _ w t done => ?_).bind fun _ => query_tags
    obtain ⟨loans, -, moved⟩ := bind_ok.mp done
    exact transition_adds moved rfl (tagged_iff.2 ⟨rfl, rfl, rfl, rfl⟩)

theorem expireLoan_tags {row : ExpiredLoanRow} : (expireLoan row).Complies tagging := by
  refine (write_tags fun _ w t done => ?_).bind fun _ => leaves_tags <|
    commit_leaves fun _ _ _ _ done => by cases done; rfl
  obtain ⟨loans, -, done⟩ := bind_ok.mp done
  obtain ⟨requests, -, done⟩ := bind_ok.mp done
  obtain rfl := Except.ok.inj done
  exact ⟨_, tagged_iff.2 ⟨rfl, rfl, rfl, rfl⟩, rfl⟩

theorem runExpiryCycle_tags {order : List ExpiredLoanRow → List ExpiredLoanRow} :
    (runExpiryCycle order).Complies tagging :=
  query_tags.bind fun _ => Proc.complies_each fun _ =>
    expireLoan_tags.catching fun _ _ => trivial

theorem seizeCollateral_tags {tid : Nat} {row : ActiveLoanRow} {rate : ℚ} :
    (seizeCollateral tid row rate).Complies tagging := by
  have swaps : (swapBtcToUsd row.id).Leaves World.statusLogs := Proc.leaves_access fun _ _ => rfl
  refine Proc.Complies.catching (Proc.Complies.bind (commit_tags fun i w _ t done => ?_)
    fun _ => Proc.Complies.catching (leaves_tags swaps) fun _ _ => trivial) fun _ _ => trivial
  obtain ⟨v, wrote, -, rfl⟩ := map_pair_ok.mp done
  obtain ⟨loans, -, wrote⟩ := bind_ok.mp wrote
  obtain rfl := Except.ok.inj wrote
  exact ⟨_, tagged_iff.2 ⟨rfl, rfl, rfl, rfl⟩, rfl⟩

theorem runLiquidationCycle_tags {tid : Nat} {sellOf : String → Option Decimal}
    {sendEmail : Bool} {order : List ActiveLoanRow → List ActiveLoanRow} :
    (runLiquidationCycle tid sellOf sendEmail order).Complies tagging := by
  intro s
  apply runLiquidationCycle_meets (fun _ => True) (fun _ _ => True)
  · exact fun _ _ _ _ => trivial
  · exact fun _ _ _ h => h
  · exact fun _ _ _ _ h => h
  · exact fun _ _ h => h
  · exact fun _ row _ rate t _ => seizeCollateral_tags t
  · trivial

theorem restoreFromBadLiquidation_tags : (restoreFromBadLiquidation loanId).Complies tagging := by
  refine query_tags.bind fun loan => ?_
  split
  · exact Proc.complies_throw
  split
  · exact Proc.complies_throw
  refine write_tags fun _ w t done => ?_
  obtain ⟨loans, -, done⟩ := bind_ok.mp done
  obtain rfl := Except.ok.inj done
  exact ⟨_, tagged_iff.2 ⟨rfl, rfl, rfl, rfl⟩, rfl⟩

theorem creditBody_tags {tid : Nat} {params : CreditParams} :
    (creditBody tid params).Complies tagging := by
  refine query_tags.bind fun read => ?_
  cases planned : planCredit params.amountNgn read.2 read.1.1 read.1.2 with
  | error e => exact fun _ => trivial
  | ok plan =>
    cases plan with
    | none => exact fun _ => trivial
    | some credit =>
      refine (commit_tags fun i w _ t done => ?_).bind fun _ _ => trivial
      obtain ⟨v, wrote, -, rfl⟩ := map_pair_ok.mp done
      have active := (planCredit_ok planned).1
      obtain ⟨_, _, _, _, rfl⟩ := (writeCredit_ok active wrote).eq
      refine ⟨_, tagged_iff.2 ?_, rfl⟩
      rw [TransitionParams.log, creditTransition, active]
      cases credit.isFullyRepaid <;> exact ⟨rfl, rfl, rfl, rfl⟩

theorem creditInflow_tags {tid : Nat} {params : CreditParams} :
    (creditInflow tid params).Complies tagging := by
  have floors : (Proc.ofExcept (floorCheck params) : Action Unit).Complies tagging := by
    cases floorCheck params <;> exact fun _ => trivial
  have locks : (lockingLoan tid params.loanId (creditBody tid params)).Complies tagging := by
    refine (leaves_tags (Proc.leaves_access fun i w => ?_)).bind fun _ =>
      creditBody_tags.finishing (leaves_tags (Proc.leaves_access fun _ _ => rfl))
    split
    · rfl
    · split <;> rfl
  refine floors.bind fun _ => locks.bind fun done => ?_
  cases done.2 with
  | none => exact fun _ => trivial
  | some _ => exact query_tags.bind fun _ _ => trivial

theorem releaseLocked_tags : (releaseLocked loanId).Complies tagging := by
  have alerts (alerted : World → Nat → Bool) : (commit .redis (fun _ => true) fun _ w =>
      .ok ((), { w with releaseAlerted := alerted w })).Complies tagging :=
    leaves_tags (commit_leaves fun _ _ _ _ done => by cases done; rfl)
  refine query_tags.bind fun found => ?_
  cases eligible found with
  | error _ => exact fun _ => trivial
  | ok address =>
    have sends : (sendToLightningAddress loanId address).Complies tagging := by
      refine leaves_tags (Proc.leaves_access fun i w => ?_)
      split <;> rfl
    refine sends.attempt.bind fun sent => ?_
    cases sent with
    | error _ => exact (alerts _).bind fun _ _ => trivial
    | ok reference =>
      refine Proc.Complies.catching ?_ fun _ _ => trivial
      refine (write_tags fun i w t done => ?_).bind fun _ => (alerts _).bind fun _ =>
        query_tags.bind fun _ _ => trivial
      obtain ⟨loan, -, -, done⟩ := writeRelease_done done
      exact transition_adds done rfl (tagged_iff.2 ⟨rfl, rfl, rfl, rfl⟩)

theorem releaseForLoan_tags {tid : Nat} : (releaseForLoan tid loanId).Complies tagging := by
  have acquires : (acquireLock tid loanId).Complies tagging := by
    refine leaves_tags (Proc.leaves_access fun i w => ?_)
    split
    · rfl
    split
    · rfl
    · dsimp only
      split <;> rfl
  have deletes : (deleteLock tid loanId).Complies tagging :=
    leaves_tags (Proc.leaves_access fun _ _ => rfl)
  refine acquires.bind fun acquired => ?_
  cases acquired with
  | false => exact fun _ => trivial
  | true => exact releaseLocked_tags.finishing deletes

theorem createLoan_tags {user : User} {dto : CheckoutLoanDto} {accountId : Nat}
    {quote : CalculatorService.CalculatorResult} :
    (createLoan user dto accountId quote).Complies tagging := by
  refine (commit_tags fun i w _ t done => ?_).catching fun _ _ => trivial
  obtain ⟨-, -, rfl⟩ := writeLoan_ok done
  exact ⟨_, tagged_iff.2 ⟨rfl, rfl, rfl, rfl⟩, rfl⟩

theorem create_tags {params : CreatePaymentRequestParams} : (create params).Complies tagging := by
  refine query_tags.bind fun invoice => ?_
  refine Proc.Complies.bind (leaves_tags (commit_leaves fun _ _ _ _ done => ?_)) fun id => ?_
  · cases done
    rfl
  refine Proc.Complies.bind (leaves_tags (commit_leaves fun _ _ _ _ done => ?_)) fun _ _ => trivial
  cases done
  rfl

theorem checkoutLoan_tags {user : User} {dto : CheckoutLoanDto} :
    (checkoutLoan user dto).Complies tagging := by
  intro s
  let opened (_ : CalculatorService.CalculatorResult) (_ : Nat) (_ : World) : Prop := True
  have creates (accountId : Nat) (quote : CalculatorService.CalculatorResult) (t : World) :
      (createLoan user dto accountId quote).Meets tagging (opened quote) (fun _ _ => True) t :=
    createLoan_tags t
  exact checkoutLoan_meets (fun _ _ => trivial) (fun _ _ => trivial) creates
    fun _ _ t _ => create_tags t

theorem procedure_tags (op : StatusHistory.Operation) : (procedure op).Complies tagging := by
  cases op with
  | checkoutLoan user dto => exact checkoutLoan_tags.bind fun _ _ => trivial
  | activateLoan loanId collateralReceivedAt => exact activateLoan_tags
  | cancelLoan userId loanId => exact cancelLoan_tags
  | runExpiryCycle rows => exact runExpiryCycle_tags
  | runLiquidationCycle sellOf sendEmail rows => exact runLiquidationCycle_tags
  | restoreFromBadLiquidation loanId => exact restoreFromBadLiquidation_tags
  | creditInflow params => exact creditInflow_tags.bind fun _ _ => trivial
  | releaseForLoan loanId => exact releaseForLoan_tags.bind fun _ _ => trivial

end Operations

/-- No admitted entry leads out of a terminal status that is never reversed. -/
theorem stays_terminal {final : LoanStatus} {log : LoanStatusLog} (terminal : Terminal final)
    (lasting : final ≠ .liquidated) (admitted : Admitted log)
    (from_ : log.fromStatus = some final) : log.toStatus = final := by
  by_contra moved
  rcases admitted.moves final from_ (Ne.symm moved) with valid | ⟨reversed, -⟩
  · rw [terminal] at valid
    cases valid
  · exact lasting reversed

/-- Along a linked history a status that is not left is entered once, or not at all. -/
theorem count_enters {final : LoanStatus} {logs : List LoanStatusLog} (terminal : Terminal final)
    (lasting : final ≠ .liquidated)
    (linked : logs.IsChain fun before after => after.fromStatus = some before.toStatus)
    (admitted : ∀ log ∈ logs, Admitted log)
    (first : ∀ log, logs.head? = some log → log.toStatus ≠ final) :
    logs.countP (enters final) =
      if logs.getLast?.map (·.toStatus) = some final then 1 else 0 := by
  induction logs using List.reverseRecOn with
  | nil => simp
  | append_singleton earlier log ih =>
    obtain ⟨linkedEarlier, -, joint⟩ := List.isChain_append.1 linked
    rw [List.countP_append, List.countP_singleton, List.getLast?_concat, Option.map_some]
    cases last : earlier.getLast? with
    | none =>
      obtain rfl := List.getLast?_eq_none_iff.1 last
      have different := first log rfl
      simp [enters, different]
    | some before =>
      have from_ : log.fromStatus = some before.toStatus := joint before last log rfl
      have entered := ih linkedEarlier (fun other member => admitted other (by simp [member]))
        (fun other head => first other (by rw [List.head?_append, head]; rfl))
      rw [last, Option.map_some] at entered
      rw [entered]
      by_cases ended : before.toStatus = final
      · have stayed : log.toStatus = final :=
          stays_terminal terminal lasting (admitted log (by simp)) (ended ▸ from_)
        simp [enters, from_, ended, stayed]
      · simp [enters, from_, ended]

theorem Faithful.count_enters {logs : List LoanStatusLog} {status final : LoanStatus}
    (faithful : Faithful logs status) (terminal : Terminal final) (lasting : final ≠ .liquidated) :
    logs.countP (enters final) = if status = final then 1 else 0 := by
  obtain ⟨log, rest, split, -, created⟩ := faithful.first
  rw [TerminalOutcomes.count_enters terminal lasting faithful.linked faithful.admitted, faithful.last]
  · simp
  · rintro other head rfl
    rw [split, List.head?_cons] at head
    obtain rfl := Option.some.inj head
    rw [created] at terminal
    cases terminal

/-- The entries of a faithful and tagged history that are shown as the end of the loan. -/
theorem count_shown {logs : List LoanStatusLog} {status : LoanStatus} {type : ActivityType}
    (faithful : Faithful logs status) (tagged : ∀ log ∈ logs, Tagged log)
    (ends : outcomeType status = some type) :
    logs.countP (shownAs type) = if status = .liquidated then 0 else 1 := by
  by_cases seized : status = .liquidated
  · rw [if_pos seized, List.countP_eq_zero]
    intro log member shown
    rw [tagged log member status type ends, seized] at shown
    cases shown
  · have terminal : Terminal status := by
      cases status <;> simp [outcomeType, Terminal, validTransitions] at ends ⊢
    rw [if_neg seized, List.countP_congr (p := shownAs type) (q := enters status),
      Faithful.count_enters faithful terminal seized, if_pos rfl]
    intro log member
    rw [tagged log member status type ends]
    simp [seized]

/-- In every run of calls that each end or are cut short before the next one starts, a loan
that ended has one entry that is shown as its end, unless it was liquidated. -/
theorem outcome_shown_once {w₀ w : World} (empty : Empty w₀)
    (run : StoppedRuns procedure rollback w₀ w) {loanId : Nat} {loan : Loan} {type : ActivityType}
    (found : w.loans[loanId]? = some loan) (ends : outcomeType loan.status = some type) :
    (logsOf loanId w).countP (shownAs type) = 1 ↔ loan.status ≠ .liquidated := by
  have recovers (t : World) (recorded : StatusHistory.Recorded t) :
      StatusHistory.Recorded (rollback t) := recorded.of_eq rfl rfl rfl
  have recorded : StatusHistory.Recorded w := run.holds (c := StatusHistory.serial) (fun _ => rfl)
    (fun _ _ _ => trivial) empty.recorded recovers fun op t _ => StatusHistory.procedure_keeps op t
  have none_yet : tagging.inv w₀ := fun log member => by simp [empty.logs] at member
  have recovers (t : World) (tagged : tagging.inv t) : tagging.inv (rollback t) := tagged
  have tagged : tagging.inv w := run.holds (c := tagging) (fun _ => trivial)
    (fun _ _ _ => trivial) none_yet recovers fun op t _ => procedure_tags op t
  have counted := count_shown (recorded.history loanId loan found)
    (fun log member => tagged log (List.mem_of_mem_filter member)) ends
  rw [counted]
  by_cases seized : loan.status = .liquidated <;> simp [seized]

/-- A loan that is repaid in full and its collateral released. -/
theorem outcome_shown_once_sample : ∃ w loan,
    StoppedRuns procedure rollback StatusHistory.sampleWorld w ∧ w.loans[0]? = some loan ∧
      loan.status = .repaid ∧ (logsOf 0 w).countP (shownAs .loanRepaid) = 1 := by
  have played : (playStopped procedure rollback StatusHistory.sampleCalls
      StatusHistory.sampleWorld).any (fun w =>
        decide ((w.loans[0]?).map (·.status) = some .repaid)) = true := by
    decide +kernel
  obtain ⟨w, ran, checked⟩ := (Option.any_eq_true _ _).mp played
  obtain ⟨loan, found, repaid⟩ := Option.map_eq_some_iff.mp (of_decide_eq_true checked)
  have run := playStopped_runs .nil ran
  refine ⟨w, loan, run, found, repaid, ?_⟩
  exact (outcome_shown_once ⟨rfl, rfl, rfl⟩ run found (by rw [repaid]; rfl)).2 (by simp [repaid])

def monitorAnswers : List Answer :=
  [{}, { price := some "0.35" }, {}, { now := 6 }, { now := 7 }, {}, {}]

def liquidationCalls : List (StatusHistory.Operation × List Answer × Bool) :=
  StatusHistory.sampleCalls.take 3 ++
    [(.runLiquidationCycle (fun _ => some (.finite (7 / 20))) false ⟨id, fun _ => .refl _⟩,
      monitorAnswers, false)]

/-- The monitor logs a liquidation under a reason that is not shown. -/
theorem liquidation_not_shown : ∃ w loan,
    StoppedRuns procedure rollback StatusHistory.sampleWorld w ∧ w.loans[0]? = some loan ∧
      outcomeType loan.status = some .loanLiquidated ∧
      (logsOf 0 w).countP (shownAs .loanLiquidated) = 0 := by
  have played : (playStopped procedure rollback liquidationCalls
      StatusHistory.sampleWorld).any (fun w =>
        decide ((w.loans[0]?).map (·.status) = some .liquidated ∧
          (logsOf 0 w).countP (shownAs .loanLiquidated) = 0)) = true := by
    decide +kernel
  obtain ⟨w, ran, checked⟩ := (Option.any_eq_true _ _).mp played
  obtain ⟨status, unseen⟩ := of_decide_eq_true checked
  obtain ⟨loan, found, seized⟩ := Option.map_eq_some_iff.mp status
  exact ⟨w, loan, playStopped_runs .nil ran, found, by rw [seized]; rfl, unseen⟩

end Bitmonie.TerminalOutcomes
