import Bitmonie.LiquidationDecision

/-! Which failing calls in the turn of one loan keep the later loans of the batch from
theirs: the two on the key of the ops alert, which no `try` surrounds. -/
namespace Bitmonie.LiquidationBatch
open LoansService LiquidationMonitor LiquidationDecision

/-- A transaction, or a call on Redis, that throws. -/
def throws (i : Answer) : Bool := i.fails || i.lost

theorem committed_same {f : Answer → α} {i : Answer} {w : World} :
    committed (fun i w => .ok (f i, w)) i w =
      (if throws i then .error .unavailable else .ok (f i), w) := by
  unfold committed throws
  cases i.fails <;> simp

section Turn
variable (sendEmail : Bool) (rate : ℚ) (asOf : Time) (repayments : Nat → List LoanRepayment)

def due (row : ActiveLoanRow) : Bool := shouldLiquidate rate row.loan (repayments row.id) asOf

/-- The nudges of a turn, in their own `try`. -/
def nudges (row : ActiveLoanRow) : Action Unit :=
  (evaluateCoverageTiers sendEmail (currentValueNgn rate row.loan)
    (outstandingOf row.loan (repayments row.id) asOf).totalOutstandingNgn).catching fun _ => .pure ()

/-- One of the calls after the nudges throws: those on the key of the ops alert. -/
def alertThrows (turn : ActiveLoanRow × Finished World Answer Access AppError Unit) : Bool :=
  !rateSuspect rate turn.1.loan && !due rate asOf repayments turn.1 &&
    ((nudges sendEmail rate asOf repayments turn.1).beyond turn.2.trace).any fun e => throws e.answer

variable {sendEmail rate asOf repayments} {tid : Nat} {row : ActiveLoanRow} {answers : List Answer}
  {s : World} {f : Finished World Answer Access AppError Unit}

theorem alertOps_error {value total : ℚ} (ran : (alertOps value total).exec answers s = some f) :
    (∃ e, f.result = .error e) ↔ f.trace.any (fun e => throws e.answer) = true := by
  unfold alertOps at ran
  split at ran
  · obtain ⟨i, rest, rfl, ⟨a, tail, ended, went, rfl⟩ | ⟨e, ended, rfl⟩⟩ :=
      Proc.exec_access_bind ran
    · rw [committed_same] at ended
      cases threw : throws i with
      | true => simp [threw] at ended
      | false =>
        cases a with
        | true =>
          obtain rfl := Option.some.inj went
          simp [Finished.after, threw]
        | false =>
          rw [← Proc.bind_pure redisSet] at went
          obtain ⟨j, _, rfl, ⟨_, last, ended', went', rfl⟩ | ⟨e, ended', rfl⟩⟩ :=
            Proc.exec_access_bind went
          · obtain rfl := Option.some.inj went'
            rw [committed_same] at ended'
            cases threw' : throws j with
            | true => simp [threw'] at ended'
            | false => simp [Finished.after, threw, threw']
          · rw [committed_same] at ended'
            cases threw' : throws j with
            | true => simp [Finished.after, threw, threw']
            | false => simp [threw'] at ended'
    · rw [committed_same] at ended
      cases threw : throws i with
      | true => simp [threw]
      | false => simp [threw] at ended
  · obtain rfl := Option.some.inj ran
    simp

theorem liquidation_set {now : Time} {s' : World} {a : Unit}
    (done : ((writeLiquidation row rate now s).map fun w' =>
      ((), { w' with seizing := Function.update w'.seizing row.id (some tid) })) = .ok (a, s')) :
    ∃ loan logs, s' = { s with
      loans := s.loans.set row.id loan
      statusLogs := logs
      seizing := Function.update s.seizing row.id (some tid) } := by
  obtain ⟨_, wrote, -, rfl⟩ := map_pair_ok.mp done
  obtain ⟨_, _, _, _, _, rfl⟩ := writeLiquidation_ok wrote
  exact ⟨_, _, rfl⟩

/-- The transaction is the first access of a seizure, and what follows leaves the loans alone. -/
theorem seizeCollateral_ran (ran : (seizeCollateral tid row rate).exec answers s = some f) :
    ∃ i t rest, f.result = .ok () ∧
      f.trace = ⟨.loanStatus row.id .active .liquidated, i, s, t⟩ :: rest ∧
      (∀ e ∈ rest, e.label = .swapBtcToUsd row.id) ∧ f.state.loans = t.loans ∧
      (committed (fun i w => (writeLiquidation row rate i.now w).map fun w' =>
        ((), { w' with seizing := Function.update w'.seizing row.id (some tid) })) i s).2 = t := by
  obtain ⟨⟨⟩, returned⟩ := Proc.exec_catching_pure ran
  obtain ⟨i, rest, rfl, ⟨_, tail, _, went, rfl⟩ | ⟨e, tail, _, went, rfl⟩⟩ :=
    Proc.exec_access_catching ran
  · cases rest with
    | nil => cases went
    | cons j rest =>
      refine ⟨i, _, tail.trace, returned, rfl, ?_⟩
      cases lost : (j.fails || j.lost) <;>
        simp only [swapBtcToUsd, Proc.access, Proc.catching, Proc.exec, Proc.ofExcept, lost, if_true,
          Bool.false_eq_true, if_false, Option.map_some, Option.some.injEq] at went <;>
        simp [← went, Finished.after]
  · obtain rfl := Option.some.inj went
    exact ⟨i, _, [], returned, rfl, by simp, rfl, rfl⟩

theorem checkLoan_error (ran : (checkLoan tid sendEmail rate asOf row (repayments row.id)).exec
    answers s = some f) :
    (∃ e, f.result = .error e) ↔ alertThrows sendEmail rate asOf repayments (row, f) = true := by
  cases decided : due rate asOf repayments row with
  | true =>
    rw [checkLoan_due decided] at ran
    obtain ⟨_, _, _, returned, _⟩ := seizeCollateral_ran ran
    simp [returned, alertThrows, decided]
  | false =>
    cases suspect : rateSuspect rate row.loan with
    | true =>
      simp only [checkLoan, suspect, if_true] at ran
      obtain rfl := Option.some.inj ran
      simp [alertThrows, suspect]
    | false =>
      have above := decided
      simp only [due, shouldLiquidate, suspect, Bool.false_eq_true, if_false] at above
      simp only [checkLoan, suspect, above, Bool.false_eq_true, if_false] at ran
      obtain ⟨first, nudged, ⟨_, tail, _, alerted, rfl⟩ | ⟨e, threw, rfl⟩⟩ := Proc.exec_bind ran
      · have left : (nudges sendEmail rate asOf repayments row).beyond (first.trace ++ tail.trace) =
            tail.trace := Proc.beyond_exec nudged _
        simpa [alertThrows, suspect, decided, left] using alertOps_error alerted
      · obtain ⟨_, returned⟩ := Proc.exec_catching_pure nudged
        simp [returned] at threw

def transactionThrows (loanId : Nat) (trace : List (Event World Answer Access)) : Bool :=
  trace.any fun e => decide (e.label = .loanStatus loanId .active .liquidated) && throws e.answer

theorem transactionThrows_quiet {trace : List (Event World Answer Access)} {loanId : Nat}
    (quiet : ∀ e ∈ trace, Quiet e.label) : transactionThrows loanId trace = false := by
  rw [transactionThrows, List.any_eq_false]
  intro e member made
  simp only [Bool.and_eq_true, decide_eq_true_eq] at made
  have silent := quiet e member
  rw [made.1] at silent
  exact silent

/-- A turn is about one loan: it makes no other one's transaction. -/
theorem checkLoan_others (ran : (checkLoan tid sendEmail rate asOf row (repayments row.id)).exec
    answers s = some f) :
    f.state.loans.length = s.loans.length ∧ ∀ loanId, loanId ≠ row.id →
      f.state.loans[loanId]? = s.loans[loanId]? ∧ transactionThrows loanId f.trace = false := by
  cases decided : due rate asOf repayments row with
  | true =>
    rw [checkLoan_due decided] at ran
    obtain ⟨i, t, rest, _, trace, swaps, same, rfl⟩ := seizeCollateral_ran ran
    rw [same]
    constructor
    · refine @committed_keeps _ _ i s (fun t => t.loans.length = s.loans.length) rfl ?_
      intro _ w' done
      obtain ⟨_, _, rfl⟩ := liquidation_set done
      exact List.length_set
    · intro loanId other
      constructor
      · refine @committed_keeps _ _ i s (fun t => t.loans[loanId]? = s.loans[loanId]?) rfl ?_
        intro _ w' done
        obtain ⟨_, _, rfl⟩ := liquidation_set done
        exact List.getElem?_set_ne other.symm
      · rw [trace, transactionThrows, List.any_eq_false]
        refine List.forall_mem_cons.mpr ⟨by simp [other.symm], fun e member => ?_⟩
        simp [swaps e member]
  | false =>
    have looks : (checkLoan tid sendEmail rate asOf row (repayments row.id)).Looks Quiet :=
      checkLoan_spared decided
    rw [looks.exec ran]
    exact ⟨rfl, fun loanId _ => ⟨rfl, transactionThrows_quiet (looks.labelled ran)⟩⟩

theorem checkLoan_liquidates (decided : due rate asOf repayments row = true)
    (present : row.id < s.loans.length)
    (ran : (checkLoan tid sendEmail rate asOf row (repayments row.id)).exec answers s = some f)
    (commits : transactionThrows row.id f.trace = false) :
    (f.state.loans[row.id]?).map (·.status) = some .liquidated := by
  rw [checkLoan_due decided] at ran
  obtain ⟨i, t, rest, _, trace, _, same, ended⟩ := seizeCollateral_ran ran
  simp only [trace, transactionThrows, List.any_cons, decide_true, Bool.true_and,
    Bool.or_eq_false_iff] at commits
  obtain ⟨fails, lost⟩ := Bool.or_eq_false_iff.mp commits.1
  rw [same, ← ended]
  simp [committed, fails, lost, writeLiquidation, updateRow, bind, Except.bind, pure, Except.pure,
    Except.map, present]

end Turn

section Batch
variable {tid : Nat} {sendEmail : Bool} {rate : ℚ} {asOf : Time}
  {repayments : Nat → List LoanRepayment} {rows : List ActiveLoanRow} {s t : World}
  {turns : List (ActiveLoanRow × Finished World Answer Access AppError Unit)}

/-- Each loan that had its turn is as the turn left it, and each other one as it was. -/
theorem turns_end (turned : Proc.Turns
      (fun row => checkLoan tid sendEmail rate asOf row (repayments row.id)) rows s turns t)
    (apart : (rows.map (·.id)).Nodup) (present : ∀ row ∈ rows, row.id < s.loans.length) :
    (∀ turn ∈ turns, due rate asOf repayments turn.1 = true →
      transactionThrows turn.1.id turn.2.trace = false →
        (t.loans[turn.1.id]?).map (·.status) = some .liquidated) ∧
    ∀ loanId, (∀ turn ∈ turns, turn.1.id ≠ loanId) → t.loans[loanId]? = s.loans[loanId]? := by
  induction turned with
  | done => exact ⟨by simp, fun _ _ => rfl⟩
  | @next _ _ _ _ _ turns _ ran _ later ih =>
    obtain ⟨size, others⟩ := checkLoan_others ran
    obtain ⟨here, there⟩ := List.forall_mem_cons.mp present
    obtain ⟨first, apart⟩ := List.nodup_cons.mp apart
    obtain ⟨liquidates, untouched⟩ := ih apart fun row member => size ▸ there row member
    refine ⟨List.forall_mem_cons.mpr ⟨fun decided commits => ?_, liquidates⟩, fun loanId none => ?_⟩
    · obtain ⟨skipped, split, _⟩ := later.split
      rw [untouched]
      · exact checkLoan_liquidates decided here ran commits
      · intro turn member same
        have again : turn.1 ∈ turns.map (·.1) ++ skipped :=
          List.mem_append_left _ (List.mem_map_of_mem member)
        exact first (List.mem_map.mpr ⟨turn.1, split ▸ again, same⟩)
    · obtain ⟨other, none⟩ := List.forall_mem_cons.mp none
      rw [untouched loanId none, (others loanId other.symm).1]
  | stop ran _ =>
    obtain ⟨_, others⟩ := checkLoan_others ran
    refine ⟨List.forall_mem_cons.mpr ⟨fun decided commits => ?_, by simp⟩, fun loanId none => ?_⟩
    · exact checkLoan_liquidates decided (present _ (List.mem_cons_self ..)) ran commits
    · exact (others loanId (none _ (List.mem_cons_self ..)).symm).1

end Batch

/-- Every loan that is due, and whose own transaction does not throw, ends `LIQUIDATED`. -/
def EachLiquidated (rate : ℚ) (asOf : Time) (repayments : Nat → List LoanRepayment)
    (rows : List ActiveLoanRow) (f : Finished World Answer Access AppError Unit) : Prop :=
  ∀ row ∈ rows, due rate asOf repayments row = true → transactionThrows row.id f.trace = false →
    (f.state.loans[row.id]?).map (·.status) = some .liquidated

/-- In the order of the batch no loan that is due comes after one whose alert throws. -/
def NoneShielded (sendEmail : Bool) (rate : ℚ) (asOf : Time) (repayments : Nat → List LoanRepayment)
    (rows : List ActiveLoanRow)
    (turns : List (ActiveLoanRow × Finished World Answer Access AppError Unit)) : Prop :=
  ∀ turn ∈ turns, alertThrows sendEmail rate asOf repayments turn = true →
    ∀ past rest, rows = past ++ turn.1 :: rest → ∀ row ∈ rest, due rate asOf repayments row = false

/-- The loop of a run that read the flag, the price, the candidates and their repayments:
`turns` is what its trace holds next, before the heartbeat. -/
structure Looped (tid : Nat) (sendEmail : Bool) (rate : ℚ) (asOf : Time)
    (repayments : Nat → List LoanRepayment) (rows : List ActiveLoanRow) (w : World)
    (f : Finished World Answer Access AppError Unit)
    (turns : List (ActiveLoanRow × Finished World Answer Access AppError Unit)) : Prop where
  turned : Proc.Turns (fun row => checkLoan tid sendEmail rate asOf row (repayments row.id))
    rows w turns f.state
  traced : ∃ last, f.trace.drop 4 = turns.flatMap (·.2.trace) ++ last ∧ last.length ≤ 1 ∧
    ∀ e ∈ f.trace.take 4 ++ last, Quiet e.label

section Cycle
variable {tid : Nat} {sendEmail : Bool} {rate : ℚ} {asOf : Time}
  {repayments : Nat → List LoanRepayment} {order : List ActiveLoanRow → List ActiveLoanRow}
  {answers : Nat → Answer} {n : Nat} {w : World} {r : Finished World Answer Access AppError Unit}

/-- The first access of a procedure returns. -/
theorem exec_answered {label : Access} {g : Answer → World → Except AppError α × World}
    {next : α → Action Unit} {a : α} {t : World}
    (ran : ((Proc.access label (fun _ => true) g).bind next).exec ((List.range n).map answers) w =
      some r)
    (returned : g (answers 0) w = (.ok a, t)) :
    ∃ m tail, (next a).exec ((List.range m).map fun k => answers (k + 1)) t = some tail ∧
      r = tail.after ⟨label, answers 0, w, t⟩ := by
  obtain ⟨i, rest, split, ended⟩ := Proc.exec_access_bind ran
  obtain ⟨rfl, m, rfl⟩ := cons_of_range_map split
  simp only [returned] at ended
  rcases ended with ⟨_, tail, ⟨⟩, went, rfl⟩ | ⟨_, ⟨⟩, _⟩
  exact ⟨m, tail, went, rfl⟩

theorem exec_redisGet_ok {f : Answer → α} {next : α → Action Unit}
    (ran : ((redisGet f).bind next).exec ((List.range n).map answers) w = some r)
    (answered : throws (answers 0) = false) :
    ∃ m tail, (next (f (answers 0))).exec ((List.range m).map fun k => answers (k + 1)) w =
      some tail ∧ r = tail.after ⟨.redis, answers 0, w, w⟩ :=
  exec_answered ran (by simp [committed_same, answered])

theorem exec_query_ok {f : Answer → World → α} {next : α → Action Unit}
    (ran : ((query fun i w => .ok (f i w)).bind next).exec ((List.range n).map answers) w = some r)
    (answered : (answers 0).fails = false) :
    ∃ m tail, (next (f (answers 0) w)).exec ((List.range m).map fun k => answers (k + 1)) w =
      some tail ∧ r = tail.after ⟨.read, answers 0, w, w⟩ :=
  exec_answered ran (by simp [answered])

theorem heartbeat_ran {beats : List Answer} (ran : heartbeat.exec beats w = some r) :
    r.state = w ∧ ∃ e, r.trace = [e] ∧ Quiet e.label := by
  refine ⟨heartbeat_looks.exec ran, ?_⟩
  have quiet := heartbeat_looks.labelled ran
  rw [heartbeat, ← Proc.bind_pure redisSet] at ran
  obtain ⟨_, _, _, ⟨_, _, _, went, rfl⟩ | ⟨_, _, rfl⟩⟩ := Proc.exec_access_bind ran
  · obtain rfl := Option.some.inj went
    exact ⟨_, rfl, quiet _ (List.mem_singleton.mpr rfl)⟩
  · exact ⟨_, rfl, quiet _ (List.mem_singleton.mpr rfl)⟩

theorem cycle_looped {sellOf : String → Option Decimal}
    (usable : UsableRate sellOf (answers 0).priceStale (answers 1).price rate)
    (flag : throws (answers 0) = false) (price : throws (answers 1) = false)
    (candidates : (answers 2).fails = false) (history : (answers 3).fails = false)
    (ran : (runLiquidationCycle tid sellOf sendEmail order).exec ((List.range n).map answers) w =
      some r) :
    ∃ turns, Looped tid sendEmail rate (answers 3).now (repaymentsOf w) (order (activeLoans w)) w r
      turns := by
  have calls : Quiet .redis ∧ Quiet .read := ⟨trivial, trivial⟩
  obtain ⟨raw, here, text, sell⟩ := usable.read
  obtain ⟨_, _, flagged, rfl⟩ := exec_redisGet_ok ran flag
  rw [truthy_eq_none.mpr usable.fresh] at flagged
  obtain ⟨_, _, priced, rfl⟩ := exec_redisGet_ok flagged price
  rw [truthy_eq_some.mpr ⟨here, text⟩] at priced
  simp only [sell, not_le.mpr usable.positive, if_false] at priced
  obtain ⟨_, _, listed, rfl⟩ := exec_query_ok priced candidates
  unfold readRepayments at listed
  split at listed
  · rename_i empty
    rw [List.isEmpty_iff.mp empty] at listed ⊢
    obtain ⟨same, e, trace, quiet⟩ := heartbeat_ran listed
    refine ⟨[], by simpa [Finished.after, same] using .done, [], ?_, by simp, ?_⟩
    · simp [Finished.after, trace]
    · simp [Finished.after, trace, calls, quiet]
  · obtain ⟨_, _, known, rfl⟩ := exec_query_ok listed history
    obtain ⟨first, looped, ⟨_, tail, _, beat, rfl⟩ | ⟨e, _, rfl⟩⟩ := Proc.exec_bind known
    · obtain ⟨turns, turned, trace⟩ := Proc.turns_of_exec looped
      obtain ⟨same, e, alone, quiet⟩ := heartbeat_ran beat
      refine ⟨turns, by simpa [Finished.after, same] using turned, [e], ?_, by simp, ?_⟩
      · simp [Finished.after, trace, alone]
      · simp [Finished.after, calls, quiet]
    · obtain ⟨turns, turned, trace⟩ := Proc.turns_of_exec looped
      refine ⟨turns, turned, [], ?_, by simp, ?_⟩
      · simp [Finished.after, trace]
      · simp [Finished.after, calls]

theorem activeLoans_apart (w : World) : ((activeLoans w).map (·.id)).Nodup :=
  List.Nodup.map_on (fun _ member _ member' same => eq_of_id member member' same)
    (activeLoans_nodup w)

/-- The transactions of a run are those of its turns. -/
theorem Looped.commits {rows : List ActiveLoanRow}
    {turns : List (ActiveLoanRow × Finished World Answer Access AppError Unit)} {loanId : Nat}
    (looped : Looped tid sendEmail rate asOf repayments rows w r turns) :
    transactionThrows loanId r.trace = turns.any fun turn => transactionThrows loanId turn.2.trace := by
  obtain ⟨last, trace, _, quiet⟩ := looped.traced
  have first : transactionThrows loanId (r.trace.take 4) = false :=
    transactionThrows_quiet fun e member => quiet e (List.mem_append_left _ member)
  have after : transactionThrows loanId last = false :=
    transactionThrows_quiet fun e member => quiet e (List.mem_append_right _ member)
  unfold transactionThrows at first after ⊢
  rw [← List.take_append_drop 4 r.trace, trace]
  simp only [List.any_append, first, after, List.any_flatMap, Bool.false_or, Bool.or_false]

/-- What comes after an entry that is there once. -/
theorem rest_unique {a : α} {past rest past' rest' : List α} (nodup : (past ++ a :: rest).Nodup)
    (same : past ++ a :: rest = past' ++ a :: rest') : rest = rest' := by
  have apart := (List.nodup_cons.mp (List.nodup_middle.mp nodup)).1
  exact ((List.append_cons_inj_of_notMem (fun inside => apart (List.mem_append_left _ inside))
    fun inside => apart (List.mem_append_right _ inside)).mp same).2.2

/-- The loans of a batch come once each, and were ACTIVE. -/
theorem Looped.each_iff {rows : List ActiveLoanRow}
    {turns : List (ActiveLoanRow × Finished World Answer Access AppError Unit)}
    (looped : Looped tid sendEmail rate asOf repayments rows w r turns)
    (apart : (rows.map (·.id)).Nodup)
    (listed : ∀ row ∈ rows, ∃ loan, w.loans[row.id]? = some loan ∧ loan.status = .active) :
    EachLiquidated rate asOf repayments rows r ↔
      NoneShielded sendEmail rate asOf repayments rows turns := by
  obtain ⟨liquidates, untouched⟩ := turns_end looped.turned apart fun row member => by
    obtain ⟨_, found, _⟩ := listed row member
    exact (List.getElem?_eq_some_iff.mp found).1
  obtain ⟨skipped, split, ends⟩ := looped.turned.split
  have threw_iff (turn) (member : turn ∈ turns) : (∃ e, turn.2.result = .error e) ↔
      alertThrows sendEmail rate asOf repayments turn = true := by
    obtain ⟨_, _, ran⟩ := looped.turned.ran turn member
    exact checkLoan_error ran
  have cut (turn) (member : turn ∈ turns) (threw : ∃ e, turn.2.result = .error e) :
      ∃ past, rows = past ++ turn.1 :: skipped := by
    obtain ⟨e, threw⟩ := threw
    obtain ⟨past, rfl⟩ := List.getLast?_eq_some_iff.mp (looped.turned.last member threw)
    exact ⟨past.map (·.1), by simp [split]⟩
  constructor
  · intro each turn member alerted past rest here row later
    obtain ⟨past', here'⟩ := cut turn member ((threw_iff turn member).mpr alerted)
    obtain rfl := rest_unique (here ▸ List.Nodup.of_map _ apart) (here.symm.trans here')
    -- The row is left over: no turn before was about it.
    have skips : ∀ other ∈ turns, other.1.id ≠ row.id := by
      intro other inside
      rw [split, List.map_append] at apart
      exact (List.nodup_append.mp apart).2.2 _ (List.mem_map_of_mem (List.mem_map_of_mem inside)) _
        (List.mem_map_of_mem later)
    have waiting : row ∈ rows := split ▸ List.mem_append_right _ later
    have commits : transactionThrows row.id r.trace = false := by
      rw [looped.commits, List.any_eq_false]
      intro other inside
      obtain ⟨_, _, ran⟩ := looped.turned.ran other inside
      simp [((checkLoan_others ran).2 row.id (skips other inside).symm).2]
    obtain ⟨loan, found, active⟩ := listed row waiting
    by_contra decided
    have liquidated := each row waiting (by simpa using decided) commits
    rw [untouched row.id skips, found] at liquidated
    simp [active] at liquidated
  · intro none row member decided commits
    have inside := member
    rw [split, List.mem_append, List.mem_map] at inside
    rcases inside with ⟨turn, had, rfl⟩ | skips
    · rw [looped.commits, List.any_eq_false] at commits
      exact liquidates turn had decided (by simpa using commits turn had)
    · rcases ends with rfl | ⟨turn, had, threw⟩
      · cases skips
      · obtain ⟨past, here⟩ := cut turn had threw
        rw [none turn had ((threw_iff turn had).mp threw) past skipped here row skips] at decided
        cases decided

variable (tid sendEmail answers) in
/-- Every loan of the batch that is due, and whose own transaction does not throw, is
liquidated, if and only if no call on an alert key threw before the turn of one that is due. -/
theorem eachLiquidated_iff (sellOf : String → Option Decimal)
    (perm : ∀ rows, (order rows).Perm rows)
    (usable : UsableRate sellOf (answers 0).priceStale (answers 1).price rate)
    (flag : throws (answers 0) = false) (price : throws (answers 1) = false)
    (candidates : (answers 2).fails = false) (history : (answers 3).fails = false) :
    let cycle := runLiquidationCycle tid sellOf sendEmail order;
    let asOf := (answers 3).now;
    (∃ n f, cycle.exec ((List.range n).map answers) w = some f) ∧
    ∀ n f, cycle.exec ((List.range n).map answers) w = some f → ∃ turns,
      Looped tid sendEmail rate asOf (repaymentsOf w) (order (activeLoans w)) w f turns ∧
      (EachLiquidated rate asOf (repaymentsOf w) (activeLoans w) f ↔
        NoneShielded sendEmail rate asOf (repaymentsOf w) (order (activeLoans w)) turns) := by
  refine ⟨(cycle_unblocked tid sellOf sendEmail perm w).ends rfl answers, fun n f ran => ?_⟩
  obtain ⟨turns, looped⟩ := cycle_looped usable flag price candidates history ran
  have apart : ((order (activeLoans w)).map (·.id)).Nodup :=
    ((perm _).map _).nodup_iff.mpr (activeLoans_apart w)
  have ordered := looped.each_iff apart fun row member => by
    obtain ⟨found, active, _⟩ := mem_activeLoans.mp ((perm _).mem_iff.mp member)
    exact ⟨_, found, active⟩
  refine ⟨turns, looped, Iff.trans ⟨fun each row member => ?_, fun each row member => ?_⟩ ordered⟩
  · exact each row ((perm _).mem_iff.mp member)
  · exact each row ((perm _).mem_iff.mpr member)

end Cycle

def sampleBatch : World where
  loans := [sampleLoan 290000, sampleLoan 250000]

def failingAt (k j : Nat) : Answer :=
  { now := 6, price := some "0.4", fails := decide (j = k) }

def sampleCycle (order : List ActiveLoanRow → List ActiveLoanRow) : Action Unit :=
  runLiquidationCycle 0 (fun _ => some (.finite (2 / 5))) false order

theorem eachLiquidated_of_all {f : Finished World Answer Access AppError Unit}
    {rows : List ActiveLoanRow} {rate : ℚ} {asOf : Time} {repayments : Nat → List LoanRepayment}
    (checked : rows.all (fun row => !due rate asOf repayments row ||
      decide ((f.state.loans[row.id]?).map (·.status) = some .liquidated)) = true) :
    EachLiquidated rate asOf repayments rows f := by
  intro row member decided _
  simpa [decided] using List.all_eq_true.mp checked row member

/-- Where the loan that is due has its turn first, the alert of the other one may fail. -/
theorem eachLiquidated_iff_sample : ∃ f turns,
    (sampleCycle List.reverse).exec ((List.range 8).map (failingAt 7)) sampleBatch = some f ∧
      f.state.loans.map (·.status) = [.active, .liquidated] ∧
      Looped 0 false (2 / 5) 6 (repaymentsOf sampleBatch) (activeLoans sampleBatch).reverse sampleBatch
        f turns ∧
      NoneShielded false (2 / 5) 6 (repaymentsOf sampleBatch) (activeLoans sampleBatch).reverse
        turns := by
  have ran : ((sampleCycle List.reverse).exec ((List.range 8).map (failingAt 7)) sampleBatch).any
      (fun f => decide (f.state.loans.map (·.status) = [.active, .liquidated]) &&
        (activeLoans sampleBatch).all fun row =>
          !due (2 / 5) 6 (repaymentsOf sampleBatch) row ||
            decide ((f.state.loans[row.id]?).map (·.status) = some .liquidated)) = true := by
    decide +kernel
  obtain ⟨f, done, checked⟩ := (Option.any_eq_true _ _).mp ran
  obtain ⟨statuses, each⟩ := Bool.and_eq_true_iff.mp checked
  obtain ⟨turns, looped, iff⟩ := (eachLiquidated_iff 0 false (failingAt 7)
    (fun _ => some (.finite (2 / 5))) (fun rows => rows.reverse_perm)
    ⟨.inl rfl, ⟨"0.4", rfl, by decide, rfl⟩, by norm_num⟩ rfl rfl rfl rfl).2 8 f done
  exact ⟨f, turns, done, of_decide_eq_true statuses, looped, iff.mp (eachLiquidated_of_all each)⟩

/-- The read of the alert key throws for the first loan, and the second keeps its status. -/
theorem alert_failure_shields : ∃ f,
    (sampleCycle id).exec ((List.range 6).map (failingAt 5)) sampleBatch = some f ∧
      f.result = .error .unavailable ∧
      ¬ EachLiquidated (2 / 5) 6 (repaymentsOf sampleBatch) (activeLoans sampleBatch) f := by
  have ran : ((sampleCycle id).exec ((List.range 6).map (failingAt 5)) sampleBatch).any
      (fun f => decide (f.result = .error .unavailable) && (activeLoans sampleBatch).any fun row =>
        due (2 / 5) 6 (repaymentsOf sampleBatch) row && !transactionThrows row.id f.trace &&
          decide ((f.state.loans[row.id]?).map (·.status) ≠ some .liquidated)) = true := by
    decide +kernel
  obtain ⟨f, done, checked⟩ := (Option.any_eq_true _ _).mp ran
  obtain ⟨threw, shielded⟩ := Bool.and_eq_true_iff.mp checked
  refine ⟨f, done, of_decide_eq_true threw, fun each => ?_⟩
  obtain ⟨row, member, shielded⟩ := List.any_eq_true.mp shielded
  simp only [Bool.and_eq_true, Bool.not_eq_true', decide_eq_true_eq] at shielded
  exact shielded.2 (each row member shielded.1.1 shielded.1.2)

end Bitmonie.LiquidationBatch
