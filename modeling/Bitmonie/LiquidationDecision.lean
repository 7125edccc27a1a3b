import Bitmonie.LiquidationMonitor

/-! Which loans a cycle of the liquidation monitor liquidates, when it runs to its end and
Redis and the database answer: those whose condition holds at the cached rate, whatever
the other loans of the batch, the swaps and the emails do. -/
namespace Bitmonie.LiquidationDecision
open LoansService LiquidationMonitor OpsLoansService

/-- The rate that a cycle goes by. -/
structure UsableRate (sellOf : String → Option Decimal) (stale price : Option String) (rate : ℚ) :
    Prop where
  fresh : stale = none ∨ stale = some ""
  read : ∃ raw, price = some raw ∧ raw ≠ "" ∧ sellOf raw = some (.finite rate)
  positive : 0 < rate

/-- The rate is credible, something is owed, and the collateral no longer covers it. -/
structure Due (rate : ℚ) (loan : Loan) (repayments : List LoanRepayment) (asOf : Time) : Prop where
  credible : minLiquidationRateFraction * loan.satNgnRateAtCreation ≤ rate
  owed : 0 < (outstandingOf loan repayments asOf).totalOutstandingNgn
  uncovered : loan.collateralAmountSat * rate ≤
    liquidationThreshold * (outstandingOf loan repayments asOf).totalOutstandingNgn

theorem total_nonneg {loan : Loan} (principal : 0 ≤ loan.principalNgn)
    (repayments : List LoanRepayment) (asOf : Time) :
    0 ≤ (outstandingOf loan repayments asOf).totalOutstandingNgn := by
  unfold outstandingOf AccrualService.compute
  split
  · exact principal
  · simp only [add_zero]
    exact add_nonneg (le_max_right _ _) (le_max_right _ _)

/-- Dividing by nothing owed is no ratio below the threshold. -/
theorem ratioAtMost_iff {threshold value total : ℚ} (nonneg : 0 ≤ total) :
    ratioAtMost threshold value total = true ↔ 0 < total ∧ value ≤ threshold * total := by
  simp only [ratioAtMost, decide_eq_true_eq]
  constructor
  · rintro ⟨nonzero, below⟩
    have owed : 0 < total := lt_of_le_of_ne nonneg (Ne.symm nonzero)
    exact ⟨owed, (div_le_iff₀ owed).mp below⟩
  · rintro ⟨owed, below⟩
    exact ⟨owed.ne', (div_le_iff₀ owed).mpr below⟩

theorem shouldLiquidate_iff_due {rate : ℚ} {loan : Loan} {repayments : List LoanRepayment}
    {asOf : Time} (principal : 0 ≤ loan.principalNgn) :
    shouldLiquidate rate loan repayments asOf = true ↔ Due rate loan repayments asOf := by
  have nonneg := total_nonneg principal repayments asOf
  unfold shouldLiquidate rateSuspect currentValueNgn
  constructor
  · intro decided
    split at decided
    · contradiction
    · rename_i credible
      obtain ⟨owed, uncovered⟩ := (ratioAtMost_iff nonneg).mp decided
      refine ⟨?_, owed, uncovered⟩
      simpa [mul_comm] using credible
  · rintro ⟨credible, owed, uncovered⟩
    rw [mul_comm] at credible
    simp only [decide_eq_true_eq, not_lt.mpr credible, if_false]
    exact (ratioAtMost_iff nonneg).mpr ⟨owed, uncovered⟩

theorem mem_activeLoans {row : ActiveLoanRow} {w : World} :
    row ∈ activeLoans w ↔
      w.loans[row.id]? = some row.loan ∧ row.loan.status = .active ∧ loanFree row.id w = true := by
  simp only [activeLoans, List.mem_filterMap, List.mem_range]
  constructor
  · rintro ⟨id, _, chosen⟩
    split at chosen
    · rename_i loan found
      split at chosen
      · rename_i here
        obtain rfl := Option.some.inj chosen
        exact ⟨found, here⟩
      · cases chosen
    · cases chosen
  · rintro ⟨found, here⟩
    exact ⟨row.id, (List.getElem?_eq_some_iff.mp found).1, by simp [found, here]⟩

theorem eq_of_id {w : World} {row other : ActiveLoanRow} (member : row ∈ activeLoans w)
    (member' : other ∈ activeLoans w) (same : row.id = other.id) : row = other := by
  have found := (mem_activeLoans.mp member).1
  have found' := (mem_activeLoans.mp member').1
  rw [same, found'] at found
  cases row
  cases other
  simp_all

theorem activeLoans_nodup (w : World) : (activeLoans w).Nodup := by
  refine List.Nodup.filterMap (fun id id' row chosen chosen' => ?_) List.nodup_range
  have named : row.id = id := by grind
  have named' : row.id = id' := by grind
  exact named.symm.trans named'

def Succeeds (e : Event World Answer Access) : Prop :=
  match e.label with
  | .sendEmail | .swapBtcToUsd _ => True
  | _ => e.answer.fails = false ∧ e.answer.lost = false

/-- Nothing moves between two accesses of the cycle. -/
def answering : Contract World Answer Access where
  inv _ := True
  allowed label i w := Succeeds ⟨label, i, w, w⟩
  rely s t := s = t
  guar _ _ _ _ := True

theorem exec_redisGet {f : Answer → α} {next : α → Action Unit} {answers : List Answer} {w : World}
    {r : Finished World Answer Access AppError Unit}
    (done : ((redisGet f).bind next).exec answers w = some r)
    (succeeds : ∀ e ∈ r.trace, Succeeds e) : ∃ i rest tail, answers = i :: rest ∧
      (next (f i)).exec rest w = some tail ∧ r = tail.after ⟨.redis, i, w, w⟩ := by
  obtain ⟨i, rest, rfl, ⟨a, tail, ended, ran, rfl⟩ | ⟨e, ended, rfl⟩⟩ :=
    Proc.exec_access_bind done
  · obtain ⟨_, _, result⟩ := committed_ok ended
    obtain ⟨rfl, same⟩ := Prod.mk.inj (Except.ok.inj result)
    rw [← same] at ran
    exact ⟨i, rest, tail, rfl, ran, by rw [← same]⟩
  · obtain ⟨fails, lost⟩ := succeeds _ (List.mem_singleton.mpr rfl)
    simp only at fails lost
    simp [committed, fails, lost] at ended

theorem exec_query {f : Answer → World → α} {next : α → Action Unit} {answers : List Answer}
    {w : World} {r : Finished World Answer Access AppError Unit}
    (done : ((query fun i w => .ok (f i w)).bind next).exec answers w = some r)
    (succeeds : ∀ e ∈ r.trace, Succeeds e) : ∃ i rest tail, answers = i :: rest ∧
      (next (f i w)).exec rest w = some tail ∧ r = tail.after ⟨.read, i, w, w⟩ := by
  obtain ⟨i, rest, rfl, ⟨a, tail, ended, ran, rfl⟩ | ⟨e, ended, rfl⟩⟩ :=
    Proc.exec_access_bind done
  · by_cases fails : i.fails = true
    · simp [fails] at ended
    · simp only [fails, Bool.false_eq_true, if_false] at ended ran ⊢
      obtain rfl := Except.ok.inj ended
      exact ⟨i, rest, tail, rfl, ran, rfl⟩
  · obtain ⟨fails, _⟩ := succeeds _ (List.mem_singleton.mpr rfl)
    simp only at fails
    simp [fails] at ended

theorem redisGet_answers {f : Answer → α} {kept : World → Prop} {w : World} (here : kept w) :
    (redisGet f).Meets answering (fun _ => kept) (fun _ _ => False) w := by
  apply commit_meets
  rintro s rfl _ _ i ⟨fails, lost⟩
  simp only at fails lost
  refine ⟨trivial, fun failed => ?_, (fun _ refused => nomatch refused), fun a t _ done => ?_⟩
  · simp [fails] at failed
  · obtain ⟨_, rfl⟩ := Prod.mk.inj (Except.ok.inj done)
    exact ⟨trivial, trivial, fun _ => here, fun failed => by simp [lost] at failed⟩

theorem alertOps_answers (value total : ℚ) {kept : World → Prop} {w : World} (here : kept w) :
    (alertOps value total).Meets answering (fun _ => kept) (fun _ _ => False) w := by
  unfold alertOps
  split
  · rw [Proc.meets_bind]
    apply (redisGet_answers here).imp
    · intro alreadyAlerted t here
      cases alreadyAlerted
      · exact redisGet_answers here
      · exact here
    · exact fun _ _ h => h
  · exact here

section Loop
variable {tid : Nat} {sendEmail : Bool} {rate : ℚ} {asOf : Time}
  {repayments : Nat → List LoanRepayment} {w₀ : World}

structure Turned (rate : ℚ) (asOf : Time) (repayments : Nat → List LoanRepayment) (w₀ : World)
    (past : List ActiveLoanRow) (w : World) : Prop where
  seized : ∀ row ∈ past, shouldLiquidate rate row.loan (repayments row.id) asOf = true →
    ∃ now, w.loans[row.id]? = some (liquidated rate now row.loan)
  spared : ∀ loanId, (∀ row ∈ past, row.id = loanId →
    shouldLiquidate rate row.loan (repayments row.id) asOf = false) →
      w.loans[loanId]? = w₀.loans[loanId]?

theorem Turned.spare {past : List ActiveLoanRow} {row : ActiveLoanRow} {w : World}
    (turned : Turned rate asOf repayments w₀ past w)
    (decided : shouldLiquidate rate row.loan (repayments row.id) asOf = false) :
    Turned rate asOf repayments w₀ (past ++ [row]) w := by
  refine ⟨fun other member due => ?_, fun loanId none => ?_⟩
  · rcases List.mem_append.mp member with old | new
    · exact turned.seized other old due
    · obtain rfl := List.mem_singleton.mp new
      rw [decided] at due
      cases due
  · exact turned.spared loanId fun other old => none other (List.mem_append_left _ old)

/-- The row that is seized is the one that was read: no turn before touched it. -/
theorem Turned.seize {past : List ActiveLoanRow} {row : ActiveLoanRow} {w t : World} {now : Time}
    (turned : Turned rate asOf repayments w₀ past w) (apart : ∀ other ∈ past, other.id ≠ row.id)
    (found : w.loans[row.id]? = some row.loan)
    (decided : shouldLiquidate rate row.loan (repayments row.id) asOf = true)
    (rows : t.loans = w.loans.set row.id (liquidated rate now row.loan)) :
    Turned rate asOf repayments w₀ (past ++ [row]) t := by
  refine ⟨fun other member due => ?_, fun loanId none => ?_⟩
  · rcases List.mem_append.mp member with old | new
    · obtain ⟨at_, stored⟩ := turned.seized other old due
      refine ⟨at_, ?_⟩
      rw [rows, List.getElem?_set_ne (apart other old).symm, stored]
    · obtain rfl := List.mem_singleton.mp new
      exact ⟨now, by rw [rows, getElem?_set_of_eq found]⟩
  · have different : row.id ≠ loanId := by
      intro same
      have spared := none row (by simp) same
      rw [decided] at spared
      cases spared
    rw [rows, List.getElem?_set_ne different]
    exact turned.spared loanId fun other old => none other (List.mem_append_left _ old)

/-- The commit cannot fail, and what the swap does leaves the loans alone. -/
theorem seizeCollateral_turn {past : List ActiveLoanRow} {row : ActiveLoanRow} {w : World}
    (turned : Turned rate asOf repayments w₀ past w) (apart : ∀ other ∈ past, other.id ≠ row.id)
    (found : w.loans[row.id]? = some row.loan)
    (decided : shouldLiquidate rate row.loan (repayments row.id) asOf = true) :
    (seizeCollateral tid row rate).Meets answering
      (fun _ => Turned rate asOf repayments w₀ (past ++ [row])) (fun _ _ => False) w := by
  rw [seizeCollateral, Proc.meets_catching, Proc.meets_bind]
  apply commit_meets
  rintro s rfl _ _ i ⟨fails, lost⟩
  simp only at fails lost
  refine ⟨trivial, fun failed => by simp [fails] at failed, fun e refused => ?_,
    fun _ t _ done => ⟨trivial, trivial, fun _ => ?_, fun failed => by simp [lost] at failed⟩⟩
  · simp [writeLiquidation, updateRow, found, bind, Except.bind, pure, Except.pure, Except.map]
      at refused
  · obtain ⟨_, wrote, -, rfl⟩ := map_pair_ok.mp done
    obtain ⟨stored, _, present, _, _, rfl⟩ := writeLiquidation_ok wrote
    obtain rfl := Option.some.inj (found.symm.trans present)
    rw [Proc.meets_catching, swapBtcToUsd, Proc.meets_access]
    rintro u rfl _ _ j _
    refine ⟨trivial, trivial, ?_⟩
    cases j.fails || j.lost <;> exact turned.seize apart found decided rfl

theorem checkLoan_turn {past : List ActiveLoanRow} {row : ActiveLoanRow} {w : World}
    (turned : Turned rate asOf repayments w₀ past w) (apart : ∀ other ∈ past, other.id ≠ row.id)
    (found : w.loans[row.id]? = some row.loan) :
    (checkLoan tid sendEmail rate asOf row (repayments row.id)).Meets answering
      (fun _ => Turned rate asOf repayments w₀ (past ++ [row])) (fun _ _ => False) w := by
  cases decided : shouldLiquidate rate row.loan (repayments row.id) asOf with
  | true =>
    rw [checkLoan_due decided]
    exact seizeCollateral_turn turned apart found decided
  | false =>
    have spared := turned.spare decided
    unfold checkLoan
    split
    · exact spared
    · rename_i credible
      have above := decided
      simp only [shouldLiquidate, credible, Bool.false_eq_true, if_false] at above
      simp only [above, Bool.false_eq_true, if_false, Proc.meets_bind, Proc.meets_catching]
      apply ((evaluateCoverageTiers_looks _ _ _).meets (fun s t (same : s = t) here => same ▸ here)
        (fun _ _ _ _ => trivial) spared).imp
      · exact fun _ t here => alertOps_answers _ _ here
      · exact fun _ t here => alertOps_answers _ _ here

theorem loop_turned {rows : List ActiveLoanRow} (nodup : rows.Nodup)
    (candidates : ∀ row ∈ rows, row ∈ activeLoans w₀) :
    (Proc.each rows fun row => checkLoan tid sendEmail rate asOf row (repayments row.id)).Meets
      answering (fun _ => Turned rate asOf repayments w₀ rows) (fun _ _ => False) w₀ := by
  have start : Turned rate asOf repayments w₀ [] w₀ := ⟨by simp, by simp⟩
  refine Proc.meets_each_prefix start fun past row rest split s turned => ?_
  have whole : rows = past ++ row :: rest := split
  have member : row ∈ rows := by simp [whole]
  have apart : ∀ other ∈ past, other.id ≠ row.id := by
    intro other old same
    have inside : other ∈ rows := by simp [whole, old]
    obtain rfl := eq_of_id (candidates other inside) (candidates row member) same
    rw [whole, List.nodup_append] at nodup
    exact nodup.2.2 other old other (List.mem_cons_self ..) rfl
  apply checkLoan_turn turned apart
  rw [turned.spared row.id fun other old same => absurd same (apart other old)]
  exact (mem_activeLoans.mp (candidates row member)).1

end Loop

/-- The candidates are free, and the cycle takes no lock. -/
theorem cycle_unblocked (tid : Nat) (sellOf : String → Option Decimal) (sendEmail : Bool)
    {order : List ActiveLoanRow → List ActiveLoanRow} (perm : ∀ rows, (order rows).Perm rows)
    (w : World) :
    (runLiquidationCycle tid sellOf sendEmail order).Unblocked fun t => t.rowLock = w.rowLock := by
  have idle {p : Action Unit} (looks : p.Looks Quiet) :
      p.Unblocked fun t => t.rowLock = w.rowLock := looks.unblocked _
  have seizure (row : ActiveLoanRow) (rate : ℚ) (free : loanFree row.id w = true) :
      (seizeCollateral tid row rate).Unblocked fun t => t.rowLock = w.rowLock := by
    refine (Proc.unblocked_access_bind (fun t same => ?_)
      (fun i t same => committed_keeps same fun _ t' done => ?_) fun _ _ _ _ _ => ?_).catching
        fun _ => trivial
    · rwa [loanFree, same]
    · obtain ⟨_, wrote, -, rfl⟩ := map_pair_ok.mp done
      obtain ⟨_, _, _, _, _, rfl⟩ := writeLiquidation_ok wrote
      exact same
    · refine Proc.Unblocked.catching (fun i t same => ⟨_, rfl, same, ?_⟩) fun _ => trivial
      dsimp only
      cases i.fails || i.lost <;> trivial
  have checks (rate : ℚ) : (checkLoans tid sendEmail order rate).Unblocked
      fun t => t.rowLock = w.rowLock := by
    refine Proc.unblocked_access_bind (fun _ _ => rfl) (fun i t same => ?_) fun i t rows same read => ?_
    · dsimp only
      split <;> exact same
    · split at read
      · cases read
      obtain rfl := Except.ok.inj read
      refine ((readRepayments_looks _).unblocked _).bind fun history =>
        (Proc.unblocked_each fun row member => ?_).bind fun _ => idle heartbeat_looks
      have candidate := mem_activeLoans.mp ((perm _).mem_iff.mp member)
      have free : loanFree row.id w = true := by simpa [loanFree, same] using candidate.2.2
      cases decided : shouldLiquidate rate row.loan (history.1 row.id) history.2 with
      | true =>
        rw [checkLoan_due decided]
        exact seizure row rate free
      | false => exact idle (checkLoan_spared decided)
  unfold runLiquidationCycle
  refine ((redisGet_looks _).unblocked _).bind fun stale => ?_
  split
  · exact idle heartbeat_looks
  · refine ((redisGet_looks _).unblocked _).bind fun rateRaw => ?_
    split
    · exact idle heartbeat_looks
    · split
      · exact idle heartbeat_looks
      · split
        · exact idle (redisSet_looks.bind fun _ => heartbeat_looks)
        · exact checks _
      · exact idle (redisSet_looks.bind fun _ => heartbeat_looks)

theorem checkLoans_turned {tid : Nat} {sendEmail : Bool} {rate : ℚ}
    {order : List ActiveLoanRow → List ActiveLoanRow} (perm : ∀ rows, (order rows).Perm rows)
    {answers : Nat → Answer} {n : Nat} {w : World} {f : Finished World Answer Access AppError Unit}
    (done : (checkLoans tid sendEmail order rate).exec ((List.range n).map answers) w = some f)
    (succeeds : ∀ e ∈ f.trace, Succeeds e) :
    Turned rate (answers 1).now (repaymentsOf w) w (order (activeLoans w)) f.state := by
  obtain ⟨_, rest, tail, split, ran, rfl⟩ := exec_query done succeeds
  obtain ⟨_, m, rfl⟩ := cons_of_range_map split
  have later : ∀ e ∈ tail.trace, Succeeds e := fun e member =>
    succeeds e (List.mem_cons_of_mem _ member)
  change Turned rate (answers 1).now (repaymentsOf w) w (order (activeLoans w)) tail.state
  unfold readRepayments at ran
  split at ran
  · rename_i empty
    have none : order (activeLoans w) = [] := List.isEmpty_iff.mp empty
    simp only [none, Proc.each, Proc.pure_bind] at ran
    have same := heartbeat_looks.exec ran
    rw [none, same]
    exact ⟨by simp, by simp⟩
  · obtain ⟨history, rest, tail', split', ran', rfl⟩ := exec_query ran later
    obtain ⟨rfl, _⟩ := cons_of_range_map split'
    have nodup : (order (activeLoans w)).Nodup := (perm _).nodup_iff.mpr (activeLoans_nodup w)
    have turned : ((Proc.each (order (activeLoans w)) fun row => checkLoan tid sendEmail rate
        (answers 1).now row (repaymentsOf w row.id)).bind fun _ => heartbeat).Meets answering
          (fun _ => Turned rate (answers 1).now (repaymentsOf w) w (order (activeLoans w)))
          (fun _ _ => False) w := by
      rw [Proc.meets_bind]
      apply (loop_turned nodup fun row member => (perm _).mem_iff.mp member).imp
      · exact fun _ t here => redisGet_answers here
      · exact fun _ _ h => h
    obtain ⟨_, _, ended⟩ := turned.exec (fun _ => rfl) trivial ran' fun e member =>
      later e (List.mem_cons_of_mem _ member)
    unfold Finished.Ends at ended
    split at ended
    · exact ended
    · exact ended.elim

/-- `restoreFromBadLiquidation` throws, and where its read succeeds, for the rate. -/
def Refused (loanId : Nat) (u : World) : Prop :=
  ∀ i : Answer, ∃ e, (restoreFromBadLiquidation loanId).exec [i] u =
      some ⟨.error e, u, [⟨.read, i, u, u⟩]⟩ ∧
    (i.fails = false → ∃ actual creation floor, e = .liquidationNotBadRate actual creation floor)

/-- What a cycle did with each candidate, and with every other loan. -/
structure Decided (sellOf : String → Option Decimal) (stale price : Option String) (asOf : Time)
    (w w' : World) : Prop where
  liquidates : ∀ row ∈ activeLoans w, (w'.loans[row.id]?).map (·.status) = some .liquidated ↔
    ∃ rate, UsableRate sellOf stale price rate ∧ Due rate row.loan (repaymentsOf w row.id) asOf
  others : ∀ loanId, (∀ row ∈ activeLoans w, row.id = loanId →
    (w'.loans[row.id]?).map (·.status) ≠ some .liquidated) → w'.loans[loanId]? = w.loans[loanId]?
  refused : ∀ row ∈ activeLoans w, (w'.loans[row.id]?).map (·.status) = some .liquidated →
    ∀ u : World, u.loans[row.id]? = w'.loans[row.id]? → Refused row.id u

theorem UsableRate.unique {sellOf : String → Option Decimal} {stale price : Option String}
    {rate rate' : ℚ} (usable : UsableRate sellOf stale price rate)
    (usable' : UsableRate sellOf stale price rate') : rate = rate' := by
  obtain ⟨raw, here, _, sell⟩ := usable.read
  obtain ⟨raw', here', _, sell'⟩ := usable'.read
  obtain rfl := Option.some.inj (here.symm.trans here')
  rw [sell] at sell'
  exact Decimal.finite.inj (Option.some.inj sell')

theorem restore_refused {loanId : Nat} {rate : ℚ} {now : Time} {loan : Loan} {u : World}
    (credible : minLiquidationRateFraction * loan.satNgnRateAtCreation ≤ rate)
    (found : u.loans[loanId]? = some (liquidated rate now loan)) : Refused loanId u := by
  intro i
  cases fails : i.fails with
  | true =>
    refine ⟨.unavailable, ?_, by simp⟩
    simp [restoreFromBadLiquidation, query, queryAs, Proc.access, Proc.bind, Proc.exec, fails,
      Proc.ofExcept]
  | false =>
    rw [mul_comm] at credible
    have good : isBadRate (liquidated rate now loan) = false := by
      simp [isBadRate, liquidated, not_lt.mpr credible]
    have status : (liquidated rate now loan).status = .liquidated := rfl
    refine ⟨.liquidationNotBadRate
      ((liquidated rate now loan).liquidationRateActual.map (toFixed 6))
      (toFixed 6 (liquidated rate now loan).satNgnRateAtCreation)
      (toFixed 6 ((liquidated rate now loan).satNgnRateAtCreation * minLiquidationRateFraction)),
      ?_, fun _ => ⟨_, _, _, rfl⟩⟩
    simp only [restoreFromBadLiquidation, query, queryAs, Proc.access, Proc.bind, Proc.exec, fails,
      found, Proc.ofExcept, status, good, if_true, Bool.false_eq_true, if_false, ne_eq,
      not_true_eq_false, Bool.not_false, Option.map_some]

theorem decided_of_unusable {sellOf : String → Option Decimal} {stale price : Option String}
    {asOf : Time} {w w' : World} (unusable : ∀ rate, ¬ UsableRate sellOf stale price rate)
    (same : w'.loans = w.loans) : Decided sellOf stale price asOf w w' := by
  have active (row : ActiveLoanRow) (member : row ∈ activeLoans w) :
      (w'.loans[row.id]?).map (·.status) ≠ some .liquidated := by
    obtain ⟨found, status, _⟩ := mem_activeLoans.mp member
    simp [same, found, status]
  refine ⟨fun row member => ?_, fun loanId _ => by rw [same], fun row member is => ?_⟩
  · exact iff_of_false (active row member) fun ⟨rate, usable, _⟩ => unusable rate usable
  · exact absurd is (active row member)

theorem decided_of_turned {sellOf : String → Option Decimal} {stale price : Option String}
    {asOf : Time} {rate : ℚ} {rows : List ActiveLoanRow} {w w' : World}
    (usable : UsableRate sellOf stale price rate) (candidates : rows.Perm (activeLoans w))
    (principals : ∀ loan ∈ w.loans, 0 ≤ loan.principalNgn)
    (turned : Turned rate asOf (repaymentsOf w) w rows w') :
    Decided sellOf stale price asOf w w' := by
  have due (row : ActiveLoanRow) (member : row ∈ activeLoans w) :
      shouldLiquidate rate row.loan (repaymentsOf w row.id) asOf = true ↔
        Due rate row.loan (repaymentsOf w row.id) asOf :=
    shouldLiquidate_iff_due (principals _ (List.mem_of_getElem? (mem_activeLoans.mp member).1))
  have spared (row : ActiveLoanRow) (member : row ∈ activeLoans w)
      (decided : shouldLiquidate rate row.loan (repaymentsOf w row.id) asOf = false) :
      w'.loans[row.id]? = some row.loan := by
    refine (turned.spared row.id fun other inside same => ?_).trans (mem_activeLoans.mp member).1
    obtain rfl := eq_of_id (candidates.mem_iff.mp inside) member same
    exact decided
  have moved (row : ActiveLoanRow) (member : row ∈ activeLoans w) :
      (w'.loans[row.id]?).map (·.status) = some .liquidated ↔
        shouldLiquidate rate row.loan (repaymentsOf w row.id) asOf = true := by
    cases decided : shouldLiquidate rate row.loan (repaymentsOf w row.id) asOf with
    | false => simp [spared row member decided, (mem_activeLoans.mp member).2.1]
    | true =>
      obtain ⟨now, found⟩ := turned.seized row (candidates.mem_iff.mpr member) decided
      simp [found, liquidated]
  refine ⟨fun row member => ?_, fun loanId none => ?_, fun row member is u same => ?_⟩
  · rw [moved row member, due row member]
    constructor
    · exact fun here => ⟨rate, usable, here⟩
    · rintro ⟨rate', usable', here⟩
      exact usable.unique usable' ▸ here
  · apply turned.spared
    intro row inside at_
    have member := candidates.mem_iff.mp inside
    exact Bool.not_eq_true _ ▸ mt (moved row member).mpr (none row member at_)
  · have decided := (moved row member).mp is
    obtain ⟨now, found⟩ := turned.seized row (candidates.mem_iff.mpr member) decided
    exact restore_refused ((due row member).mp decided).credible (same.trans found)

theorem truthy_eq_none {text : Option String} : truthy text = none ↔ text = none ∨ text = some "" := by
  cases text <;> simp [truthy, Option.filter]

theorem truthy_eq_some {text : Option String} {raw : String} :
    truthy text = some raw ↔ text = some raw ∧ raw ≠ "" := by
  cases text with
  | none => simp [truthy]
  | some value =>
    simp only [truthy, Option.filter_eq_some_iff, Option.some.injEq, decide_eq_true_eq]

section Cycle
variable (tid : Nat) (sellOf : String → Option Decimal) (sendEmail : Bool)
  {order : List ActiveLoanRow → List ActiveLoanRow}

/-- Answers 0, 1 and 3 are the flag, the price, and the read of the repayments. -/
theorem cycle_decides (perm : ∀ rows, (order rows).Perm rows) {answers : Nat → Answer} {w : World}
    (principals : ∀ loan ∈ w.loans, 0 ≤ loan.principalNgn) {n : Nat}
    {f : Finished World Answer Access AppError Unit}
    (done : (runLiquidationCycle tid sellOf sendEmail order).exec ((List.range n).map answers) w =
      some f) (succeeds : ∀ e ∈ f.trace, Succeeds e) :
    Decided sellOf (answers 0).priceStale (answers 1).price (answers 3).now w f.state := by
  obtain ⟨_, rest, tail, split, ran, rfl⟩ := exec_redisGet done succeeds
  obtain ⟨rfl, m, rfl⟩ := cons_of_range_map split
  have later : ∀ e ∈ tail.trace, Succeeds e := fun e member =>
    succeeds e (List.mem_cons_of_mem _ member)
  split at ran
  · rename_i flagged
    have same : tail.state = w := heartbeat_looks.exec ran
    refine decided_of_unusable (fun rate usable => ?_) (congrArg World.loans same)
    rw [truthy_eq_none.mpr usable.fresh] at flagged
    cases flagged
  · rename_i fresh
    obtain ⟨_, rest, tail', split', ran', rfl⟩ := exec_redisGet ran later
    obtain ⟨rfl, m', rfl⟩ := cons_of_range_map split'
    have later' : ∀ e ∈ tail'.trace, Succeeds e := fun e member =>
      later e (List.mem_cons_of_mem _ member)
    have unusable (same : tail'.state = w) (none : ∀ rate, 0 < rate → ∀ raw,
        truthy (answers 1).price = some raw → sellOf raw ≠ some (.finite rate)) :
        Decided sellOf (answers 0).priceStale (answers 1).price (answers 3).now w tail'.state := by
      refine decided_of_unusable (fun rate usable => ?_) (congrArg _ same)
      obtain ⟨raw, here, text, sell⟩ := usable.read
      exact none rate usable.positive raw (truthy_eq_some.mpr ⟨here, text⟩) sell
    split at ran'
    · rename_i missing
      exact unusable (heartbeat_looks.exec ran') fun _ _ raw here => by simp [missing] at here
    · rename_i raw present
      have read (raw' : String) (here : truthy (answers 1).price = some raw') : raw' = raw :=
        Option.some.inj (here.symm.trans present)
      split at ran'
      · rename_i unreadable
        refine unusable (heartbeat_looks.exec ran') fun _ _ raw' here => ?_
        simp [read raw' here, unreadable]
      · rename_i rate sell
        split at ran'
        · rename_i nonpositive
          refine unusable ((redisSet_looks.bind fun _ => heartbeat_looks).exec ran')
            fun rate' positive raw' here => ?_
          rw [read raw' here, sell]
          rintro ⟨⟩
          exact absurd positive (not_lt.mpr nonpositive)
        · rename_i positive
          obtain ⟨here, text⟩ := truthy_eq_some.mp present
          exact decided_of_turned
            ⟨truthy_eq_none.mp fresh, ⟨raw, here, text, sell⟩, not_le.mp positive⟩ (perm _)
            principals (checkLoans_turned perm ran' later')
      · rename_i value notFinite sell
        refine unusable ((redisSet_looks.bind fun _ => heartbeat_looks).exec ran')
          fun rate' _ raw' here => ?_
        rw [read raw' here, sell]
        rintro ⟨⟩
        exact notFinite rate' rfl

/-- A cycle ends, and where Redis and the database answered it liquidated exactly the
candidates whose condition holds; ops cannot take such a liquidation back. -/
theorem liquidated_iff_due (perm : ∀ rows, (order rows).Perm rows) (answers : Nat → Answer)
    {w : World} (principals : ∀ loan ∈ w.loans, 0 ≤ loan.principalNgn) :
    let cycle := runLiquidationCycle tid sellOf sendEmail order;
    (∃ n f, cycle.exec ((List.range n).map answers) w = some f) ∧
    ∀ n f, cycle.exec ((List.range n).map answers) w = some f → (∀ e ∈ f.trace, Succeeds e) →
      Decided sellOf (answers 0).priceStale (answers 1).price (answers 3).now w f.state :=
  ⟨(cycle_unblocked tid sellOf sendEmail perm w).ends rfl answers,
    fun _ _ done succeeds => cycle_decides tid sellOf sendEmail perm principals done succeeds⟩

end Cycle

def sampleLoan (collateralAmountSat : Nat) : Loan where
  userId := 0
  disbursementAccountId := 0
  collateralAmountSat := collateralAmountSat
  principalNgn := 100000
  satNgnRateAtCreation := 3 / 5
  status := .active
  collateralReceivedAt := some 5

def sampleWorld : World where
  loans := [sampleLoan 250000, sampleLoan 500000]

def sampleAnswers (k : Nat) : Answer := if k = 1 then { price := some "0.4" } else { now := 6 }

def sampleCycle : Action Unit := runLiquidationCycle 0 (fun _ => some (.finite (2 / 5))) false id

theorem liquidated_iff_due_sample :
    ∃ f, sampleCycle.exec ((List.range 7).map sampleAnswers) sampleWorld = some f ∧
      f.state.loans.map (·.status) = [.liquidated, .active] ∧
      Decided (fun _ => some (.finite (2 / 5))) none (some "0.4") 6 sampleWorld f.state := by
  have ran : (sampleCycle.exec ((List.range 7).map sampleAnswers) sampleWorld).any
      (fun f => decide (f.state.loans.map (·.status) = [.liquidated, .active] ∧
        ∀ e ∈ f.trace, e.answer.fails = false ∧ e.answer.lost = false)) = true := by
    decide +kernel
  obtain ⟨f, done, checked⟩ := (Option.any_eq_true _ _).mp ran
  obtain ⟨statuses, answered⟩ := of_decide_eq_true checked
  have succeeds : ∀ e ∈ f.trace, Succeeds e := by
    intro e member
    unfold Succeeds
    split
    · trivial
    · trivial
    · exact answered e member
  exact ⟨f, done, statuses, (liquidated_iff_due 0 _ false (fun _ => .rfl) sampleAnswers
    (by decide)).2 7 f done succeeds⟩

end Bitmonie.LiquidationDecision
