import Bitmonie.LiquidationMonitor

/-! Cycles of the liquidation monitor that overlap. The row locks of the candidate query
end with its statement and the write that follows does not look at the status again, so
one seizure a loan holds exactly when each liquidation finds its loan still ACTIVE. -/
namespace Bitmonie.CollateralSeizure
open LiquidationMonitor

structure Cycle where
  sellOf : String → Option Decimal
  sendEmail : Bool
  order : List ActiveLoanRow → List ActiveLoanRow

def procedure (tid : Nat) (cycle : Cycle) : Action Unit :=
  runLiquidationCycle tid cycle.sellOf cycle.sendEmail cycle.order

def liquidations (loanId : Nat) (w : World) : Nat :=
  w.statusLogs.countP fun log => log.loanId = loanId ∧ log.toStatus = .liquidated

/-- At most one move to LIQUIDATED and one swap for each loan since `w₀`. -/
def SeizedOnce (w₀ w : World) : Prop :=
  ∀ loanId, liquidations loanId w ≤ liquidations loanId w₀ + 1 ∧
    w.swaps loanId ≤ w₀.swaps loanId + 1

/-- A liquidation that takes effect finds its loan ACTIVE. -/
def stillActive : Access → Answer → World → Bool
  | .loanStatus loanId _ .liquidated, i, w =>
    i.fails || (w.loans[loanId]?).all (·.status = .active)
  | _, _, _ => true

def pending (loanId : Nat) (w : World) : Nat := if (w.seizing loanId).isSome then 1 else 0

/-- A loan that is still ACTIVE was not touched; one that is not was seized once, its swap
made or still to come. -/
structure Once (w₀ : World) (loanId : Nat) (w : World) : Prop where
  logged : liquidations loanId w ≤ liquidations loanId w₀ + 1
  swapped : w.swaps loanId + pending loanId w ≤ w₀.swaps loanId + 1
  untouched : ∀ loan ∈ w.loans[loanId]?, loan.status = .active →
    liquidations loanId w ≤ liquidations loanId w₀ ∧ w.swaps loanId ≤ w₀.swaps loanId ∧
      w.seizing loanId = none

/-- Others leave the swaps that `tid` still has to make to it. -/
abbrev SwapsHeld : Nat → World → World → Prop := Owned World.seizing fun _ _ => ()

def onceOnly (w₀ : World) : Discipline World Answer Access where
  inv w := ∀ loanId, Once w₀ loanId w
  allowed label i w := stillActive label i w = true
  fresh tid w := ∀ loanId, w.seizing loanId ≠ some tid
  rely := SwapsHeld
  guar tid _ _ s t := ∀ other, tid ≠ other → SwapsHeld other s t

theorem onceOnly_sound (w₀ : World) : (onceOnly w₀).Sound where
  refl := Owned.refl
  trans _ _ _ _ := Owned.trans
  compatible _ other _ _ _ _ different _ guar := guar other different
  fresh _ _ _ rely unheld loanId := rely.unheld loanId (unheld loanId)

theorem Once.start {w₀ : World} (idle : ∀ loanId, w₀.seizing loanId = none) (loanId : Nat) :
    Once w₀ loanId w₀ := by
  refine ⟨by omega, ?_, fun _ _ _ => ⟨le_rfl, le_rfl, idle loanId⟩⟩
  simp [pending, idle loanId]

theorem Once.of_eq {w₀ s t : World} {loanId : Nat} (once : Once w₀ loanId s)
    (loan : t.loans[loanId]? = s.loans[loanId]?)
    (logs : liquidations loanId t = liquidations loanId s)
    (swaps : t.swaps loanId = s.swaps loanId) (seizing : t.seizing loanId = s.seizing loanId) :
    Once w₀ loanId t := by
  refine ⟨logs ▸ once.logged, ?_, ?_⟩
  · simpa only [pending, swaps, seizing] using once.swapped
  · simpa only [loan, logs, swaps, seizing] using once.untouched

theorem liquidations_concat (loanId : Nat) (w : World) (log : LoanStatusLog) :
    liquidations loanId { w with statusLogs := w.statusLogs ++ [log] } =
      liquidations loanId w + if log.loanId = loanId ∧ log.toStatus = .liquidated then 1 else 0 := by
  simp [liquidations, List.countP_append]

/-- The step of a liquidation: the loan leaves ACTIVE, and its swap is still to come. -/
theorem Once.liquidate {w₀ s : World} {loanId tid : Nat} {stored row : Loan}
    {log : LoanStatusLog} (once : Once w₀ loanId s) (found : s.loans[loanId]? = some stored)
    (active : stored.status = .active) (moved : row.status ≠ .active) :
    Once w₀ loanId { s with
      loans := s.loans.set loanId row
      statusLogs := s.statusLogs ++ [log]
      seizing := Function.update s.seizing loanId (some tid) } := by
  obtain ⟨logs, swaps, _⟩ := once.untouched stored found active
  refine ⟨?_, ?_, fun loan present is => ?_⟩
  · have grown := liquidations_concat loanId s log
    have count : liquidations loanId s + (if log.loanId = loanId ∧ log.toStatus = .liquidated
        then 1 else 0) ≤ liquidations loanId w₀ + 1 := by
      split <;> omega
    exact grown ▸ count
  · simpa [pending] using swaps
  · obtain rfl := Option.some.inj ((getElem?_set_of_eq found).symm.trans present)
    exact absurd is moved

/-- The step of a swap: it was still to come, and is made. -/
theorem Once.swap {w₀ s : World} {loanId tid : Nat} (once : Once w₀ loanId s)
    (mine : s.seizing loanId = some tid) :
    Once w₀ loanId { s with
      swaps := Function.update s.swaps loanId (s.swaps loanId + 1)
      seizing := Function.update s.seizing loanId none } := by
  refine ⟨once.logged, ?_, fun loan found active => ?_⟩
  · simpa [pending, mine] using once.swapped
  · have idle := (once.untouched loan found active).2.2
    rw [mine] at idle
    cases idle

section Cycle
variable {w₀ : World} {tid : Nat}

abbrev contract (w₀ : World) (tid : Nat) : Contract World Answer Access :=
  (onceOnly w₀).contract tid

theorem still (label : Access) (i : Answer) (w : World) : (contract w₀ tid).guar label i w w :=
  fun other _ => Owned.refl other w

/-- The commit leaves the swap to `tid`; where it throws, nobody makes the swap. -/
theorem liquidateLoan_keeps {row : ActiveLoanRow} {rate : ℚ} {w : World} :
    (liquidateLoan tid row rate).Meets (contract w₀ tid)
      (fun _ t => t.seizing row.id = some tid) (fun _ _ => True) w := by
  apply commit_meets
  intro s _ inv _ i allowed
  refine ⟨still _ i s, fun _ => trivial, fun _ _ => trivial, fun _ t succeeds done => ?_⟩
  obtain ⟨v, wrote, -, rfl⟩ := map_pair_ok.mp done
  obtain ⟨stored, log, found, about, _, rfl⟩ := writeLiquidation_ok wrote
  have active : stored.status = .active := by
    change stillActive (.loanStatus row.id .active .liquidated) i s = true at allowed
    simpa [stillActive, succeeds, found] using allowed
  have idle := ((inv row.id).untouched stored found active).2.2
  refine ⟨fun loanId => ?_, fun other different => ?_, fun _ => by simp, fun _ => trivial⟩
  · by_cases same : loanId = row.id
    · subst same
      exact (inv row.id).liquidate found active (by simp [liquidated])
    · have elsewhere : log.loanId ≠ loanId := fun is => same (is.symm.trans about)
      have logs := liquidations_concat loanId s log
      rw [if_neg (fun both => elsewhere both.1)] at logs
      exact (inv loanId).of_eq (List.getElem?_set_ne (Ne.symm same)) logs rfl (by simp [same])
  · refine .of_key row.id (fun loanId elsewhere => ⟨by simp [elsewhere], rfl⟩) (by simp [idle]) ?_
    simpa using different

theorem swapBtcToUsd_keeps {loanId : Nat} {w : World} (mine : w.seizing loanId = some tid) :
    (swapBtcToUsd loanId).Meets (contract w₀ tid) (fun _ _ => True) (fun _ _ => True) w := by
  rw [swapBtcToUsd, Proc.meets_access]
  intro s moved inv _ i _
  have held := (moved.kept loanId mine).1
  refine ⟨fun other => ?_, fun other different => ?_, ?_⟩
  · by_cases same : other = loanId
    · subst same
      exact (inv other).swap held
    · exact (inv other).of_eq rfl rfl (by simp [same]) (by simp [same])
  · refine .of_key loanId (fun key elsewhere => ⟨by simp [elsewhere], rfl⟩) ?_ (by simp)
    rw [held]
    exact fun same => different (Option.some.inj same)
  · cases i.fails || i.lost <;> trivial

theorem procedure_keeps (cycle : Cycle) (w : World) :
    (procedure tid cycle).Meets (contract w₀ tid) (fun _ _ => True) (fun _ _ => True) w := by
  apply runLiquidationCycle_meets (fun _ => True) (fun _ _ => True)
  · exact fun label i t _ => still label i t
  · exact fun _ _ _ h => h
  · exact fun _ _ _ _ h => h
  · exact fun _ _ h => h
  · intro _ row _ rate t _
    rw [seizeCollateral, Proc.meets_catching, Proc.meets_bind]
    apply liquidateLoan_keeps.imp
    · intro _ u mine
      rw [Proc.meets_catching]
      exact (swapBtcToUsd_keeps mine).imp (fun _ _ h => h) fun _ _ h => h
    · exact fun _ _ h => h
  · trivial

end Cycle

/-- Where every liquidation finds its loan ACTIVE, each loan is liquidated and its
collateral swapped at most once. -/
theorem collateral_seized_once {w₀ : World} {trace : List (Nat × Event World Answer Access)}
    {c : Config World Answer Access AppError Unit} (idle : ∀ loanId, w₀.seizing loanId = none)
    (run : Runs procedure w₀ trace c)
    (found : ∀ e ∈ trace, stillActive e.2.label e.2.answer e.2.before = true) :
    SeizedOnce w₀ c.shared := by
  have held := run.holds (onceOnly_sound w₀) (fun _ _ _ _ _ h => h) (fun _ _ _ _ _ h => h)
    (Once.start idle) (fun tid loanId => by simp [idle loanId])
    (fun tid cycle w _ _ => procedure_keeps cycle w) found
  intro loanId
  have once := held.inv loanId
  have swapped := once.swapped
  exact ⟨once.logged, by omega⟩

/-- ACTIVE since the instant 5; worth 100000 naira at 2/5, and that is owed. -/
def activeLoan : Loan where
  userId := 0
  disbursementAccountId := 0
  collateralAmountSat := 250000
  principalNgn := 100000
  satNgnRateAtCreation := 3 / 5
  status := .active
  collateralReceivedAt := some 5

def oneActiveLoan : World where
  loans := [activeLoan]

def cycleAt (rate : ℚ) : Cycle := ⟨fun _ => some (.finite rate), false, id⟩

/-- Two monitors: each has read the candidates before the other one writes. -/
def overlappingCycles : List (Choice Cycle Answer) :=
  [.start (cycleAt (2 / 5)), .start (cycleAt (2 / 5)),
    .run 0 {}, .run 0 { price := some "0.4" }, .run 0 {}, .run 0 { now := 6 },
    .run 1 {}, .run 1 { price := some "0.4" }, .run 1 {}, .run 1 { now := 6 },
    .run 0 { now := 7 }, .run 0 {}, .run 1 { now := 7 }, .run 1 {}]

theorem collateral_seized_twice : ∃ trace c, Runs procedure oneActiveLoan trace c ∧
    ¬ SeizedOnce oneActiveLoan c.shared := by
  have played := exists_run procedure oneActiveLoan overlappingCycles
    (fun _ c => decide (liquidations 0 c.shared = 2 ∧ c.shared.swaps 0 = 2)) (by decide +kernel)
  obtain ⟨trace, c, run, checked⟩ := played
  obtain ⟨_, swaps⟩ := of_decide_eq_true checked
  refine ⟨trace, c, run, fun once => ?_⟩
  have bound := (once 0).2
  rw [swaps] at bound
  exact absurd bound (by decide)

def consecutiveCycles : List (Choice Cycle Answer) :=
  [.start (cycleAt (2 / 5)), .start (cycleAt (2 / 5)),
    .run 0 {}, .run 0 { price := some "0.4" }, .run 0 {}, .run 0 { now := 6 },
    .run 0 { now := 7 }, .run 0 {}, .run 0 {},
    .run 1 {}, .run 1 { price := some "0.4" }, .run 1 {}, .run 1 {}]

theorem collateral_seized_once_consecutive : ∃ trace c, Runs procedure oneActiveLoan trace c ∧
    c.shared.swaps 0 = 1 ∧ SeizedOnce oneActiveLoan c.shared := by
  have played := exists_run procedure oneActiveLoan consecutiveCycles
    (fun trace c => decide (c.shared.swaps 0 = 1 ∧
      ∀ e ∈ trace, stillActive e.2.label e.2.answer e.2.before = true)) (by decide +kernel)
  obtain ⟨trace, c, run, checked⟩ := played
  obtain ⟨swapped, found⟩ := of_decide_eq_true checked
  exact ⟨trace, c, run, swapped, collateral_seized_once (fun _ => rfl) run found⟩

end Bitmonie.CollateralSeizure
