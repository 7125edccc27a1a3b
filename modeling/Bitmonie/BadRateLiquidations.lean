import Bitmonie.ActivePayout
import Bitmonie.LiquidationDecision
import Bitmonie.StatusInterleaving

/-! Liquidations at a broken rate, and the two ways back from one: the call of ops and the
script. The monitor keeps to each loan's own floor, so what it liquidates is never taken back. -/
namespace Bitmonie.RestoreBadRateLiquidations
open LoanStatusService LoansService LoanExpiryWorker LiquidationMonitor LiquidationDecision
  OpsLoansService ActivePayout

structure CliArgs where
  applying : Bool
  force : Bool
  limit : Option ℕ+
  loanIds : List Nat

/-- Earlier, where a row without a time comes last. -/
def noLater : Option Time → Option Time → Bool
  | _, none => true
  | none, some _ => false
  | some a, some b => a ≤ b

/-- A missing rate counts as bad. -/
def findAffected (loanIds : List Nat) (rows : RowOrder (Nat × Loan)) (w : World) :
    List (Nat × Loan) :=
  let liquidatedLoans := findRows w.loans fun loan => loan.status = .liquidated
  ((rows.order (liquidatedLoans.filter fun row => loanIds = [] ∨ row.1 ∈ loanIds)).mergeSort
    fun a b => noLater a.2.liquidatedAt b.2.liquidatedAt).filter fun row => isBadRate row.2

def restoreOne (row : Nat × Loan) : Action Unit :=
  commit (.loanStatus row.1 .liquidated .active) (loanFree row.1) fun _ w =>
    (writeRestoration row.1 row.2 w).map ((), ·)

def restoreEach : List (Nat × Loan) → Action (List Nat × List (Nat × AppError))
  | [] => .pure ([], [])
  | row :: rest =>
    (restoreOne row).attempt.bind fun done =>
    (restoreEach rest).bind fun later =>
    match done with
    | .ok _ => .pure (row.1 :: later.1, later.2)
    | .error e => .pure (later.1, (row.1, e) :: later.2)

inductive Outcome where
  | noneAffected
  | dryRun (announced : List Nat)
  | aborted (announced : List Nat)
  | applied (announced restored : List Nat) (failures : List (Nat × AppError))

def Outcome.exitCode : Outcome → Nat
  | .applied _ _ (_ :: _) => 1
  | _ => 0

def batchOf (args : CliArgs) (affected : List (Nat × Loan)) : List (Nat × Loan) :=
  match args.limit with
  | none => affected
  | some limit => affected.take limit

/-- `confirmed` is what is typed at the prompt. -/
def main (args : CliArgs) (rows : RowOrder (Nat × Loan)) (confirmed : Bool) : Action Outcome :=
  (query fun _ w => .ok (findAffected args.loanIds rows w)).bind fun affected =>
  if affected = [] then .pure .noneAffected
  else
    let announced := (batchOf args affected).map Prod.fst
    if !args.applying then .pure (.dryRun announced)
    else if !args.force && !confirmed then .pure (.aborted announced)
    else
      (restoreEach (batchOf args affected)).bind fun done =>
      .pure (.applied announced done.1 done.2)

theorem mem_findAffected {loanIds : List Nat} {rows : RowOrder (Nat × Loan)} {w : World} {id : Nat}
    {loan : Loan} : (id, loan) ∈ findAffected loanIds rows w ↔
      w.loans[id]? = some loan ∧ loan.status = .liquidated ∧ isBadRate loan = true ∧
        (loanIds = [] ∨ id ∈ loanIds) := by
  simp only [findAffected, List.mem_filter, List.mem_mergeSort, (rows.perm _).mem_iff,
    mem_findRows, decide_eq_true_eq]
  tauto

def Sane (w : World) : Prop :=
  ∀ (id : Nat) (loan : Loan), w.loans[id]? = some loan → loan.status = .liquidated →
    isBadRate loan = false

/-- What is not a liquidation leaves the rates of a loan, and makes none liquidated. -/
structure Follows (before after : Loan) : Prop where
  creation : after.satNgnRateAtCreation = before.satNgnRateAtCreation
  recorded : after.status = .liquidated → before.status = .liquidated ∧
    after.liquidationRateActual = before.liquidationRateActual

def Rewrites (before after : List Loan) : Prop :=
  ∀ id : Nat, (before[id]? = none ∧ after[id]? = none) ∨
    ∃ loan loan', before[id]? = some loan ∧ after[id]? = some loan' ∧ Follows loan loan'

theorem Follows.refl (loan : Loan) : Follows loan loan := ⟨rfl, fun here => ⟨here, rfl⟩⟩

theorem Rewrites.refl (loans : List Loan) : Rewrites loans loans := by
  intro id
  cases found : loans[id]? with
  | none => exact .inl ⟨rfl, rfl⟩
  | some loan => exact .inr ⟨loan, loan, rfl, rfl, .refl loan⟩

theorem Rewrites.trans {a b c : List Loan} (first : Rewrites a b) (second : Rewrites b c) :
    Rewrites a c := by
  intro id
  rcases first id with ⟨none, none'⟩ | ⟨loan, loan', found, found', follows⟩
  · rcases second id with ⟨-, gone⟩ | ⟨_, _, there, -⟩
    · exact .inl ⟨none, gone⟩
    · rw [none'] at there
      cases there
  · rcases second id with ⟨gone, -⟩ | ⟨mid, last, there, there', follows'⟩
    · rw [found'] at gone
      cases gone
    · obtain rfl := Option.some.inj (found'.symm.trans there)
      refine .inr ⟨loan, last, found, there', follows'.creation.trans follows.creation, fun ended => ?_⟩
      obtain ⟨here, same⟩ := follows'.recorded ended
      obtain ⟨before, same'⟩ := follows.recorded here
      exact ⟨before, same.trans same'⟩

theorem Rewrites.set {loans : List Loan} {id : Nat} {loan loan' : Loan}
    (found : loans[id]? = some loan) (follows : Follows loan loan') :
    Rewrites loans (loans.set id loan') := by
  intro other
  by_cases here : id = other
  · subst here
    exact .inr ⟨loan, loan', found, getElem?_set_of_eq found, follows⟩
  · rw [List.getElem?_set_ne here]
    exact Rewrites.refl loans other

theorem updateStatus_rewrites {params : TransitionParams} {loans loans' : List Loan}
    (done : updateStatus params loans = .ok loans') (leaves : params.toStatus ≠ .liquidated) :
    Rewrites loans loans' := by
  unfold updateStatus at done
  split at done
  · obtain rfl := Except.ok.inj done
    exact .refl loans
  · obtain ⟨_, _, done⟩ := bind_ok.mp done
    split at done
    · obtain ⟨row, found, rfl⟩ := updateRow_ok.mp done
      exact .set found ⟨rfl, fun ended => absurd ended leaves⟩
    · obtain rfl := Except.ok.inj done
      exact .refl loans

theorem transition_rewrites {params : TransitionParams} {w w' : World}
    (done : transition params w = .ok w') (leaves : params.toStatus ≠ .liquidated) :
    Rewrites w.loans w'.loans := by
  obtain ⟨loans, updated, rfl⟩ := transition_ok done
  exact updateStatus_rewrites updated leaves

def KeepsRates (s t : World) : Prop :=
  ∀ (id : Nat) (loan : Loan), s.loans[id]? = some loan →
    ∃ loan' : Loan, t.loans[id]? = some loan' ∧
      loan'.satNgnRateAtCreation = loan.satNgnRateAtCreation

theorem Rewrites.keepsRates {s t : World} (rewrites : Rewrites s.loans t.loans) : KeepsRates s t := by
  intro id loan found
  rcases rewrites id with ⟨none, -⟩ | ⟨before, after, there, there', follows⟩
  · rw [found] at none
    cases none
  · obtain rfl := Option.some.inj (found.symm.trans there)
    exact ⟨after, there', follows.creation⟩

theorem Rewrites.sane {s t : World} (rewrites : Rewrites s.loans t.loans) (sane : Sane s) :
    Sane t := by
  intro id loan found ended
  rcases rewrites id with ⟨-, none⟩ | ⟨before, after, there, there', follows⟩
  · rw [found] at none
    cases none
  · obtain rfl := Option.some.inj (found.symm.trans there')
    obtain ⟨here, same⟩ := follows.recorded ended
    simpa [isBadRate, same, follows.creation] using sane id before there here

theorem KeepsRates.refl (w : World) : KeepsRates w w := fun _ loan found => ⟨loan, found, rfl⟩

theorem KeepsRates.trans {r s t : World} (first : KeepsRates r s) (second : KeepsRates s t) :
    KeepsRates r t := by
  intro id loan found
  obtain ⟨mid, there, same⟩ := first id loan found
  obtain ⟨last, there', same'⟩ := second id mid there
  exact ⟨last, there', same'.trans same⟩

/-- Every liquidation is at a rate its loan allows, and no way back comes to its write. -/
def standing : Discipline World Answer Access where
  inv := Sane
  allowed _ _ _ := True
  fresh _ _ := True
  rely _ := KeepsRates
  guar _ label _ s t :=
    KeepsRates s t ∧ ∀ loanId, label ≠ .loanStatus loanId .liquidated .active

theorem standing_sound : standing.Sound where
  refl _ := KeepsRates.refl
  trans _ _ _ _ := KeepsRates.trans
  compatible _ _ _ _ _ _ _ _ guar := guar.1
  fresh _ _ _ _ _ := trivial

section Standing
variable {α : Type} {tid : Nat}

theorem access_stands {label : Access} {enabled : World → Bool}
    {f : Answer → World → Except AppError α × World}
    (ahead : ∀ loanId, label ≠ .loanStatus loanId .liquidated .active)
    (writes : ∀ i s, Rewrites s.loans (f i s).2.loans) :
    (Proc.access label enabled f).Complies (standing.contract tid) := by
  intro w
  rw [Proc.meets_access]
  intro s _ sane _ i _
  refine ⟨(writes i s).sane sane, ⟨(writes i s).keepsRates, ahead⟩, ?_⟩
  unfold Proc.outcome
  split <;> trivial

theorem commit_stands {label : Access} {enabled : World → Bool}
    {f : Answer → World → Except AppError (α × World)}
    (ahead : ∀ loanId, label ≠ .loanStatus loanId .liquidated .active)
    (writes : ∀ i s a t, f i s = .ok (a, t) → Rewrites s.loans t.loans) :
    (commit label enabled f).Complies (standing.contract tid) :=
  access_stands ahead fun i s =>
    by
    have here : (fun t : World => Rewrites s.loans t.loans) s := .refl s.loans
    exact committed_keeps here (writes i s)

theorem query_stands {f : Answer → World → Except AppError α} :
    (query f).Complies (standing.contract tid) := by
  refine access_stands (fun _ => by simp) fun i s => ?_
  split <;> exact .refl s.loans

theorem cancelLoan_stands (userId loanId : Nat) :
    (cancelLoan userId loanId).Complies (standing.contract tid) := by
  refine query_stands.bind fun loan => commit_stands (fun _ => by simp) fun i s _ t done => ?_
  obtain ⟨_, moved, -, rfl⟩ := map_pair_ok.mp done
  exact transition_rewrites moved (by simp [cancelTransition])

theorem activateLoan_stands (loanId : Nat) (collateralReceivedAt : Time) :
    (activateLoan loanId collateralReceivedAt).Complies (standing.contract tid) := by
  refine query_stands.bind fun loan => ?_
  split
  · exact fun _ => trivial
  · rename_i waits
    refine (commit_stands (fun _ => ?_) fun i s _ t done => ?_).bind fun _ => query_stands
    · simp [not_not.mp waits]
    obtain ⟨_, wrote, -, rfl⟩ := map_pair_ok.mp done
    obtain ⟨loans, received, moved⟩ := bind_ok.mp wrote
    obtain ⟨stored, found, rfl⟩ := updateRow_ok.mp received
    have receives : Rewrites s.loans
        (s.loans.set loanId { stored with collateralReceivedAt := some collateralReceivedAt }) :=
      .set found ⟨rfl, fun ended => ⟨ended, rfl⟩⟩
    exact receives.trans (transition_rewrites moved (by simp [activateTransition]))

theorem expireLoan_stands (row : ExpiredLoanRow) :
    (expireLoan row).Complies (standing.contract tid) := by
  refine (commit_stands (fun _ => by simp) fun i s _ t done => ?_).bind fun _ =>
    commit_stands (fun _ => by simp) fun i s _ t done => ?_
  · obtain ⟨_, wrote, -, rfl⟩ := map_pair_ok.mp done
    obtain ⟨loans, moved, wrote⟩ := bind_ok.mp wrote
    obtain ⟨requests, -, wrote⟩ := bind_ok.mp wrote
    obtain rfl := Except.ok.inj wrote
    obtain ⟨stored, found, rfl⟩ := updateRow_ok.mp moved
    exact .set found ⟨rfl, fun ended => by cases ended⟩
  · obtain ⟨_, rfl⟩ := Prod.mk.inj (Except.ok.inj done)
    exact .refl s.loans

theorem runExpiryCycle_stands (order : List ExpiredLoanRow → List ExpiredLoanRow) :
    (runExpiryCycle order).Complies (standing.contract tid) :=
  query_stands.bind fun _ => Proc.complies_each fun row =>
    (expireLoan_stands row).catching fun _ _ => trivial

/-- The candidate was read with the rate that its loan still has. -/
def Read (row : ActiveLoanRow) (w : World) : Prop :=
  ∃ loan : Loan, w.loans[row.id]? = some loan ∧
    loan.satNgnRateAtCreation = row.loan.satNgnRateAtCreation

theorem Read.kept {row : ActiveLoanRow} {s t : World} (keeps : KeepsRates s t) (read : Read row s) :
    Read row t := by
  obtain ⟨loan, found, same⟩ := read
  obtain ⟨loan', found', same'⟩ := keeps row.id loan found
  exact ⟨loan', found', same'.trans same⟩

theorem liquidated_rates {row : ActiveLoanRow} {rate : ℚ} {now : Time} {w : World} {loan : Loan}
    (found : w.loans[row.id]? = some loan)
    (same : loan.satNgnRateAtCreation = row.loan.satNgnRateAtCreation)
    (credible : rateSuspect rate row.loan = false) (sane : Sane w) {w' : World}
    (loans : w'.loans = w.loans.set row.id (liquidated rate now loan)) :
    Sane w' ∧ KeepsRates w w' := by
  constructor
  · intro id other there ended
    by_cases here : row.id = id
    · subst here
      rw [loans, getElem?_set_of_eq found] at there
      obtain rfl := Option.some.inj there
      simpa [isBadRate, liquidated, rateSuspect, same] using credible
    · rw [loans, List.getElem?_set_ne here] at there
      exact sane id other there ended
  · intro id other there
    by_cases here : row.id = id
    · subst here
      obtain rfl := Option.some.inj (found.symm.trans there)
      exact ⟨liquidated rate now loan, by rw [loans, getElem?_set_of_eq found], rfl⟩
    · exact ⟨other, by rw [loans, List.getElem?_set_ne here, there], rfl⟩

theorem liquidateLoan_stands {row : ActiveLoanRow} {rate : ℚ} {w : World} (read : Read row w)
    (credible : rateSuspect rate row.loan = false) :
    (liquidateLoan tid row rate).Meets (standing.contract tid) (fun _ _ => True)
      (fun _ _ => True) w := by
  apply commit_meets
  intro s moved sane _ i _
  have label (loanId : Nat) : Access.loanStatus row.id .active .liquidated ≠
      .loanStatus loanId .liquidated .active := by simp
  refine ⟨⟨KeepsRates.refl s, label⟩, fun _ => trivial, fun _ _ => trivial, fun _ t _ done => ?_⟩
  obtain ⟨v, wrote, -, rfl⟩ := map_pair_ok.mp done
  obtain ⟨stored, log, found, -, -, writes⟩ := writeLiquidation_ok wrote
  obtain ⟨loan, there, same⟩ := Read.kept moved read
  obtain rfl := Option.some.inj (found.symm.trans there)
  have loans : v.loans = s.loans.set row.id (liquidated rate i.now stored) := by rw [writes]
  obtain ⟨sane', keeps⟩ := liquidated_rates found same credible sane loans
  exact ⟨sane', ⟨keeps, label⟩, fun _ => trivial, fun _ => trivial⟩

theorem seizeCollateral_stands {row : ActiveLoanRow} {rate : ℚ} {w : World} (read : Read row w)
    (credible : rateSuspect rate row.loan = false) :
    (seizeCollateral tid row rate).Meets (standing.contract tid) (fun _ _ => True)
      (fun _ _ => True) w := by
  have swaps : ((swapBtcToUsd row.id).catching fun _ => .pure ()).Complies (standing.contract tid) :=
    Proc.Complies.catching (access_stands (fun _ => by simp) fun _ s => .refl s.loans)
      fun _ _ => trivial
  rw [seizeCollateral, Proc.meets_catching, Proc.meets_bind]
  exact (liquidateLoan_stands read credible).imp
    (fun _ t _ => (swaps t).imp (fun _ _ _ => trivial) fun _ _ _ => trivial) fun _ _ _ => trivial

theorem runLiquidationCycle_stands (sellOf : String → Option Decimal) (sendEmail : Bool)
    (rows : RowOrder ActiveLoanRow) :
    (runLiquidationCycle tid sellOf sendEmail rows.order).Complies (standing.contract tid) := by
  intro w
  let known (chosen _ : List ActiveLoanRow) (t : World) : Prop := ∀ row ∈ chosen, Read row t
  apply runLiquidationCycle_due (fun _ => True) known
  · intro label i t quiet
    refine ⟨KeepsRates.refl t, fun loanId same => ?_⟩
    rw [same] at quiet
    exact quiet
  · exact fun _ _ _ _ => trivial
  · exact fun _ _ s t moved reads row member => (reads row member).kept moved
  · intro t _ _ row member
    obtain ⟨found, -, -⟩ := mem_activeLoans.mp ((rows.perm _).mem_iff.mp member)
    exact ⟨row.loan, found, rfl⟩
  · exact fun _ _ _ _ reads => reads
  · rintro chosen past row rest rfl rate repayments asOf due t reads
    have credible : rateSuspect rate row.loan = false := by
      by_contra suspect
      simp [shouldLiquidate, suspect] at due
    have read := reads row (by simp)
    refine Proc.Meets.imp (Proc.Meets.frame (seizeCollateral_stands read credible) ?_ ?_ reads)
      (fun _ _ ended => ended.2) fun _ _ _ => trivial
    · exact fun s t moved reads row member => (reads row member).kept moved
    · exact fun label i s t guar reads row member => (reads row member).kept guar.1
  · trivial

theorem credit_rewrites {params : CreditParams} {loan : Loan} {credit : Credit} {createdAt : Time}
    {w w' : World} (wrote : Written params loan credit createdAt w w') :
    Rewrites w.loans w'.loans := by
  obtain ⟨inflow, stored, -, found, rfl⟩ := wrote.eq
  by_cases repaid : credit.isFullyRepaid = true
  · simp only [repaid, if_true]
    refine .set (found repaid) ?_
    rw [creditedLoan, if_pos repaid]
    exact ⟨rfl, fun ended => by cases ended⟩
  · simp only [repaid]
    exact .refl w.loans

theorem creditInflow_stands (params : CreditParams) :
    (creditInflow tid params).Complies (standing.contract tid) := by
  have floors : (Proc.ofExcept (floorCheck params) : Action Unit).Complies
      (standing.contract tid) := by
    cases floorCheck params <;> exact fun _ => trivial
  have credits : (creditBody tid params).Complies (standing.contract tid) := by
    refine query_stands.bind fun read => ?_
    cases planned : planCredit params.amountNgn read.2 read.1.1 read.1.2 with
    | error e => exact fun _ => trivial
    | ok plan =>
      cases plan with
      | none => exact fun _ => trivial
      | some credit =>
        refine (commit_stands (fun _ => by simp) fun i s _ t done => ?_).bind fun _ _ => trivial
        obtain ⟨v, wrote, -, rfl⟩ := map_pair_ok.mp done
        have rewrites := credit_rewrites (writeCredit_ok (planCredit_ok planned).1 wrote)
        exact rewrites
  have locks : (lockingLoan tid params.loanId (creditBody tid params)).Complies
      (standing.contract tid) := by
    refine (access_stands (fun _ => by simp) fun i s => ?_).bind fun _ =>
      credits.finishing (access_stands (fun _ => by simp) fun _ s => .refl s.loans)
    split
    · exact .refl s.loans
    · split <;> exact .refl s.loans
  refine floors.bind fun _ => locks.bind fun done => ?_
  cases done.2 with
  | none => exact fun _ => trivial
  | some _ => exact query_stands.bind fun _ _ => trivial

end Standing

section Refused
variable {c : Contract World Answer Access} {w : World}

/-- Ops are refused wherever every liquidation was at a rate its loan allows. -/
theorem restoreFromBadLiquidation_throws (sane : ∀ t, c.inv t → Sane t)
    (still : ∀ i t, c.guar .read i t t) (loanId : Nat) :
    (restoreFromBadLiquidation loanId).Meets c (fun _ _ => False) (fun _ _ => True) w := by
  rw [restoreFromBadLiquidation, Proc.meets_bind]
  apply query_meets
  intro t _ inv i _
  refine ⟨still i t, trivial, fun _ _ => trivial, fun loan read => ?_⟩
  split
  · trivial
  rename_i ended
  have found : t.loans[loanId]? = some loan := by
    cases stored : t.loans[loanId]? with
    | none =>
      rw [stored] at read
      cases read
    | some row =>
      rw [stored] at read
      exact congrArg some (Except.ok.inj read)
  rw [sane t inv loanId loan found (not_not.mp ended)]
  trivial

theorem findAffected_sane (sane : Sane w) (loanIds : List Nat) (rows : RowOrder (Nat × Loan)) :
    findAffected loanIds rows w = [] := by
  rw [List.eq_nil_iff_forall_not_mem]
  rintro ⟨id, loan⟩ member
  obtain ⟨found, ended, bad, -⟩ := mem_findAffected.mp member
  rw [sane id loan found ended] at bad
  cases bad

theorem main_finds_none (sane : ∀ t, c.inv t → Sane t) (still : ∀ i t, c.guar .read i t t)
    (args : CliArgs) (rows : RowOrder (Nat × Loan)) (confirmed : Bool) :
    (main args rows confirmed).Meets c (fun outcome _ => outcome = .noneAffected)
      (fun _ _ => True) w := by
  rw [main, Proc.meets_bind]
  apply query_meets
  intro t _ inv i _
  refine ⟨still i t, trivial, fun _ _ => trivial, fun affected read => ?_⟩
  obtain rfl := Except.ok.inj read
  rw [if_pos (findAffected_sane (sane t inv) args.loanIds rows)]
  rfl

end Refused

inductive Operation where
  | activateLoan (loanId : Nat) (collateralReceivedAt : Time)
  | cancelLoan (userId loanId : Nat)
  | runExpiryCycle (rows : RowOrder ExpiredLoanRow)
  | runLiquidationCycle (sellOf : String → Option Decimal) (sendEmail : Bool)
      (rows : RowOrder ActiveLoanRow)
  | creditInflow (params : CreditParams)
  | restoreFromBadLiquidation (loanId : Nat)
  | script (args : CliArgs) (rows : RowOrder (Nat × Loan)) (confirmed : Bool)

def procedure (tid : Nat) : Operation → Action Unit
  | .activateLoan loanId collateralReceivedAt => activateLoan loanId collateralReceivedAt
  | .cancelLoan userId loanId => cancelLoan userId loanId
  | .runExpiryCycle rows => runExpiryCycle rows.order
  | .runLiquidationCycle sellOf sendEmail rows => runLiquidationCycle tid sellOf sendEmail rows.order
  | .creditInflow params => (creditInflow tid params).bind fun _ => .pure ()
  | .restoreFromBadLiquidation loanId => restoreFromBadLiquidation loanId
  | .script args rows confirmed => (main args rows confirmed).bind fun _ => .pure ()

def Operation.reverses : Operation → Bool
  | .restoreFromBadLiquidation _ | .script _ _ _ => true
  | _ => false

theorem reversal_keeps {c : Contract World Answer Access} {tid : Nat} {op : Operation} {w : World}
    (sane : ∀ t, c.inv t → Sane t) (still : ∀ i t, c.guar .read i t t)
    (reverses : op.reverses = true) :
    (procedure tid op).Meets c (fun _ _ => True) (fun _ _ => True) w := by
  cases op with
  | restoreFromBadLiquidation loanId =>
    exact (restoreFromBadLiquidation_throws sane still loanId).imp (fun _ _ _ => trivial)
      fun _ _ _ => trivial
  | script args rows confirmed =>
    rw [procedure, Proc.meets_bind]
    exact (main_finds_none sane still args rows confirmed).imp (fun _ _ _ => trivial)
      fun _ _ _ => trivial
  | _ => cases reverses

theorem still_standing (tid : Nat) (i : Answer) (t : World) :
    (standing.contract tid).guar .read i t t :=
  ⟨KeepsRates.refl t, fun _ => by simp⟩

theorem procedure_stands (tid : Nat) (op : Operation) :
    (procedure tid op).Complies (standing.contract tid) := by
  cases op with
  | activateLoan loanId collateralReceivedAt => exact activateLoan_stands loanId collateralReceivedAt
  | cancelLoan userId loanId => exact cancelLoan_stands userId loanId
  | runExpiryCycle rows => exact runExpiryCycle_stands rows.order
  | runLiquidationCycle sellOf sendEmail rows =>
    exact runLiquidationCycle_stands sellOf sendEmail rows
  | creditInflow params => exact (creditInflow_stands params).bind fun _ _ => trivial
  | restoreFromBadLiquidation loanId =>
    exact fun w => reversal_keeps (fun _ sane => sane) (still_standing tid) rfl
  | script args rows confirmed =>
    exact fun w => reversal_keeps (fun _ sane => sane) (still_standing tid) rfl

/-- With both disciplines at once, the ways back still change nothing. -/
theorem procedure_keeps_both (tid : Nat) (op : Operation) (w : World) :
    (procedure tid op).Meets ((StatusInterleaving.forwardOnly.both standing).contract tid)
      (fun _ _ => True) (fun _ _ => True) w := by
  have meets (forward : StatusInterleaving.Keeps tid (procedure tid op) w) :
      (procedure tid op).Meets ((StatusInterleaving.forwardOnly.both standing).contract tid)
        (fun _ _ => True) (fun _ _ => True) w :=
    (forward.both (procedure_stands tid op w)).imp (fun _ _ _ => trivial) fun _ _ _ => trivial
  have reversal (reverses : op.reverses = true) :
      (procedure tid op).Meets ((StatusInterleaving.forwardOnly.both standing).contract tid)
        (fun _ _ => True) (fun _ _ => True) w :=
    reversal_keeps (fun _ inv => inv.2)
      (fun i t => ⟨StatusInterleaving.still tid .read i t, still_standing tid i t⟩) reverses
  cases op with
  | activateLoan loanId collateralReceivedAt =>
    exact meets (StatusInterleaving.activateLoan_keeps tid loanId collateralReceivedAt w)
  | cancelLoan userId loanId => exact meets (StatusInterleaving.cancelLoan_keeps tid userId loanId w)
  | runExpiryCycle rows => exact meets (StatusInterleaving.runExpiryCycle_keeps tid rows.order w)
  | runLiquidationCycle sellOf sendEmail rows =>
    exact meets (StatusInterleaving.runLiquidationCycle_keeps tid sellOf sendEmail rows.order w)
  | creditInflow params =>
    refine meets ?_
    rw [StatusInterleaving.Keeps, procedure, Proc.meets_bind]
    exact (StatusInterleaving.creditInflow_keeps tid params w).imp (fun _ _ _ => trivial)
      fun _ _ _ => trivial
  | restoreFromBadLiquidation loanId => exact reversal rfl
  | script args rows confirmed => exact reversal rfl

/-- Accesses that move statuses forward leave terminal ones. -/
theorem forwardOnly_of_events {w₀ : World} {trace : List (Nat × Event World Answer Access)}
    {c : Config World Answer Access AppError Unit} (run : Runs procedure w₀ trace c)
    (forward : ∀ e ∈ trace, ∀ loanId, StatusInterleaving.ForwardAt loanId e.2.before e.2.after) :
    StatusInterleaving.ForwardOnly w₀ trace c.shared := by
  refine ⟨forward, fun first rest split loanId loan found terminal => ?_⟩
  refine run.keeps (fun w : World => ∃ row : Loan, w.loans[loanId]? = some row ∧
    row.status = loan.status) ?_ split ⟨loan, found, rfl⟩
  rintro e member ⟨before, had, same⟩
  obtain ⟨after, has, moved⟩ := forward e member loanId before had
  exact ⟨after, has, (moved.terminal (same ▸ terminal)).trans same⟩

/-- Where every liquidation at the start was at a rate its loan allows, all are, neither way back
comes to its write, and statuses move forward as if neither existed. -/
theorem liquidations_stand {w₀ : World} {trace : List (Nat × Event World Answer Access)}
    {c : Config World Answer Access AppError Unit} (sane : Sane w₀)
    (run : Runs procedure w₀ trace c) :
    Sane c.shared ∧
    (∀ e ∈ trace, ∀ loanId, e.2.label ≠ .loanStatus loanId .liquidated .active) ∧
    ((∀ loanId, w₀.rowLock loanId = none) →
      (∀ e ∈ trace, StatusInterleaving.current e.2.label e.2.answer e.2.before = true) →
        StatusInterleaving.ForwardOnly w₀ trace c.shared) := by
  have stands := run.holds standing_sound (fun _ _ _ _ _ _ => trivial) (fun _ _ _ _ _ _ => trivial)
    sane (fun _ => trivial) (fun tid op w _ _ => procedure_stands tid op w) fun _ _ => trivial
  refine ⟨stands.inv, fun e member => (stands.events e member).2.2.2, fun unlocked found => ?_⟩
  have held := run.holds (StatusInterleaving.forwardOnly_sound.both standing_sound)
    (fun _ _ _ _ _ _ => trivial) (fun _ _ _ _ _ _ => trivial) ⟨trivial, sane⟩
    (fun tid => ⟨fun loanId => by simp [unlocked loanId], trivial⟩)
    (fun tid op w _ _ => procedure_keeps_both tid op w) fun e member => ⟨found e member, trivial⟩
  exact forwardOnly_of_events run fun e member => (held.events e member).2.2.1.2

/-- An activation and a liquidation at 2/5 of a loan that was created at 3/5; then ops and the
script try to take it back. -/
def refusedTwice : List (Choice Operation Answer) :=
  [.start (.activateLoan 0 5), .run 0 {}, .run 0 {},
    .start (.runLiquidationCycle (fun _ => some (.finite (2 / 5))) false
      ⟨fun rows => rows, fun _ => .refl _⟩),
    .run 1 {}, .run 1 { price := some "0.4" }, .run 1 {}, .run 1 { now := 6 }, .run 1 { now := 7 },
    .run 1 {}, .run 1 {}, .start (.restoreFromBadLiquidation 0), .run 2 {},
    .start (.script ⟨true, true, none, []⟩ ⟨id, fun _ => .refl _⟩ false), .run 3 {}]

theorem liquidations_stand_refused : ∃ trace c,
    Runs procedure StatusInterleaving.oneLoan trace c ∧
    (c.shared.loans[0]?).map (·.status) = some .liquidated ∧ Sane c.shared ∧
    StatusInterleaving.ForwardOnly StatusInterleaving.oneLoan trace c.shared := by
  have played := exists_run procedure StatusInterleaving.oneLoan refusedTwice
    (fun trace c => decide ((c.shared.loans[0]?).map (·.status) = some .liquidated ∧
      ∀ e ∈ trace, StatusInterleaving.current e.2.label e.2.answer e.2.before = true))
    (by decide +kernel)
  obtain ⟨trace, c, run, checked⟩ := played
  obtain ⟨ended, found⟩ := of_decide_eq_true checked
  have sane : Sane StatusInterleaving.oneLoan := by
    intro id loan here status
    obtain ⟨rfl, rfl⟩ : id = 0 ∧ StatusInterleaving.pendingLoan = loan := by
      cases id with
      | zero => exact ⟨rfl, Option.some.inj here⟩
      | succ n => cases here
    cases status
  obtain ⟨stands, -, forward⟩ := liquidations_stand sane run
  exact ⟨trace, c, run, ended, stands, forward (fun _ => rfl) found⟩

def restoredLoan (loan : Loan) : Loan :=
  { loan with status := .active, liquidatedAt := none, liquidationRateActual := none }

def restorationLog (row : Nat × Loan) : LoanStatusLog :=
  ⟨row.1, row.2.userId, some .liquidated, .active, .system, .liquidationReversedBadRate⟩

def Turned (row : Nat × Loan) (w t : World) : Prop :=
  ∃ loan, w.loans[row.1]? = some loan ∧ t = { w with
    loans := w.loans.set row.1 (restoredLoan loan)
    statusLogs := w.statusLogs ++ [restorationLog row] }

theorem restoreOne_meets (row : Nat × Loan) (w : World) :
    (restoreOne row).Meets .alone (fun _ t => Turned row w t) (fun _ t => t = w ∨ Turned row w t)
      w := by
  apply commit_meets
  rintro t rfl _ _ i _
  refine ⟨trivial, fun _ => .inl rfl, fun _ _ => .inl rfl, fun _ t _ done => ?_⟩
  obtain ⟨v, wrote, -, rfl⟩ := map_pair_ok.mp done
  obtain ⟨loans, moved, wrote⟩ := bind_ok.mp wrote
  obtain ⟨loan, found, rfl⟩ := updateRow_ok.mp moved
  have turned : Turned row w v := ⟨loan, found, (Except.ok.inj wrote).symm⟩
  exact ⟨trivial, trivial, fun _ => turned, fun _ => .inr turned⟩

/-- What the batch ends in: each loan restored, with a new entry in the log, or named as a
failure, and nothing else moved. -/
structure Settled (batch : List (Nat × Loan)) (restored : List Nat)
    (failures : List (Nat × AppError)) (w t : World) : Prop where
  accounted : (restored ++ failures.map Prod.fst).Perm (batch.map Prod.fst)
  undone : ∀ id ∈ restored, t.loans[id]? = (w.loans[id]?).map restoredLoan
  failed : ∀ id ∈ failures.map Prod.fst,
    t.loans[id]? = w.loans[id]? ∨ t.loans[id]? = (w.loans[id]?).map restoredLoan
  elsewhere : ∀ id ∉ batch.map Prod.fst, t.loans[id]? = w.loans[id]?
  rest : { t with loans := w.loans, statusLogs := w.statusLogs } = w
  logs : ∃ entries, t.statusLogs = w.statusLogs ++ entries ∧
    ∀ id ∈ restored, ∃ row ∈ batch, row.1 = id ∧ restorationLog row ∈ entries

theorem Turned.loans_self {row : Nat × Loan} {w t : World} (turned : Turned row w t) :
    t.loans[row.1]? = (w.loans[row.1]?).map restoredLoan := by
  obtain ⟨loan, found, rfl⟩ := turned
  rw [getElem?_set_of_eq found, found, Option.map_some]

theorem Turned.loans_other {row : Nat × Loan} {w t : World} (turned : Turned row w t) {id : Nat}
    (other : id ≠ row.1) : t.loans[id]? = w.loans[id]? := by
  obtain ⟨loan, found, rfl⟩ := turned
  rw [List.getElem?_set_ne (Ne.symm other)]

section Settled
variable {row : Nat × Loan} {batch : List (Nat × Loan)} {restored : List Nat}
  {failures : List (Nat × AppError)} {w u t : World}

/-- The first turn left the world as it was, or restored its loan. -/
theorem Settled.after (first : u = w ∨ Turned row w u) (apart : row.1 ∉ batch.map Prod.fst)
    (settled : Settled batch restored failures u t) :
    (t.loans[row.1]? = u.loans[row.1]?) ∧
    (∀ id ∈ batch.map Prod.fst, u.loans[id]? = w.loans[id]?) ∧
    (∀ id ∉ (row :: batch).map Prod.fst, t.loans[id]? = w.loans[id]?) ∧
    { t with loans := w.loans, statusLogs := w.statusLogs } = w := by
  refine ⟨settled.elsewhere row.1 apart, fun id member => ?_, fun id outside => ?_, ?_⟩
  · rcases first with rfl | turned
    · rfl
    · exact turned.loans_other fun same => apart (same ▸ member)
  · rw [List.map_cons, List.mem_cons, not_or] at outside
    rw [settled.elsewhere id outside.2]
    rcases first with rfl | turned
    · rfl
    · exact turned.loans_other outside.1
  · have rest := settled.rest
    rcases first with rfl | ⟨loan, -, rfl⟩
    · exact rest
    · exact congrArg (fun v : World => { v with loans := w.loans, statusLogs := w.statusLogs }) rest

theorem Settled.nil : Settled [] [] [] w w where
  accounted := .refl []
  undone _ member := absurd member List.not_mem_nil
  failed _ member := absurd member List.not_mem_nil
  elsewhere _ _ := rfl
  rest := rfl
  logs := ⟨[], by simp, nofun⟩

theorem Settled.restore (turned : Turned row w u) (apart : row.1 ∉ batch.map Prod.fst)
    (settled : Settled batch restored failures u t) :
    Settled (row :: batch) (row.1 :: restored) failures w t := by
  obtain ⟨self, others, elsewhere, rest⟩ := settled.after (.inr turned) apart
  have among {id : Nat} (member : id ∈ restored ++ failures.map Prod.fst) :
      id ∈ batch.map Prod.fst := settled.accounted.mem_iff.mp member
  refine ⟨settled.accounted.cons row.1, ?_, ?_, elsewhere, rest, ?_⟩
  · intro id member
    rcases List.mem_cons.mp member with rfl | later
    · exact self.trans turned.loans_self
    · rw [← others id (among (List.mem_append_left _ later))]
      exact settled.undone id later
  · intro id member
    rw [← others id (among (List.mem_append_right _ member))]
    exact settled.failed id member
  · obtain ⟨entries, logs, logged⟩ := settled.logs
    obtain ⟨loan, -, rfl⟩ := turned
    refine ⟨restorationLog row :: entries, by rw [logs]; simp, fun id member => ?_⟩
    rcases List.mem_cons.mp member with rfl | later
    · exact ⟨row, List.mem_cons_self .., rfl, List.mem_cons_self ..⟩
    · obtain ⟨other, inside, here, entry⟩ := logged id later
      exact ⟨other, List.mem_cons_of_mem _ inside, here, List.mem_cons_of_mem _ entry⟩

theorem Settled.fail {e : AppError} (first : u = w ∨ Turned row w u)
    (apart : row.1 ∉ batch.map Prod.fst) (settled : Settled batch restored failures u t) :
    Settled (row :: batch) restored ((row.1, e) :: failures) w t := by
  obtain ⟨self, others, elsewhere, rest⟩ := settled.after first apart
  have among {id : Nat} (member : id ∈ restored ++ failures.map Prod.fst) :
      id ∈ batch.map Prod.fst := settled.accounted.mem_iff.mp member
  refine ⟨List.perm_middle.trans (settled.accounted.cons row.1), ?_, ?_, elsewhere, rest, ?_⟩
  · intro id member
    rw [← others id (among (List.mem_append_left _ member))]
    exact settled.undone id member
  · intro id member
    rcases List.mem_cons.mp member with rfl | later
    · rw [self]
      rcases first with rfl | turned
      · exact .inl rfl
      · exact .inr turned.loans_self
    · rw [← others id (among (List.mem_append_right _ later))]
      exact settled.failed id later
  · obtain ⟨entries, logs, logged⟩ := settled.logs
    have within (id : Nat) (member : id ∈ restored) :
        ∃ row' ∈ row :: batch, row'.1 = id ∧ restorationLog row' ∈ entries := by
      obtain ⟨other, inside, here, entry⟩ := logged id member
      exact ⟨other, List.mem_cons_of_mem _ inside, here, entry⟩
    rcases first with rfl | ⟨loan, -, rfl⟩
    · exact ⟨entries, logs, within⟩
    · refine ⟨restorationLog row :: entries, by rw [logs]; simp, fun id member => ?_⟩
      obtain ⟨other, inside, here, entry⟩ := within id member
      exact ⟨other, inside, here, List.mem_cons_of_mem _ entry⟩

end Settled

theorem restoreEach_meets (batch : List (Nat × Loan)) (w : World)
    (apart : (batch.map Prod.fst).Nodup) :
    (restoreEach batch).Meets .alone (fun done t => Settled batch done.1 done.2 w t)
      (fun _ _ => False) w := by
  induction batch generalizing w with
  | nil => exact Settled.nil
  | cons row rest ih =>
    obtain ⟨fresh, apart⟩ := List.nodup_cons.mp apart
    rw [restoreEach, Proc.meets_bind, Proc.meets_attempt]
    refine (restoreOne_meets row w).imp (fun _ u turned => ?_) fun e u first => ?_
    · rw [Proc.meets_bind]
      exact (ih u apart).imp (fun later t settled => settled.restore turned fresh)
        fun _ _ failed => failed
    · rw [Proc.meets_bind]
      exact (ih u apart).imp (fun later t settled => settled.fail first fresh)
        fun _ _ failed => failed

theorem findAffected_apart (loanIds : List Nat) (rows : RowOrder (Nat × Loan)) (w : World) :
    ((findAffected loanIds rows w).map Prod.fst).Nodup := by
  have found : ((findRows w.loans fun loan => loan.status = .liquidated).map Prod.fst).Nodup := by
    rw [List.Nodup, List.pairwise_map]
    exact (findRows_ordered _ _).imp fun before => before.ne
  have ordered : ((rows.order ((findRows w.loans fun loan => loan.status = .liquidated).filter
      fun row => loanIds = [] ∨ row.1 ∈ loanIds)).map Prod.fst).Nodup :=
    ((rows.perm _).map Prod.fst).nodup_iff.mpr
      (found.sublist ((List.filter_sublist).map Prod.fst))
  have sorted := ((List.mergeSort_perm (rows.order ((findRows w.loans fun loan =>
    loan.status = .liquidated).filter fun row => loanIds = [] ∨ row.1 ∈ loanIds))
    fun a b => noLater a.2.liquidatedAt b.2.liquidatedAt).map Prod.fst).nodup_iff.mpr ordered
  exact sorted.sublist ((List.filter_sublist).map Prod.fst)

theorem batchOf_sublist (args : CliArgs) (affected : List (Nat × Loan)) :
    (batchOf args affected).Sublist affected := by
  unfold batchOf
  split
  · exact .refl affected
  · exact List.take_sublist _ affected

/-- How the script ends that found the loans `affected`. -/
inductive Ended (args : CliArgs) (confirmed : Bool) (affected : List (Nat × Loan)) (w : World) :
    Outcome → World → Prop
  | noneAffected : affected = [] → Ended args confirmed affected w .noneAffected w
  | dryRun : args.applying = false →
      Ended args confirmed affected w (.dryRun ((batchOf args affected).map Prod.fst)) w
  | aborted : args.applying = true → args.force = false → confirmed = false →
      Ended args confirmed affected w (.aborted ((batchOf args affected).map Prod.fst)) w
  | applied {restored : List Nat} {failures : List (Nat × AppError)} {t : World} :
      args.applying = true → args.force = true ∨ confirmed = true →
      Settled (batchOf args affected) restored failures w t →
      Ended args confirmed affected w
        (.applied ((batchOf args affected).map Prod.fst) restored failures) t

theorem main_ends (args : CliArgs) (rows : RowOrder (Nat × Loan)) (confirmed : Bool) (w : World) :
    (main args rows confirmed).Meets .alone
      (Ended args confirmed (findAffected args.loanIds rows w) w) (fun _ t => t = w) w := by
  rw [main, Proc.meets_bind]
  apply query_meets
  rintro t rfl _ i _
  refine ⟨trivial, rfl, fun _ _ => rfl, fun affected read => ?_⟩
  obtain rfl := Except.ok.inj read
  split
  · rename_i none
    exact .noneAffected none
  split
  · rename_i dry
    exact Ended.dryRun (by simpa using dry)
  split
  · rename_i wet unconfirmed
    simp only [Bool.and_eq_true, Bool.not_eq_true'] at unconfirmed
    exact Ended.aborted (by simpa using wet) unconfirmed.1 unconfirmed.2
  · rename_i wet unconfirmed
    have goes : args.force = true ∨ confirmed = true := by
      by_contra neither
      simp only [not_or, Bool.not_eq_true] at neither
      simp [neither] at unconfirmed
    have apart := (findAffected_apart args.loanIds rows w).sublist
      ((batchOf_sublist args (findAffected args.loanIds rows w)).map Prod.fst)
    rw [Proc.meets_bind]
    exact (restoreEach_meets _ w apart).imp
      (fun done u settled => Ended.applied (by simpa using wet) goes settled) fun _ _ failed => failed.elim

theorem Settled.all_restored {batch : List (Nat × Loan)} {restored : List Nat} {w t : World}
    (settled : Settled batch restored [] w t) {row : Nat × Loan} (member : row ∈ batch) :
    t.loans[row.1]? = (w.loans[row.1]?).map restoredLoan := by
  have accounted := settled.accounted
  rw [List.map_nil, List.append_nil] at accounted
  exact settled.undone row.1 (accounted.mem_iff.mpr (List.mem_map_of_mem member))

/-- A batch of all affected loans that leaves no failure leaves none affected. -/
theorem Settled.none_left {loanIds : List Nat} {rows rows' : RowOrder (Nat × Loan)}
    {restored : List Nat} {w t : World}
    (settled : Settled (findAffected loanIds rows w) restored [] w t) :
    findAffected loanIds rows' t = [] := by
  rw [List.eq_nil_iff_forall_not_mem]
  rintro ⟨id, loan⟩ member
  obtain ⟨found, ended, bad, chosen⟩ := mem_findAffected.mp member
  by_cases inside : id ∈ (findAffected loanIds rows w).map Prod.fst
  · obtain ⟨row, among, rfl⟩ := List.mem_map.mp inside
    have restores := settled.all_restored among
    rw [found] at restores
    obtain ⟨before, -, rfl⟩ := Option.map_eq_some_iff.mp restores.symm
    cases ended
  · rw [settled.elsewhere id inside] at found
    exact inside (List.mem_map_of_mem (mem_findAffected.mpr ⟨found, ended, bad, chosen⟩))

def glitchedLoan : Loan :=
  liquidated (6 / 1000) 7 { StatusInterleaving.pendingLoan with status := .active }

def glitched : World where
  loans := [glitchedLoan]

def inOrder : RowOrder (Nat × Loan) := ⟨id, fun _ => .refl _⟩

def remediation : Action Outcome := main ⟨true, true, none, []⟩ inOrder false

def Outcome.cleanIn : Except AppError Outcome → Bool
  | .ok outcome => outcome.exitCode = 0
  | .error _ => false

theorem remediated : ∃ f outcome, remediation.exec [{}, {}] glitched = some f ∧
    f.result = .ok outcome ∧ outcome.exitCode = 0 := by
  have ran : (remediation.exec [{}, {}] glitched).any (fun f => Outcome.cleanIn f.result) = true := by
    decide +kernel
  obtain ⟨f, done, clean⟩ := (Option.any_eq_true _ _).mp ran
  cases result : f.result with
  | error e =>
    rw [result] at clean
    cases clean
  | ok outcome =>
    rw [result] at clean
    exact ⟨f, outcome, done, result, of_decide_eq_true clean⟩

/-- Loans that were ACTIVE before were liquidated at rates they do not allow. -/
def LiquidatedBadly (before after : List Loan) : Prop :=
  ∀ id : Nat, after[id]? = before[id]? ∨ ∃ loan rate now, before[id]? = some loan ∧
    loan.status = .active ∧ loan.liquidatedAt = none ∧ loan.liquidationRateActual = none ∧
    rateSuspect rate loan = true ∧ after[id]? = some (liquidated rate now loan)

theorem restoredLoan_liquidated {loan : Loan} {rate : ℚ} {now : Time}
    (active : loan.status = .active) (unended : loan.liquidatedAt = none)
    (unrated : loan.liquidationRateActual = none) :
    restoredLoan (liquidated rate now loan) = loan := by
  cases loan
  simp only at active unended unrated
  subst active unended unrated
  rfl

theorem mem_findAffected_badly {before w : World} (sane : Sane before)
    (badly : LiquidatedBadly before.loans w.loans) (rows : RowOrder (Nat × Loan)) (id : Nat) :
    (w.loans[id]? = before.loans[id]? ∧ id ∉ (findAffected [] rows w).map Prod.fst) ∨
    ((w.loans[id]?).map restoredLoan = before.loans[id]? ∧
      ∃ row ∈ findAffected [] rows w, row.1 = id) := by
  rcases badly id with same | ⟨loan, rate, now, found, active, unended, unrated, suspect, after⟩
  · refine .inl ⟨same, fun member => ?_⟩
    obtain ⟨⟨_, loan⟩, affected, rfl⟩ := List.mem_map.mp member
    obtain ⟨there, ended, bad, -⟩ := mem_findAffected.mp affected
    rw [same] at there
    rw [sane _ loan there ended] at bad
    cases bad
  · have bad : isBadRate (liquidated rate now loan) = true := suspect
    refine .inr ⟨?_, (id, liquidated rate now loan),
      mem_findAffected.mpr ⟨after, rfl, bad, .inl rfl⟩, rfl⟩
    rw [after, Option.map_some, restoredLoan_liquidated active unended unrated, found]

/-- Applied to all loans, with no failure, the script gives every loan back that liquidations at
broken rates had taken, and touches no other; from then on all liquidations stand. -/
theorem script_undoes {args : CliArgs} {rows : RowOrder (Nat × Loan)} {confirmed : Bool}
    {answers : List Answer} {before w : World}
    {f : Finished World Answer Access AppError Outcome} {outcome : Outcome}
    (applying : args.applying = true) (goes : args.force = true ∨ confirmed = true)
    (all : args.loanIds = []) (unlimited : args.limit = none) (sane : Sane before)
    (badly : LiquidatedBadly before.loans w.loans)
    (done : (main args rows confirmed).exec answers w = some f) (ended : f.result = .ok outcome)
    (complete : outcome.exitCode = 0) : f.state.loans = before.loans ∧ Sane f.state := by
  have given : f.state.loans = before.loans := by
    obtain ⟨-, -, ends⟩ := (main_ends args rows confirmed w).exec (fun _ => rfl) trivial done
      fun _ _ => trivial
    unfold Finished.Ends at ends
    rw [ended, all] at ends
    apply List.ext_getElem?
    intro id
    have split := mem_findAffected_badly sane badly rows id
    cases ends with
    | noneAffected none =>
      rw [none] at split
      rcases split with ⟨same, -⟩ | ⟨-, row, member, -⟩
      · exact same
      · cases member
    | dryRun dry => simp [applying] at dry
    | aborted _ unforced unconfirmed => simp [unforced, unconfirmed] at goes
    | @applied restored failures t _ _ settled =>
      cases failures with
      | cons failure more => cases complete
      | nil =>
        simp only [batchOf, unlimited] at settled
        rcases split with ⟨same, outside⟩ | ⟨back, row, member, rfl⟩
        · exact (settled.elsewhere id outside).trans same
        · exact (settled.all_restored member).trans back
  refine ⟨given, fun id loan found status => ?_⟩
  rw [given] at found
  exact sane id loan found status

theorem script_undoes_glitched : ∃ f, remediation.exec [{}, {}] glitched = some f ∧
    f.state.loans = [{ StatusInterleaving.pendingLoan with status := .active }] ∧ Sane f.state := by
  obtain ⟨f, outcome, done, ended, complete⟩ := remediated
  have sane : Sane { loans := [{ StatusInterleaving.pendingLoan with status := .active }] } := by
    intro id loan found status
    cases id with
    | zero =>
      obtain rfl := Option.some.inj found
      cases status
    | succ n => cases found
  refine ⟨f, done, script_undoes rfl (.inl rfl) rfl rfl sane (fun id => ?_) done ended complete⟩
  cases id with
  | zero =>
    exact .inr ⟨_, 6 / 1000, 7, rfl, rfl, rfl, rfl, by decide +kernel, rfl⟩
  | succ n => exact .inl rfl

end Bitmonie.RestoreBadRateLiquidations
