import Bitmonie.CollateralRelease
import Bitmonie.Paging
import Bitmonie.ServedQueue

/-! The backlog of releases: which loans the cycles of the worker get to while some sends fail
at the provider every time. -/
namespace Bitmonie.CollateralRelease
open ServedQueue LoanStatusService LoansService

def waitingRow (w : World) (id : Nat) : Option (Nat × Option Time) :=
  match w.loans[id]? with
  | some loan =>
    if loan.status = .repaid ∧ loan.collateralReleasedAt = none ∧
        loan.collateralReleaseAddress ≠ none ∧ loanFree id w then some (id, loan.repaidAt)
    else none
  | none => none

/-- `ORDER BY repaid_at ASC NULLS FIRST` -/
def repaidEarlier (a b : Option Time) : Prop := a = none ∨ ∃ t ∈ a, ∃ t' ∈ b, t ≤ t'

instance : DecidableRel repaidEarlier := fun _ _ => inferInstanceAs (Decidable (_ ∨ _))

def backlog (w : World) : List Nat :=
  (((List.range w.loans.length).filterMap (waitingRow w)).insertionSort fun a b =>
    repaidEarlier a.2 b.2).map Prod.fst

theorem eligibleLoans_eq (w : World) : eligibleLoans w = (backlog w).take maxLoansPerCycle := rfl

theorem repaidEarlier_trans : IsTrans (Option Time) repaidEarlier where
  trans a b c first second := by
    rcases first with rfl | ⟨t, rfl, t', rfl, le⟩
    · exact .inl rfl
    · rcases second with second | ⟨u, same, u', rfl, le'⟩
      · cases second
      · obtain rfl := Option.some.inj same
        exact .inr ⟨t, rfl, u', rfl, le.trans le'⟩

theorem repaidEarlier_total : Std.Total repaidEarlier where
  total a b := by
    cases a with
    | none => exact .inl (.inl rfl)
    | some t =>
      cases b with
      | none => exact .inr (.inl rfl)
      | some t' =>
        rcases le_total t t' with le | le
        · exact .inl (.inr ⟨t, rfl, t', rfl, le⟩)
        · exact .inr (.inr ⟨t', rfl, t, rfl, le⟩)

def Waits (w : World) (id : Nat) : Prop :=
  ∃ loan, w.loans[id]? = some loan ∧ loan.status = .repaid ∧ loan.collateralReleasedAt = none ∧
    loan.collateralReleaseAddress ≠ none ∧ loanFree id w

theorem waitingRow_some {w : World} {id : Nat} {row : Nat × Option Time} :
    waitingRow w id = some row ↔
      ∃ loan, w.loans[id]? = some loan ∧ row = (id, loan.repaidAt) ∧ loan.status = .repaid ∧
        loan.collateralReleasedAt = none ∧ loan.collateralReleaseAddress ≠ none ∧ loanFree id w := by
  unfold waitingRow
  cases w.loans[id]? with
  | none => simp
  | some loan =>
    simp only [Option.ite_none_right_eq_some, Option.some.injEq, exists_eq_left']
    constructor
    · rintro ⟨due, rfl⟩
      exact ⟨rfl, due⟩
    · rintro ⟨rfl, due⟩
      exact ⟨due, rfl⟩

theorem mem_backlog {w : World} {id : Nat} : id ∈ backlog w ↔ Waits w id := by
  simp only [backlog, List.mem_map, List.mem_insertionSort, List.mem_filterMap, waitingRow_some]
  constructor
  · rintro ⟨row, ⟨other, -, loan, found, rfl, due⟩, rfl⟩
    exact ⟨loan, found, due⟩
  · rintro ⟨loan, found, due⟩
    have bound := (List.getElem?_eq_some_iff.mp found).1
    exact ⟨_, ⟨id, List.mem_range.mpr bound, loan, found, rfl, due⟩, rfl⟩

theorem waitingRow_id {w : World} {id : Nat} {row : Nat × Option Time}
    (taken : waitingRow w id = some row) : row.1 = id := by
  obtain ⟨loan, -, rfl, -⟩ := waitingRow_some.mp taken
  rfl

theorem backlog_nodup (w : World) : (backlog w).Nodup := by
  have sorted := List.perm_insertionSort (fun a b : Nat × Option Time => repaidEarlier a.2 b.2)
    ((List.range w.loans.length).filterMap (waitingRow w))
  apply (sorted.map Prod.fst).nodup_iff.mpr
  rw [List.map_filterMap]
  refine List.Nodup.filterMap (fun a b id first second => ?_) List.nodup_range
  obtain ⟨row, taken, rfl⟩ := Option.map_eq_some_iff.mp (Option.mem_def.mp first)
  obtain ⟨row', taken', same⟩ := Option.map_eq_some_iff.mp (Option.mem_def.mp second)
  rw [← waitingRow_id taken, ← waitingRow_id taken', same]

/-- Rows that stop waiting leave the backlog, and the others keep their order. -/
theorem backlog_filter {w t : World} {stays : Nat → Bool} (length : t.loans.length = w.loans.length)
    (rows : ∀ id, waitingRow t id = if stays id then waitingRow w id else none) :
    backlog t = (backlog w).filter stays := by
  have trans : IsTrans (Nat × Option Time) fun a b => repaidEarlier a.2 b.2 :=
    ⟨fun _ _ _ => repaidEarlier_trans.trans _ _ _⟩
  have total : Std.Total fun a b : Nat × Option Time => repaidEarlier a.2 b.2 :=
    ⟨fun _ _ => repaidEarlier_total.total _ _⟩
  have kept : (List.range t.loans.length).filterMap (waitingRow t) =
      ((List.range w.loans.length).filterMap (waitingRow w)).filter fun row => stays row.1 := by
    rw [length, List.filter_filterMap]
    congr 1
    funext id
    rw [rows id]
    cases taken : waitingRow w id with
    | none => cases stays id <;> rfl
    | some row =>
      obtain rfl := waitingRow_id taken
      cases keeps : stays row.1 <;> simp [keeps, Option.filter]
  rw [backlog, kept, ← Paging.filter_insertionSort, backlog, List.filter_map]
  rfl

/-- Nothing but the provider fails, and the provider refuses the same loans every time. -/
def answered (refuses : Nat → Bool) (label : Access) (i : Answer) : Prop :=
  i.lost = false ∧ i.fails = match label with
    | .sendCollateral loanId => refuses loanId
    | _ => false

/-- No call is under way, and an address that is set has been let through by the DTO. -/
structure Quiet (w : World) : Prop where
  free : ∀ loanId, loanFree loanId w = true
  unlocked : ∀ loanId, w.releaseLock loanId = false
  addressed : ∀ loan ∈ w.loans, loan.collateralReleaseAddress ≠ some ""

def sendsOf (made : List Access) : List Nat :=
  made.filterMap fun label => match label with
    | .sendCollateral loanId => some loanId
    | _ => none

theorem sendsOf_append (made more : List Access) :
    sendsOf (made ++ more) = sendsOf made ++ sendsOf more := List.filterMap_append

/-- What a release leaves of the loans: the provider refused, or the row is stamped. -/
structure Tried (refuses : Nat → Bool) (loanId : Nat) (w t : World) : Prop where
  rowLock : t.rowLock = w.rowLock
  releaseLock : t.releaseLock = w.releaseLock
  refused : refuses loanId = true → t.loans = w.loans
  stamped : refuses loanId = false → ∃ loan now reference, w.loans[loanId]? = some loan ∧
    t.loans = w.loans.set loanId { loan with
      collateralReleasedAt := some now, collateralReleaseReference := some reference }

theorem eligible_waits {w : World} {loanId : Nat} (quiet : Quiet w) (waits : Waits w loanId) :
    ∃ loan address, w.loans[loanId]? = some loan ∧ loan.collateralReleasedAt = none ∧
      eligible (some loan) = .ok address := by
  obtain ⟨loan, found, repaid, unreleased, addressed, -⟩ := waits
  cases set : loan.collateralReleaseAddress with
  | none => exact absurd set addressed
  | some address =>
    have filled : address ≠ "" := by
      rintro rfl
      exact quiet.addressed loan (List.mem_of_getElem? found) set
    exact ⟨loan, address, found, unreleased, by simp [eligible, repaid, unreleased, set, filled]⟩

theorem send_makes {refuses : Nat → Bool} {loanId : Nat} {address : String} {w : World} :
    (sendToLightningAddress loanId address).Makes (fun label i _ => answered refuses label i)
      (fun made _ t => made = [.sendCollateral loanId] ∧ refuses loanId = false ∧
        t.loans = w.loans ∧ t.rowLock = w.rowLock ∧ t.releaseLock = w.releaseLock)
      (fun made _ t => made = [.sendCollateral loanId] ∧ refuses loanId = true ∧ t = w) w := by
  refine Proc.makes_access rfl fun i answer => ?_
  obtain ⟨kept, fails⟩ := answer
  cases refused : refuses loanId <;> simp [fails, refused, kept, Proc.outcome]

theorem releaseLocked_makes {refuses : Nat → Bool} {loanId : Nat} {w : World} {loan : Loan}
    {address : String} (free : loanFree loanId w = true) (found : w.loans[loanId]? = some loan)
    (unreleased : loan.collateralReleasedAt = none) (due : eligible (some loan) = .ok address) :
    (releaseLocked loanId).Makes (fun label i _ => answered refuses label i)
      (fun made _ t => sendsOf made = [loanId] ∧ Tried refuses loanId w t)
      (fun _ _ _ => False) w := by
  rw [releaseLocked, Proc.makes_bind]
  refine query_makes fun i answer => ⟨answer.2, ?_⟩
  simp only [Proc.outcome, found, due, Proc.makes_bind, Proc.makes_attempt]
  apply (@send_makes refuses loanId address w).imp
  · rintro made reference t ⟨rfl, accepted, loans, rowLock, releaseLock⟩
    simp only [Proc.makes_catching, Proc.makes_bind]
    have foundₜ : t.loans[loanId]? = some loan := by rw [loans, found]
    refine commit_makes (by rw [loanFree, rowLock]; exact free) fun i answer => ?_
    obtain ⟨logs, wrote⟩ := @writeRelease_ok loanId loan.userId reference i.now t loan foundₜ unreleased
    have stamps := congrArg (Except.map ((), ·)) wrote
    refine ⟨answer.2, answer.1, (), _, stamps, ?_⟩
    refine commit_makes rfl fun i answer => ⟨answer.2, answer.1, (), _, rfl, ?_⟩
    refine query_makes fun i answer => ⟨answer.2, rfl, ?_⟩
    exact
      { rowLock := rowLock
        releaseLock := releaseLock
        refused := fun refused => by rw [accepted] at refused; cases refused
        stamped := fun _ => ⟨loan, _, reference, found, by rw [← loans]⟩ }
  · rintro made e t ⟨rfl, refused, rfl⟩
    refine commit_makes rfl fun i answer => ⟨answer.2, answer.1, (), _, rfl, rfl, ?_⟩
    exact
      { rowLock := rfl
        releaseLock := rfl
        refused := fun _ => rfl
        stamped := fun accepted => by rw [refused] at accepted; cases accepted }

theorem releaseForLoan_makes {refuses : Nat → Bool} {tid loanId : Nat} {w : World}
    (quiet : Quiet w) (waits : Waits w loanId) :
    (releaseForLoan tid loanId).Makes (fun label i _ => answered refuses label i)
      (fun made _ t => sendsOf made = [loanId] ∧ Tried refuses loanId w t)
      (fun _ _ _ => False) w := by
  obtain ⟨loan, address, found, unreleased, due⟩ := eligible_waits quiet waits
  rw [releaseForLoan, Proc.makes_bind]
  refine Proc.makes_access rfl fun i answer => ?_
  obtain ⟨kept, fails⟩ := answer
  simp only [fails, quiet.unlocked loanId, kept, Bool.false_eq_true, if_false, Proc.outcome, if_true,
    Proc.makes_finishing]
  have body := @releaseLocked_makes refuses loanId { w with
    releaseLock := Function.update w.releaseLock loanId true
    releasing := Function.update w.releasing loanId (some tid) } loan address
    (quiet.free loanId) found unreleased due
  apply body.imp _ fun _ _ _ never => never.elim
  rintro made result t ⟨sends, tried⟩
  refine Proc.makes_access rfl fun i answer => ⟨?_, ?_⟩
  · simp [sendsOf] at sends ⊢
    exact sends
  · exact
      { rowLock := tried.rowLock
        releaseLock := by
          funext other
          by_cases same : other = loanId <;>
            simp [answer.2, tried.releaseLock, same, quiet.unlocked loanId]
        refused := tried.refused
        stamped := tried.stamped }

theorem Tried.quiet {refuses : Nat → Bool} {loanId : Nat} {w t : World}
    (tried : Tried refuses loanId w t) (quiet : Quiet w) : Quiet t where
  free other := by rw [loanFree, tried.rowLock]; exact quiet.free other
  unlocked other := by rw [tried.releaseLock, quiet.unlocked]
  addressed loan member := by
    cases refused : refuses loanId with
    | true =>
      rw [tried.refused refused] at member
      exact quiet.addressed loan member
    | false =>
      obtain ⟨row, now, reference, found, loans⟩ := tried.stamped refused
      rw [loans] at member
      rcases List.mem_or_eq_of_mem_set member with old | rfl
      · exact quiet.addressed loan old
      · exact quiet.addressed row (List.mem_of_getElem? found)

/-- A loan that was released waits no more. -/
theorem Tried.backlog_eq {refuses : Nat → Bool} {loanId : Nat} {w t : World}
    (tried : Tried refuses loanId w t) :
    backlog t = (backlog w).filter fun id => refuses id || decide (id ≠ loanId) := by
  have free (id : Nat) : loanFree id t = loanFree id w := by rw [loanFree, tried.rowLock, loanFree]
  cases refused : refuses loanId with
  | true =>
    apply backlog_filter (by rw [tried.refused refused])
    intro id
    have stays : (refuses id || decide (id ≠ loanId)) = true := by
      by_cases same : id = loanId <;> simp [same, refused]
    simp only [stays, if_true, waitingRow, tried.refused refused, free]
  | false =>
    obtain ⟨row, now, reference, found, loans⟩ := tried.stamped refused
    apply backlog_filter (by rw [loans, List.length_set])
    intro id
    by_cases same : id = loanId
    · subst same
      simp [waitingRow, loans, getElem?_set_of_eq found, refused]
    · have elsewhere : t.loans[id]? = w.loans[id]? := by
        rw [loans, List.getElem?_set_ne (Ne.symm same)]
      simp only [same, ne_eq, not_false_eq_true, decide_true, Bool.or_true, if_true, waitingRow,
        elsewhere, free]

/-- The loop of a cycle: each row gets its send, and the loans that are not refused leave. -/
theorem rows_makes {refuses : Nat → Bool} {tid : Nat} {rows : List Nat} {w : World}
    (quiet : Quiet w) (waits : ∀ id ∈ rows, id ∈ backlog w) (distinct : rows.Nodup) :
    (Proc.each rows fun loanId =>
        ((releaseForLoan tid loanId).bind fun _ => .pure ()).catching fun _ => .pure ()).Makes
      (fun label i _ => answered refuses label i)
      (fun made _ t => sendsOf made = rows ∧ Quiet t ∧
        backlog t = (backlog w).filter fun id => refuses id || decide (id ∉ rows))
      (fun _ _ _ => False) w := by
  induction rows generalizing w with
  | nil => exact ⟨rfl, quiet, by simp⟩
  | cons loanId rest ih =>
    obtain ⟨new, distinct⟩ := List.nodup_cons.mp distinct
    rw [Proc.each, Proc.makes_bind, Proc.makes_catching, Proc.makes_bind]
    apply (releaseForLoan_makes quiet (mem_backlog.mp (waits loanId (by simp)))).imp
    · rintro made result t ⟨sends, tried⟩
      have left := tried.backlog_eq
      have others : ∀ id ∈ rest, id ∈ backlog t := by
        intro id member
        have different : id ≠ loanId := by
          rintro rfl
          exact new member
        rw [left, List.mem_filter]
        exact ⟨waits id (by simp [member]), by simp [different]⟩
      apply (ih (tried.quiet quiet) others distinct).imp
      · rintro more _ u ⟨later, quiet, after⟩
        refine ⟨by simp [sendsOf_append, sends, later], quiet, ?_⟩
        rw [after, left, List.filter_filter]
        congr 1
        funext id
        cases refuses id <;> simp [Bool.and_comm]
      · exact fun _ _ _ never => never
    · exact fun _ _ _ never => never.elim

theorem cycle_makes {refuses : Nat → Bool} {tid : Nat} {w : World} (quiet : Quiet w) :
    (runCollateralReleaseCycle tid).Makes (fun label i _ => answered refuses label i)
      (fun made _ t => sendsOf made = (backlog w).take maxLoansPerCycle ∧ Quiet t ∧
        backlog t = ((backlog w).take maxLoansPerCycle).filter refuses ++
          (backlog w).drop maxLoansPerCycle)
      (fun _ _ _ => False) w := by
  have distinct := backlog_nodup w
  rw [runCollateralReleaseCycle, Proc.makes_bind]
  refine query_makes fun i answer => ⟨answer.2, ?_⟩
  rw [Proc.outcome, eligibleLoans_eq]
  apply (rows_makes quiet (fun _ => List.mem_of_mem_take)
    (distinct.sublist (List.take_sublist ..))).imp
  · rintro made _ t ⟨sends, quiet, after⟩
    refine ⟨sends, quiet, after.trans ?_⟩
    rw [← List.take_append_drop maxLoansPerCycle (backlog w)] at distinct
    have apart := List.disjoint_of_nodup_append distinct
    conv_lhs => rw [← List.take_append_drop maxLoansPerCycle (backlog w)]
    rw [List.filter_append]
    congr 1
    · apply List.filter_congr
      intro id member
      simp [member]
    · apply List.filter_eq_self.mpr
      intro id member
      have later : id ∉ (backlog w).take maxLoansPerCycle := fun taken => apart taken member
      simp [later]
  · exact fun _ _ _ never => never

/-- That many cycles, one after the other, with what they did. -/
inductive Cycles : Nat → World → List (Event World Answer Access) → World → Prop
  | done : Cycles 0 w [] w
  | cycle (tid : Nat) : (runCollateralReleaseCycle tid).exec answers w = some f →
      Cycles n f.state trace t → Cycles (n + 1) w (f.trace ++ trace) t

section Cycles
variable {refuses : Nat → Bool} {n : Nat} {w t : World} {trace : List (Event World Answer Access)}

/-- `refuses` says of each loan whether the provider fails on it. -/
def Refuses (refuses : Nat → Bool) (trace : List (Event World Answer Access)) : Prop :=
  ∀ e ∈ trace, answered refuses e.label e.answer

/-- What the cycles send is what a queue is served in rounds. -/
theorem Cycles.sends (run : Cycles n w trace t) (quiet : Quiet w) (refused : Refuses refuses trace) :
    sendsOf (trace.map (·.label)) = served maxLoansPerCycle refuses n (backlog w) := by
  induction run with
  | done => rfl
  | cycle tid ran rest ih =>
    have ended := (cycle_makes quiet).exec ran fun e member => refused e (by simp [member])
    rename_i f n trace t
    cases result : f.result with
    | error e => simp [Finished.Ends, result] at ended
    | ok _ =>
      simp only [Finished.Ends, result] at ended
      obtain ⟨sends, quiet, left⟩ := ended
      rw [List.map_append, sendsOf_append, sends, served, ← left,
        ih quiet fun e member => refused e (by simp [member])]

theorem exists_cycles (quiet : Quiet w) (n : Nat) :
    ∃ trace t, Cycles n w trace t ∧ Refuses refuses trace := by
  induction n generalizing w with
  | zero => exact ⟨[], w, .done, by simp [Refuses]⟩
  | succ n ih =>
    have makes := @cycle_makes refuses 0 w quiet
    obtain ⟨answers, f, ran, refused⟩ := makes.ends fun label _ =>
      ⟨{ fails := match label with
          | .sendCollateral loanId => refuses loanId
          | _ => false }, rfl, rfl⟩
    have ended := makes.exec ran refused
    cases result : f.result with
    | error e => simp [Finished.Ends, result] at ended
    | ok _ =>
      simp only [Finished.Ends, result] at ended
      obtain ⟨trace, t, run, later⟩ := ih ended.2.1
      refine ⟨f.trace ++ trace, t, .cycle 0 ran run, fun e member => ?_⟩
      rcases List.mem_append.mp member with now | after
      · exact refused e now
      · exact later e after

theorem mem_sendsOf {id : Nat} {made : List Access} :
    id ∈ sendsOf made ↔ .sendCollateral id ∈ made := by
  simp only [sendsOf, List.mem_filterMap]
  constructor
  · rintro ⟨label, member, sent⟩
    cases label <;> simp_all
  · exact fun member => ⟨_, member, rfl⟩

def Attempts (trace : List (Event World Answer Access)) (id : Nat) : Prop :=
  ∃ e ∈ trace, e.label = .sendCollateral id

theorem attempts_iff {id : Nat} : Attempts trace id ↔ id ∈ sendsOf (trace.map (·.label)) := by
  simp [Attempts, mem_sendsOf, List.mem_map]

theorem attempts_all_iff (quiet : Quiet w) :
    (∀ trace t, Cycles n w trace t → Refuses refuses trace → ∀ id, Waits w id → Attempts trace id) ↔
      Fits maxLoansPerCycle refuses 0 n (backlog w) := by
  rw [← served_iff (backlog_nodup w)]
  constructor
  · intro all id member
    obtain ⟨trace, t, run, refused⟩ := @exists_cycles refuses w quiet n
    have sent := attempts_iff.mp (all trace t run refused id (mem_backlog.mp member))
    rwa [run.sends quiet refused] at sent
  · intro all trace t run refused id waits
    rw [attempts_iff, run.sends quiet refused]
    exact all id (mem_backlog.mpr waits)

/-- Fifty loans that the provider keeps refusing shut out every loan behind them, for good. -/
theorem starves {front rest : List Nat} {id : Nat} (quiet : Quiet w) (run : Cycles n w trace t)
    (refused : Refuses refuses trace) (order : backlog w = front ++ id :: rest)
    (crowded : maxLoansPerCycle ≤ front.countP refuses) : ¬ Attempts trace id := by
  have distinct := backlog_nodup w
  rw [order] at distinct
  have apart := List.disjoint_of_nodup_append distinct
  rw [attempts_iff, run.sends quiet refused, order]
  exact not_served crowded fun before => apart before (by simp)

end Cycles

/-- The number of eligible loans divided by the size of a cycle, rounded up. -/
def cyclesDue (w : World) : Nat :=
  ((backlog w).length + maxLoansPerCycle - 1) / maxLoansPerCycle

/-- From that many cycles on, a release of every loan that waits has been attempted. -/
def NoneStarves (refuses : Nat → Bool) (w : World) : Prop :=
  ∀ n, cyclesDue w ≤ n → ∀ trace t, Cycles n w trace t → Refuses refuses trace →
    ∀ id, Waits w id → Attempts trace id

/-- It does if and only if the loans, in the order of the query, can be cut into as many
stretches, each of which has room in a cycle beside the refused loans ahead of it. -/
theorem noneStarves_iff {w : World} (quiet : Quiet w) (refuses : Nat → Bool) :
    NoneStarves refuses w ↔ Fits maxLoansPerCycle refuses 0 (cyclesDue w) (backlog w) := by
  constructor
  · intro all
    exact (attempts_all_iff quiet).mp (all (cyclesDue w) (Nat.le_refl _))
  · intro fits n enough
    exact (attempts_all_iff quiet).mpr (fits.mono enough)

theorem quiet_of_repaid (count : Nat) :
    Quiet { loans := List.replicate count repaidLoan } where
  free _ := rfl
  unlocked _ := rfl
  addressed loan member := by
    obtain ⟨-, rfl⟩ := List.mem_replicate.mp member
    simp [repaidLoan]

theorem noneStarves_pair :
    NoneStarves (fun id => decide (id = 0)) { loans := List.replicate 2 repaidLoan } := by
  refine (noneStarves_iff (quiet_of_repaid 2) _).mpr ?_
  have order : backlog { loans := List.replicate 2 repaidLoan } = [0, 1] ++ [] := by decide +kernel
  have due : cyclesDue { loans := List.replicate 2 repaidLoan } = 0 + 1 := by decide +kernel
  rw [order, due]
  exact .round [0, 1] (by decide) .nil

/-- Fifty loans whose address the provider refuses, and one more behind them. -/
def fiftyRefused : World where
  loans := List.replicate 51 repaidLoan

theorem last_loan_starves : Quiet fiftyRefused ∧ ¬ NoneStarves (fun id => decide (id < 50)) fiftyRefused := by
  have quiet : Quiet fiftyRefused := quiet_of_repaid 51
  have order : backlog fiftyRefused = List.range 50 ++ 50 :: [] := by decide +kernel
  refine ⟨quiet, fun all => ?_⟩
  obtain ⟨trace, t, run, refused⟩ :=
    @exists_cycles (fun id => decide (id < 50)) fiftyRefused quiet (cyclesDue fiftyRefused)
  have waits : Waits fiftyRefused 50 := mem_backlog.mp (by simp [order])
  exact starves quiet run refused order (by decide)
    (all _ (Nat.le_refl _) trace t run refused 50 waits)

end Bitmonie.CollateralRelease
