import Bitmonie.Collection
import Bitmonie.EarlierRepayment
import Bitmonie.Paging

/-! Whether a claim credits what the list of unmatched inflows offers. The list leaves
untrusted rows out; the claim takes the newest row of its query and looks at the trust in it
afterwards. -/
namespace Bitmonie.ClaimedInflow
open LoansService

def candidates (userId : Nat) (now : Time) (w : World) : List (Nat × Inflow) :=
  findRows w.inflows fun inflow =>
    inflow.userId = some userId ∧ inflow.isMatched = false ∧ inflow.sourceType = none ∧
      inflow.currency = .ngn ∧ now - claimInflowWindowMs ≤ inflow.createdAt ∧
      minPartialRepaymentNgn ≤ inflow.amount

/-- The latest of them; the first row of those that came at the same instant. -/
structure Newest (userId : Nat) (now : Time) (w : World) (row : Nat × Inflow) : Prop where
  among : row ∈ candidates userId now w
  latest : ∀ other ∈ candidates userId now w, other.2.createdAt < row.2.createdAt ∨
    other.2.createdAt = row.2.createdAt ∧ row.1 ≤ other.1

/-- The customer is shown that the item can be claimed, and it came within the window. -/
def Offered (now : Time) (item : UnmatchedInflowRow) : Prop :=
  item.status = .claimable ∧ now - claimInflowWindowMs ≤ item.receivedAt

def claimOf (loanId : Nat) (row : Nat × Inflow) : CreditParams where
  inflowId := row.1
  loanId := loanId
  amountNgn := row.2.amount
  matchMethod := .customerClaim
  skipFloor := true

def ClaimCredits (tid userId loanId inflowId : Nat) (i : Answer) (w : World) : Prop :=
  ∃ result w' r, (claimInflow tid userId loanId).atOnce i w = some (result, w') ∧
    w'.repayments = w.repayments ++ [r] ∧ r.loanId = loanId ∧ r.inflowId = inflowId

section Rows
variable {userId : Nat} {now : Time} {w : World} {row row' : Nat × Inflow}

theorem Newest.unique (newest : Newest userId now w row) (newest' : Newest userId now w row') :
    row = row' := by
  have before := newest.latest row' newest'.among
  have after := newest'.latest row newest.among
  have same : row.1 = row'.1 := by
    simp only [Time] at before after
    omega
  have found := (mem_findRows.mp newest.among).1
  have found' := (mem_findRows.mp newest'.among).1
  rw [same, found'] at found
  exact Prod.ext same (Option.some.inj found).symm

theorem claimCandidate_newest (first : claimCandidate userId now w = some row) :
    Newest userId now w row := by
  have order := findRows_ordered w.inflows fun inflow =>
    inflow.userId = some userId ∧ inflow.isMatched = false ∧ inflow.sourceType = none ∧
      inflow.currency = .ngn ∧ now - claimInflowWindowMs ≤ inflow.createdAt ∧
      minPartialRepaymentNgn ≤ inflow.amount
  unfold claimCandidate at first
  obtain ⟨among, least⟩ := @Paging.head_by (Nat × Inflow) Time (· ≥ ·) _ _ _
    (fun row => row.2.createdAt) _ _ order _ first
  refine ⟨among, fun other member => ?_⟩
  rcases least other member with rfl | ⟨later, before⟩
  · exact .inr ⟨rfl, le_rfl⟩
  · rcases later.lt_or_eq with earlier | same
    · exact .inl earlier
    · exact .inr ⟨same, (before same.ge).le⟩

/-- Where anything can be claimed, there is a newest. -/
theorem exists_newest (among : row ∈ candidates userId now w) :
    ∃ first, claimCandidate userId now w = some first := by
  have sorted := List.ne_nil_of_mem ((List.mem_insertionSort fun a b : Nat × Inflow =>
    b.2.createdAt ≤ a.2.createdAt).mpr among)
  exact Option.isSome_iff_exists.mp (List.isSome_head?.mpr sorted)

theorem claimCandidate_iff :
    claimCandidate userId now w = some row ↔ Newest userId now w row := by
  refine ⟨claimCandidate_newest, fun newest => ?_⟩
  obtain ⟨first, found⟩ := exists_newest newest.among
  rw [found, (claimCandidate_newest found).unique newest]

/-- The list offers exactly the trusted rows of the query. -/
theorem offered_iff : row ∈ unmatchedInflowsOf userId w ∧ Offered now (unmatchedInflowRow row) ↔
    row ∈ candidates userId now w ∧ untrusted row.2 = false := by
  have status : (unmatchedInflowRow row).status = .claimable ↔
      minPartialRepaymentNgn ≤ row.2.amount := by
    by_cases below : row.2.amount < minPartialRepaymentNgn
    · simp [unmatchedInflowRow, below, not_le.mpr below]
    · simp [unmatchedInflowRow, below, not_lt.mp below]
  have received : (unmatchedInflowRow row).receivedAt = row.2.createdAt := rfl
  rw [Offered, status, received, unmatchedInflowsOf, candidates, List.mem_filter,
    List.mem_insertionSort, mem_findRows, mem_findRows]
  simp only [decide_eq_true_eq, Bool.not_eq_true']
  tauto

end Rows

/-- The user claims for an ACTIVE loan of theirs that nobody holds; inflows with a repayment
are matched. -/
structure Claiming (userId loanId : Nat) (i : Answer) (w : World) : Prop where
  succeeds : i.fails = false
  answered : i.lost = false
  loan : ∃ loan, w.loans[loanId]? = some loan ∧ loan.userId = userId ∧ loan.status = .active
  free : w.rowLock loanId = none
  ledger : ∀ r ∈ w.repayments, ∀ inflow, w.inflows[r.inflowId]? = some inflow →
    inflow.isMatched = true

section Claim
variable {tid userId loanId inflowId : Nat} {i : Answer} {w : World}

theorem Claiming.active (claiming : Claiming userId loanId i w) :
    ∃ loan, findActiveLoan userId loanId w = .ok loan := by
  obtain ⟨loan, found, owner, active⟩ := claiming.loan
  exact ⟨loan, by simp [findActiveLoan, findLoan, found, owner, active, bind, Except.bind]⟩

/-- An untrusted inflow is not found; any other is credited, with no floor. -/
theorem applyInflowToLoan_atOnce {row : Nat × Inflow} (claiming : Claiming userId loanId i w)
    (among : row ∈ candidates userId i.now w) :
    (applyInflowToLoan tid userId row.1 loanId).atOnce i w =
      if untrusted row.2 then some (.error .inflowNotFound, w)
      else (creditInflow tid (claimOf loanId row)).atOnce i w := by
  obtain ⟨loan, active⟩ := claiming.active
  obtain ⟨stored, holds⟩ := mem_findRows.mp among
  obtain ⟨mine, unmatched, _, ngn, _⟩ := of_decide_eq_true holds
  have found : findInflow userId row.1 w = .ok row.2 := by simp [findInflow, stored, mine, ngn]
  rw [applyInflowToLoan, Proc.atOnce_bind, query_atOnce claiming.succeeds, active]
  simp only [Option.bind_some]
  rw [Proc.atOnce_bind, queryAs_atOnce claiming.succeeds, found]
  cases distrusted : untrusted row.2 <;>
    simp [claimable, unmatched, distrusted, Proc.ofExcept, claimOf]

theorem claimInflow_atOnce (claiming : Claiming userId loanId i w) :
    (claimInflow tid userId loanId).atOnce i w =
      match claimCandidate userId i.now w with
      | none => some (.error .noUnmatchedInflow, w)
      | some row => (applyInflowToLoan tid userId row.1 loanId).atOnce i w := by
  obtain ⟨loan, active⟩ := claiming.active
  rw [claimInflow, Proc.atOnce_bind, query_atOnce claiming.succeeds, active]
  simp only [Except.map, Option.bind_some]
  rw [Proc.atOnce_bind, query_atOnce claiming.succeeds]
  cases claimCandidate userId i.now w <;> rfl

/-- A trusted inflow of the query is credited. -/
theorem credit_of_candidate {row : Nat × Inflow} (claiming : Claiming userId loanId i w)
    (among : row ∈ candidates userId i.now w) :
    ∃ result w' r, (creditInflow tid (claimOf loanId row)).atOnce i w = some (result, w') ∧
      w'.repayments = w.repayments ++ [r] ∧ r.loanId = loanId ∧ r.inflowId = row.1 := by
  obtain ⟨loan, found, _, active⟩ := claiming.loan
  obtain ⟨stored, holds⟩ := mem_findRows.mp among
  obtain ⟨_, unmatched, _⟩ := of_decide_eq_true holds
  have accepts : Accepts (claimOf loanId row) w := by
    refine ⟨rfl, ⟨loan, found, active⟩, (List.getElem?_eq_some_iff.mp stored).1, ?_⟩
    intro r member same
    have isMatched := claiming.ledger r member row.2 (by rw [same]; exact stored)
    rw [unmatched] at isMatched
    cases isMatched
  obtain ⟨w', ran, same⟩ :=
    creditInflow_atOnce tid (claimOf loanId row) claiming.succeeds claiming.answered claiming.free
  rcases creditOnce_cases (claimOf loanId row) i.now w with
    ⟨_, refused⟩ | ⟨before, credit, after, _, _, wrote, once⟩
  · rw [accepts.writes i.now] at refused
    cases refused
  · rw [once] at same
    exact ⟨_, w', repaymentRow (claimOf loanId row) credit i.now, ran,
      (congrArg World.repayments same).trans wrote.repayments, rfl, rfl⟩

/-- A claim credits the newest row of its query, if that is trusted, and nothing else. -/
theorem claimCredits_iff (claiming : Claiming userId loanId i w) :
    ClaimCredits tid userId loanId inflowId i w ↔
      ∃ inflow, Newest userId i.now w (inflowId, inflow) ∧ untrusted inflow = false := by
  have nothing {result : Except AppError CreditInflowResult} {w' : World} {e : AppError}
      {r : LoanRepayment} (ended : some (Except.error e, w) = some (result, w'))
      (wrote : w'.repayments = w.repayments ++ [r]) : False := by
    obtain ⟨-, rfl⟩ := Prod.mk.inj (Option.some.inj ended)
    simpa using congrArg List.length wrote
  rw [ClaimCredits, claimInflow_atOnce claiming]
  cases chosen : claimCandidate userId i.now w with
  | none =>
    constructor
    · rintro ⟨_, _, _, ended, wrote, _⟩
      exact (nothing ended wrote).elim
    · rintro ⟨inflow, newest, _⟩
      rw [claimCandidate_iff.mpr newest] at chosen
      cases chosen
  | some row =>
    have newest := claimCandidate_newest chosen
    dsimp only
    rw [applyInflowToLoan_atOnce claiming newest.among]
    cases distrusted : untrusted row.2 with
    | true =>
      constructor
      · rintro ⟨_, _, _, ended, wrote, _⟩
        exact (nothing ended wrote).elim
      · rintro ⟨inflow, first, trusted⟩
        obtain rfl := newest.unique first
        rw [distrusted] at trusted
        cases trusted
    | false =>
      obtain ⟨result, w', r, ran, wrote, onLoan, used⟩ :=
        @credit_of_candidate tid userId loanId i w row claiming newest.among
      simp only [Bool.false_eq_true, if_false]
      constructor
      · rintro ⟨_, _, r', again, wrote', _, rfl⟩
        obtain ⟨-, rfl⟩ := Prod.mk.inj (Option.some.inj (ran.symm.trans again))
        obtain rfl : r = r' := by simpa using wrote.symm.trans wrote'
        exact ⟨row.2, by rw [used]; exact newest, distrusted⟩
      · rintro ⟨inflow, first, _⟩
        obtain rfl := newest.unique first
        exact ⟨result, w', r, ran, wrote, onLoan, used⟩

end Claim

/-- The claim credits one of the items that are offered, if there are any, and the newest. -/
structure Agrees (tid userId loanId : Nat) (i : Answer) (w : World)
    (items : List UnmatchedInflowRow) : Prop where
  credits : (∃ inflowId, ClaimCredits tid userId loanId inflowId i w) ↔
    ∃ item ∈ items, Offered i.now item
  newest : ∀ inflowId, ClaimCredits tid userId loanId inflowId i w →
    ∃ item ∈ items, item.id = inflowId ∧ Offered i.now item ∧
      ∀ other ∈ items, Offered i.now other → other.receivedAt ≤ item.receivedAt

/-- No untrusted row is newer than all the trusted ones. -/
def NewestTrusted (userId : Nat) (now : Time) (w : World) : Prop :=
  ∀ row, Newest userId now w row → untrusted row.2 = true →
    ∀ other ∈ candidates userId now w, untrusted other.2 = true

theorem exists_offered_iff {userId : Nat} {now : Time} {w : World} :
    (∃ item ∈ (unmatchedInflowsOf userId w).map unmatchedInflowRow, Offered now item) ↔
      ∃ row ∈ candidates userId now w, untrusted row.2 = false := by
  constructor
  · rintro ⟨item, member, offered⟩
    obtain ⟨row, listed, rfl⟩ := List.mem_map.mp member
    exact ⟨row, offered_iff.mp ⟨listed, offered⟩⟩
  · rintro ⟨row, among, trusted⟩
    obtain ⟨listed, offered⟩ := offered_iff.mpr ⟨among, trusted⟩
    exact ⟨_, List.mem_map_of_mem listed, offered⟩

/-- What is credited is the newest of what is offered. -/
theorem newest_offered {userId : Nat} {now : Time} {w : World} {row : Nat × Inflow}
    (newest : Newest userId now w row) (trusted : untrusted row.2 = false) :
    ∃ item ∈ (unmatchedInflowsOf userId w).map unmatchedInflowRow, item.id = row.1 ∧
      Offered now item ∧ ∀ other ∈ (unmatchedInflowsOf userId w).map unmatchedInflowRow,
        Offered now other → other.receivedAt ≤ item.receivedAt := by
  obtain ⟨listed, offered⟩ := offered_iff.mpr ⟨newest.among, trusted⟩
  refine ⟨_, List.mem_map_of_mem listed, rfl, offered, fun other member also => ?_⟩
  obtain ⟨row', listed', rfl⟩ := List.mem_map.mp member
  rcases newest.latest row' (offered_iff.mp ⟨listed', also⟩).1 with earlier | ⟨same, _⟩
  · exact earlier.le
  · exact same.le

/-- A claim finds what the list shows, unless the newest row is one that the list leaves out. -/
theorem claim_agrees_iff (tid : Nat) {userId loanId : Nat} {i : Answer} {w : World}
    (claiming : Claiming userId loanId i w) :
    ∃ items, (listUnmatchedInflowsForUser userId).atOnce i w = some (.ok items, w) ∧
      (Agrees tid userId loanId i w items ↔ NewestTrusted userId i.now w) := by
  refine ⟨_, query_atOnce claiming.succeeds, ?_⟩
  constructor
  · intro agrees row newest distrusted other among
    by_contra trusted
    obtain ⟨inflowId, credits⟩ := agrees.credits.mpr
      (exists_offered_iff.mpr ⟨other, among, Bool.eq_false_of_not_eq_true trusted⟩)
    obtain ⟨inflow, first, clean⟩ := (claimCredits_iff claiming).mp credits
    obtain rfl := newest.unique first
    rw [distrusted] at clean
    cases clean
  · intro trustedFirst
    refine ⟨?_, fun inflowId credits => ?_⟩
    · rw [exists_offered_iff]
      constructor
      · rintro ⟨inflowId, credits⟩
        obtain ⟨inflow, first, clean⟩ := (claimCredits_iff claiming).mp credits
        exact ⟨_, first.among, clean⟩
      · rintro ⟨other, among, trusted⟩
        obtain ⟨row, chosen⟩ := exists_newest among
        have first := claimCandidate_newest chosen
        refine ⟨row.1, (claimCredits_iff claiming).mpr ⟨row.2, first, ?_⟩⟩
        by_contra distrusted
        have all := trustedFirst row first (by simpa using distrusted) other among
        rw [trusted] at all
        cases all
    · obtain ⟨inflow, first, clean⟩ := (claimCredits_iff claiming).mp credits
      exact newest_offered first clean

def transfer (createdAt : Time) (reference : String) (reason : Option UnmatchedReason) : Inflow where
  userId := some 0
  amount := 50000
  currency := .ngn
  receivingAddress := "0100000001"
  providerReference := reference
  unmatchedReason := reason
  createdAt := createdAt

def transfers (reason : UnmatchedReason) : World where
  loans := [{
    userId := 0
    disbursementAccountId := 0
    collateralAmountSat := 250000
    principalNgn := 100000
    satNgnRateAtCreation := 6 / 10
    status := .active
    collateralReceivedAt := some 0 }]
  inflows := [transfer 10 "order-0" (some .multipleActiveLoans), transfer 20 "order-1" (some reason)]

def later : Answer := { now := 30 }

theorem transfers_claiming (reason : UnmatchedReason) : Claiming 0 0 later (transfers reason) :=
  ⟨rfl, rfl, ⟨_, rfl, rfl, rfl⟩, rfl, by simp [transfers]⟩

/-- With a newest row that is trusted, the claim credits it. -/
theorem claim_agrees_iff_trusted : ∃ items,
    (listUnmatchedInflowsForUser 0).atOnce later (transfers .noActiveLoans) =
      some (.ok items, transfers .noActiveLoans) ∧
    Agrees 0 0 0 later (transfers .noActiveLoans) items := by
  obtain ⟨items, listed, agrees⟩ := claim_agrees_iff 0 (transfers_claiming .noActiveLoans)
  refine ⟨items, listed, agrees.mpr fun row newest distrusted => ?_⟩
  have trusted : ∀ row ∈ candidates 0 30 (transfers .noActiveLoans), untrusted row.2 = false := by
    decide +kernel
  rw [trusted row newest.among] at distrusted
  cases distrusted

/-- An inflow that PalmPay did not confirm hides the claimable one before it. -/
theorem untrusted_newest_hides : ∃ items,
    (listUnmatchedInflowsForUser 0).atOnce later (transfers .requeryMismatch) =
      some (.ok items, transfers .requeryMismatch) ∧
    ¬ Agrees 0 0 0 later (transfers .requeryMismatch) items := by
  refine ⟨_, query_atOnce rfl, fun agrees => ?_⟩
  have offered : ∃ row ∈ candidates 0 30 (transfers .requeryMismatch), untrusted row.2 = false := by
    decide +kernel
  obtain ⟨inflowId, credits⟩ := agrees.credits.mpr (exists_offered_iff.mpr offered)
  obtain ⟨inflow, newest, trusted⟩ := (claimCredits_iff (transfers_claiming _)).mp credits
  have chosen : (claimCandidate 0 later.now (transfers .requeryMismatch)).all
      fun row => untrusted row.2 := by decide +kernel
  rw [claimCandidate_iff.mpr newest, Option.all_some, trusted] at chosen
  cases chosen

end Bitmonie.ClaimedInflow
