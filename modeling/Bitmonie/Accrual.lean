import Bitmonie.Schema
import Bitmonie.DayAccrual
import Mathlib.Data.List.Sort
import Mathlib.Data.List.MinMax

/-! The accrual service and the repayment waterfall: a balance is never stored, it is
replayed from the repayment rows. The replay is the day-by-day sum of the charges,
whatever the order of the rows. -/
namespace Bitmonie
open DayAccrual

structure AccrualLoanInput where
  principalNgn : ℚ
  dailyInterestRateBps : Int
  dailyCustodyFeeNgn : ℚ
  collateralReceivedAt : Option Time

structure AccrualRepaymentInput where
  appliedToPrincipal : ℚ
  appliedToInterest : ℚ
  appliedToCustody : ℚ
  createdAt : Time
  deriving DecidableEq

structure Outstanding where
  principalNgn : ℚ
  accruedInterestNgn : ℚ
  accruedCustodyNgn : ℚ
  totalOutstandingNgn : ℚ
  daysElapsed : Nat
  asOf : Time
  deriving DecidableEq

namespace AccrualService

def msPerDay : Int := 86400000
def bpsDenominator : ℚ := 10000

/-- Elapsed time in 24h buckets, rounded up. -/
def ceilDays (start stop : Int) : Nat :=
  let ms := stop - start
  if ms ≤ 0 then 0 else (-(-ms / msPerDay)).toNat

theorem ceilDays_mono (start : Int) {a b : Int} (le : a ≤ b) :
    ceilDays start a ≤ ceilDays start b := by
  simp only [ceilDays, msPerDay]
  split <;> split <;> omega

/-- Rows that landed by `asOf`, oldest first. -/
def relevant (repayments : List AccrualRepaymentInput) (asOf : Time) :
    List AccrualRepaymentInput :=
  (repayments.filter fun r => r.createdAt ≤ asOf).insertionSort fun a b =>
    a.createdAt ≤ b.createdAt

structure Segments where
  currentPrincipal : ℚ
  curDay : Nat
  grossInterest : ℚ

def rateFactor (dailyInterestRateBps : Int) : ℚ := dailyInterestRateBps / bpsDenominator

/-- One turn of the loop, up to the test that leaves it. -/
def Segments.turn (start : Time) (rateFactor : ℚ) (finalDay : Nat) (seg : Segments)
    (rep : AccrualRepaymentInput) : Segments :=
  let repDayRaw := ceilDays start rep.createdAt
  let repDay := min repDayRaw finalDay
  let segmentDays : Int := (repDay : Int) - seg.curDay
  { grossInterest :=
      if segmentDays > 0 then seg.grossInterest + seg.currentPrincipal * rateFactor * segmentDays
      else seg.grossInterest
    curDay := repDay
    currentPrincipal := seg.currentPrincipal - rep.appliedToPrincipal }

def walk (start : Time) (rateFactor : ℚ) (finalDay : Nat) :
    Segments → List AccrualRepaymentInput → Segments
  | seg, [] => seg
  | seg, rep :: rest =>
    let seg := seg.turn start rateFactor finalDay rep
    if seg.curDay ≥ finalDay then seg else walk start rateFactor finalDay seg rest

/-- Every value the loop's variables take. -/
def walked (start : Time) (rateFactor : ℚ) (finalDay : Nat) :
    Segments → List AccrualRepaymentInput → List Segments
  | seg, [] => [seg]
  | seg, rep :: rest =>
    let next := seg.turn start rateFactor finalDay rep
    seg :: if next.curDay ≥ finalDay then [next] else walked start rateFactor finalDay next rest

/-- The days after the last segment. -/
def tail (rateFactor : ℚ) (finalDay : Nat) (seg : Segments) : ℚ :=
  if seg.curDay < finalDay then
    let tailDays := finalDay - seg.curDay
    seg.grossInterest + seg.currentPrincipal * rateFactor * tailDays
  else seg.grossInterest

def grossInterest (principalNgn : ℚ) (dailyInterestRateBps : Int) (start : Time)
    (finalDay : Nat) (relevant : List AccrualRepaymentInput) : ℚ :=
  let rateFactor := rateFactor dailyInterestRateBps
  tail rateFactor finalDay (walk start rateFactor finalDay ⟨principalNgn, 0, 0⟩ relevant)

def compute (loan : AccrualLoanInput) (repayments : List AccrualRepaymentInput)
    (asOf : Time) : Outstanding :=
  match loan.collateralReceivedAt with
  | none => ⟨loan.principalNgn, 0, 0, loan.principalNgn, 0, asOf⟩
  | some start =>
    let finalDay := ceilDays start asOf
    let relevant := relevant repayments asOf
    let grossInterest :=
      grossInterest loan.principalNgn loan.dailyInterestRateBps start finalDay relevant
    let paidPrincipal := (relevant.map (·.appliedToPrincipal)).sum
    let paidInterest := (relevant.map (·.appliedToInterest)).sum
    let outstandingPrincipal := max (loan.principalNgn - paidPrincipal) 0
    let outstandingInterest := max (grossInterest - paidInterest) 0
    -- The custody fee is gone: the stored daily fee of legacy loans is not read.
    let outstandingCustody := 0
    { principalNgn := outstandingPrincipal
      accruedInterestNgn := outstandingInterest
      accruedCustodyNgn := outstandingCustody
      totalOutstandingNgn := outstandingPrincipal + outstandingInterest + outstandingCustody
      daysElapsed := finalDay
      asOf := asOf }

def drops (start : Time) (reps : List AccrualRepaymentInput) : List (Nat × ℚ) :=
  reps.map fun r => (ceilDays start r.createdAt, r.appliedToPrincipal)

@[simp] theorem drops_cons (start : Time) (r : AccrualRepaymentInput)
    (reps : List AccrualRepaymentInput) : drops start (r :: reps) =
      (ceilDays start r.createdAt, r.appliedToPrincipal) :: drops start reps := rfl

theorem drops_perm (start : Time) {reps reps' : List AccrualRepaymentInput}
    (perm : reps.Perm reps') : (drops start reps).Perm (drops start reps') := perm.map _

theorem total_drops (start : Time) (reps : List AccrualRepaymentInput) :
    total (drops start reps) = (reps.map (·.appliedToPrincipal)).sum := by
  simp [total, drops, Function.comp_def]

theorem relevant_perm (repayments : List AccrualRepaymentInput) (asOf : Time) :
    (relevant repayments asOf).Perm (repayments.filter fun r => r.createdAt ≤ asOf) :=
  List.perm_insertionSort _ _

theorem relevant_sorted (repayments : List AccrualRepaymentInput) (asOf : Time) :
    (relevant repayments asOf).Pairwise fun a b => a.createdAt ≤ b.createdAt := by
  have total : Std.Total fun a b : AccrualRepaymentInput => a.createdAt ≤ b.createdAt :=
    ⟨fun a b => le_total a.createdAt b.createdAt⟩
  have trans : IsTrans AccrualRepaymentInput fun a b => a.createdAt ≤ b.createdAt :=
    ⟨fun _ _ _ => le_trans⟩
  exact List.pairwise_insertionSort _ _

theorem relevant_landed {repayments : List AccrualRepaymentInput} {asOf : Time} :
    ∀ r ∈ relevant repayments asOf, r.createdAt ≤ asOf := by
  intro r member
  simpa using (List.mem_filter.mp ((relevant_perm repayments asOf).mem_iff.mp member)).2

/-- The walk and its tail charge each remaining day once, at the principal of that day. -/
theorem tail_walk (start : Time) (rate : ℚ) {finalDay : Nat} {seg : Segments}
    {reps : List AccrualRepaymentInput}
    (sorted : reps.Pairwise fun a b => a.createdAt ≤ b.createdAt)
    (later : ∀ r ∈ reps, seg.curDay ≤ ceilDays start r.createdAt)
    (landed : ∀ r ∈ reps, ceilDays start r.createdAt ≤ finalDay) (le : seg.curDay ≤ finalDay) :
    tail rate finalDay (walk start rate finalDay seg reps) = seg.grossInterest +
      chargedFrom seg.currentPrincipal rate (drops start reps) seg.curDay finalDay := by
  induction reps generalizing seg with
  | nil =>
    rw [drops, List.map_nil, chargedFrom_flat _ _ (by simp), walk, tail]
    split
    · rfl
    · have same : finalDay - seg.curDay = 0 := by omega
      simp [same]
  | cons rep rest ih =>
    obtain ⟨first, sorted⟩ := List.pairwise_cons.mp sorted
    let k := ceilDays start rep.createdAt
    have early : seg.curDay ≤ k := later rep (by simp)
    have due : k ≤ finalDay := landed rep (by simp)
    let next := seg.turn start rate finalDay rep
    have day : next.curDay = k := Nat.min_eq_left due
    have gross : next.grossInterest =
        seg.grossInterest + seg.currentPrincipal * rate * ((k - seg.curDay : Nat) : ℚ) := by
      have segment : ((min k finalDay : Nat) : Int) - seg.curDay = (k - seg.curDay : Nat) := by
        omega
      have turned : next.grossInterest = if ((k - seg.curDay : Nat) : Int) > 0 then
          seg.grossInterest + seg.currentPrincipal * rate * ((k - seg.curDay : Nat) : Int)
          else seg.grossInterest := by rw [← segment]; rfl
      rw [turned]
      split
      · rw [Int.cast_natCast]
      · have same : k - seg.curDay = 0 := by omega
        simp [same]
    have flat : ∀ drop ∈ drops start (rep :: rest), k ≤ drop.1 := by
      intro drop member
      rcases List.mem_cons.mp member with rfl | member
      · exact le_rfl
      · obtain ⟨r, after, rfl⟩ := List.mem_map.mp member
        exact ceilDays_mono start (first r after)
    have split_at : chargedFrom seg.currentPrincipal rate (drops start (rep :: rest))
          seg.curDay finalDay =
        seg.currentPrincipal * rate * ((k - seg.curDay : Nat) : ℚ) +
          chargedFrom next.currentPrincipal rate (drops start rest) k finalDay := by
      rw [← chargedFrom_add _ _ _ early due, chargedFrom_flat _ _ flat, drops_cons,
        chargedFrom_cons _ _ _ _ _ le_rfl]
      rfl
    rw [split_at, ← add_assoc, ← gross]
    rw [show walk start rate finalDay seg (rep :: rest) =
      if next.curDay ≥ finalDay then next else walk start rate finalDay next rest from rfl]
    split
    · have last : k = finalDay := by omega
      rw [last, chargedFrom_self, add_zero, tail, if_neg (by omega)]
    · rw [ih sorted (fun r member => day ▸ ceilDays_mono start (first r member))
        (fun r member => landed r (by simp [member])) (day ▸ due), day]

/-- Gross interest over any order of the rows is the sum of the daily charges. -/
theorem grossInterest_relevant (principal : ℚ) (bps : Int) (start asOf : Time)
    (repayments : List AccrualRepaymentInput) :
    grossInterest principal bps start (ceilDays start asOf) (relevant repayments asOf) =
      charged principal (rateFactor bps)
        (drops start (repayments.filter fun r => r.createdAt ≤ asOf)) (ceilDays start asOf) := by
  rw [grossInterest, tail_walk start _ (relevant_sorted _ _) (by simp)
    (fun r member => ceilDays_mono start (relevant_landed r member)) (by simp), zero_add,
    ← charged_eq_chargedFrom]
  exact charged_perm (drops_perm start (relevant_perm repayments asOf)) _ _ _

/-- Every principal the loop carries is the loan's less a part of the rows. -/
theorem walked_principal (start : Time) (rate : ℚ) (finalDay : Nat) {seg final : Segments}
    {reps : List AccrualRepaymentInput} (nonneg : ∀ r ∈ reps, 0 ≤ r.appliedToPrincipal)
    (member : final ∈ walked start rate finalDay seg reps) :
    seg.currentPrincipal - (reps.map (·.appliedToPrincipal)).sum ≤ final.currentPrincipal := by
  induction reps generalizing seg with
  | nil =>
    obtain rfl := List.mem_singleton.mp member
    simp
  | cons rep rest ih =>
    have first := nonneg rep (by simp)
    have rest_nonneg : 0 ≤ (rest.map (·.appliedToPrincipal)).sum := by
      apply List.sum_nonneg
      intro a among
      obtain ⟨r, after, rfl⟩ := List.mem_map.mp among
      exact nonneg r (List.mem_cons_of_mem _ after)
    simp only [List.map_cons, List.sum_cons]
    rcases List.mem_cons.mp member with rfl | member
    · linarith
    · split at member
      · obtain rfl := List.mem_singleton.mp member
        simp only [Segments.turn]
        linarith
      · have := ih (fun r m => nonneg r (by simp [m])) member
        simp only [Segments.turn] at this
        linarith

def landed (repayments : List AccrualRepaymentInput) (asOf : Time) : List AccrualRepaymentInput :=
  repayments.filter fun r => r.createdAt ≤ asOf

/-- The principal that bears interest on a day: a row counts from its own day on. -/
def principalOn (principalNgn : ℚ) (start asOf : Time) (repayments : List AccrualRepaymentInput)
    (day : Nat) : ℚ :=
  principalNgn - (((landed repayments asOf).filter fun r =>
    ceilDays start r.createdAt ≤ day).map (·.appliedToPrincipal)).sum

def interestByDay (principalNgn : ℚ) (dailyInterestRateBps : Int) (start asOf : Time)
    (repayments : List AccrualRepaymentInput) : ℚ :=
  max 0 (∑ day ∈ Finset.range (ceilDays start asOf),
      principalOn principalNgn start asOf repayments day * (dailyInterestRateBps / 10000) -
    ((landed repayments asOf).map (·.appliedToInterest)).sum)

def principalByDay (principalNgn : ℚ) (asOf : Time) (repayments : List AccrualRepaymentInput) : ℚ :=
  max 0 (principalNgn - ((landed repayments asOf).map (·.appliedToPrincipal)).sum)

theorem principalOn_eq (principalNgn : ℚ) (start asOf : Time)
    (repayments : List AccrualRepaymentInput) (day : Nat) :
    principalOn principalNgn start asOf repayments day =
      principalNgn - dropped (drops start (landed repayments asOf)) day := by
  rw [principalOn, dropped, drops, List.filter_map, List.map_map]
  rfl

/-- The walk over the segments charges what the days charge. -/
theorem grossInterest_by_day (principalNgn : ℚ) (dailyInterestRateBps : Int) (start asOf : Time)
    (repayments : List AccrualRepaymentInput) :
    grossInterest principalNgn dailyInterestRateBps start (ceilDays start asOf)
        (relevant repayments asOf) =
      ∑ day ∈ Finset.range (ceilDays start asOf),
        principalOn principalNgn start asOf repayments day * (dailyInterestRateBps / 10000) := by
  rw [grossInterest_relevant, charged]
  refine Finset.sum_congr rfl fun day _ => ?_
  rw [principalOn_eq]
  rfl

theorem relevant_sum (repayments : List AccrualRepaymentInput) (asOf : Time)
    (field : AccrualRepaymentInput → ℚ) :
    ((relevant repayments asOf).map field).sum = ((landed repayments asOf).map field).sum :=
  ((relevant_perm repayments asOf).map field).sum_eq

/-- What the service computes, in the sums over the rows that count. -/
theorem compute_eq {loan : AccrualLoanInput} {start : Time}
    (since : loan.collateralReceivedAt = some start) (repayments : List AccrualRepaymentInput)
    (asOf : Time) :
    let rows := landed repayments asOf
    let principal := max (loan.principalNgn - (rows.map (·.appliedToPrincipal)).sum) 0
    let interest := max (charged loan.principalNgn (rateFactor loan.dailyInterestRateBps)
      (drops start rows) (ceilDays start asOf) - (rows.map (·.appliedToInterest)).sum) 0
    compute loan repayments asOf =
      ⟨principal, interest, 0, principal + interest + 0, ceilDays start asOf, asOf⟩ := by
  simp only [compute, since]
  rw [grossInterest_relevant, relevant_sum, relevant_sum]
  rfl

/-- The replay does not look at the order of the rows. -/
theorem compute_perm (loan : AccrualLoanInput) {repayments repayments' : List AccrualRepaymentInput}
    (perm : repayments.Perm repayments') (asOf : Time) :
    compute loan repayments asOf = compute loan repayments' asOf := by
  have order : (landed repayments asOf).Perm (landed repayments' asOf) := perm.filter _
  cases since : loan.collateralReceivedAt with
  | none => simp only [compute, since]
  | some start =>
    rw [compute_eq since, compute_eq since, charged_perm (drops_perm start order),
      (order.map (·.appliedToPrincipal)).sum_eq, (order.map (·.appliedToInterest)).sum_eq]

/-- The service equals the day-by-day reference, whatever the order of the rows: rows before
activation count from day 0, rows after `asOf` not at all. -/
theorem compute_by_day (principalNgn : ℚ) (dailyInterestRateBps : Int) (dailyCustodyFeeNgn : ℚ)
    (start asOf : Time) (repayments : List AccrualRepaymentInput) :
    let loan : AccrualLoanInput :=
      ⟨principalNgn, dailyInterestRateBps, dailyCustodyFeeNgn, some start⟩
    let outstanding := compute loan repayments asOf
    outstanding.accruedInterestNgn =
        interestByDay principalNgn dailyInterestRateBps start asOf repayments ∧
      outstanding.principalNgn = principalByDay principalNgn asOf repayments ∧
      ∀ repayments', repayments.Perm repayments' → compute loan repayments' asOf = outstanding := by
  refine ⟨?_, ?_, fun repayments' perm => (compute_perm _ perm asOf).symm⟩
  · rw [interestByDay, max_comm, ← grossInterest_by_day, ← relevant_sum]
    rfl
  · rw [principalByDay, max_comm, ← relevant_sum]
    rfl

/-- A row before activation, two on the last day that counts, and one after it. -/
theorem compute_by_day_sample :
    let rows : List AccrualRepaymentInput :=
      [⟨30, 1, 0, 86400001⟩, ⟨20, 0, 0, -5⟩, ⟨10, 0, 0, 86400001⟩, ⟨500, 0, 0, 200000000⟩]
    let outstanding := compute ⟨100, 1000, 0, some 0⟩ rows 172800000
    outstanding.accruedInterestNgn = 15 ∧ outstanding.principalNgn = 40 ∧
      compute ⟨100, 1000, 0, some 0⟩ rows.reverse 172800000 = outstanding := by
  obtain ⟨interest, principal, order⟩ := compute_by_day 100 1000 0 0 172800000
    [⟨30, 1, 0, 86400001⟩, ⟨20, 0, 0, -5⟩, ⟨10, 0, 0, 86400001⟩, ⟨500, 0, 0, 200000000⟩]
  refine ⟨interest.trans (by decide +kernel), principal.trans (by decide +kernel), ?_⟩
  exact order _ (List.reverse_perm _).symm

end AccrualService

structure Split where
  appliedToCustody : ℚ
  appliedToInterest : ℚ
  appliedToPrincipal : ℚ
  overpayNgn : ℚ
  deriving DecidableEq

/-- Custody, then interest, then principal; the rest is overpay. -/
def waterfall (amount : ℚ) (outstanding : Outstanding) : Split :=
  let remaining := amount
  let appliedToCustody := min remaining outstanding.accruedCustodyNgn
  let remaining := remaining - appliedToCustody
  let appliedToInterest := min remaining outstanding.accruedInterestNgn
  let remaining := remaining - appliedToInterest
  let appliedToPrincipal := min remaining outstanding.principalNgn
  let remaining := remaining - appliedToPrincipal
  ⟨appliedToCustody, appliedToInterest, appliedToPrincipal, remaining⟩

theorem waterfall_sum (amount : ℚ) (outstanding : Outstanding) :
    let split := waterfall amount outstanding
    split.appliedToCustody + split.appliedToInterest + split.appliedToPrincipal +
      split.overpayNgn = amount := by
  simp only [waterfall]
  ring

end Bitmonie
