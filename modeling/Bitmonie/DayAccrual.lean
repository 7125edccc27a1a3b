import Mathlib.Algebra.BigOperators.Intervals
import Mathlib.Algebra.Order.BigOperators.Ring.Finset
import Mathlib.Tactic.Linarith

/-! Simple interest on a balance that drops in steps: a drop on day `k` counts from
day `k` on, and each day charges `rate` on the balance of that day. Stated over any
commutative ring; a running ledger computes the same sums one payment at a time. -/
namespace Bitmonie.DayAccrual
open Finset

section Charges
variable {R : Type} [CommRing R]

def dropped (drops : List (Nat × R)) (d : Nat) : R :=
  ((drops.filter fun drop => drop.1 ≤ d).map Prod.snd).sum

def total (drops : List (Nat × R)) : R := (drops.map Prod.snd).sum

def charged (balance rate : R) (drops : List (Nat × R)) (day : Nat) : R :=
  ∑ d ∈ range day, (balance - dropped drops d) * rate

@[simp] theorem dropped_nil (d : Nat) : dropped ([] : List (Nat × R)) d = 0 := rfl

theorem dropped_cons (k : Nat) (a : R) (drops : List (Nat × R)) (d : Nat) :
    dropped ((k, a) :: drops) d = (if k ≤ d then a else 0) + dropped drops d := by
  by_cases due : k ≤ d <;> simp [dropped, due]

theorem dropped_perm {drops drops' : List (Nat × R)} (perm : drops.Perm drops') (d : Nat) :
    dropped drops d = dropped drops' d :=
  ((perm.filter _).map _).sum_eq

theorem charged_perm {drops drops' : List (Nat × R)} (perm : drops.Perm drops')
    (balance rate : R) (day : Nat) :
    charged balance rate drops day = charged balance rate drops' day := by
  simp only [charged, dropped_perm perm]

/-- Nothing has dropped before the first drop is due. -/
theorem dropped_eq_zero {drops : List (Nat × R)} {d : Nat}
    (later : ∀ drop ∈ drops, d < drop.1) : dropped drops d = 0 := by
  have none_due : (drops.filter fun drop => drop.1 ≤ d) = [] := by
    apply List.filter_eq_nil_iff.mpr
    intro drop member
    simpa using later drop member
  simp [dropped, none_due]

theorem dropped_eq_total {drops : List (Nat × R)} {d : Nat}
    (due : ∀ drop ∈ drops, drop.1 ≤ d) : dropped drops d = total drops := by
  have all_due : (drops.filter fun drop => drop.1 ≤ d) = drops :=
    List.filter_eq_self.mpr fun drop member => by simpa using due drop member
  simp [dropped, total, all_due]

theorem dropped_append (drops later : List (Nat × R)) (d : Nat) :
    dropped (drops ++ later) d = dropped drops d + dropped later d := by
  simp [dropped]

/-- The drops of one day drop together. -/
theorem dropped_on_day {drops : List (Nat × R)} {k : Nat} (day : ∀ drop ∈ drops, drop.1 = k)
    (d : Nat) : dropped drops d = if k ≤ d then total drops else 0 := by
  split
  · rename_i due
    exact dropped_eq_total fun drop member => (day drop member).trans_le due
  · rename_i early
    exact dropped_eq_zero fun drop member => by
      rw [day drop member]
      omega

theorem charged_congr {drops drops' : List (Nat × R)}
    (same : ∀ d, dropped drops d = dropped drops' d) (balance rate : R) (day : Nat) :
    charged balance rate drops day = charged balance rate drops' day := by
  simp only [charged, same]

/-- Drops from `day` on charge nothing less before it. -/
theorem charged_append (balance rate : R) (drops : List (Nat × R)) {later : List (Nat × R)}
    {day : Nat} (late : ∀ drop ∈ later, day ≤ drop.1) :
    charged balance rate (drops ++ later) day = charged balance rate drops day := by
  apply sum_congr rfl
  intro d member
  rw [dropped_append, dropped_eq_zero fun drop m => (mem_range.mp member).trans_le (late drop m),
    add_zero]

/-- Charges from `start` up to `day`: a walk over the drops adds these up piecewise. -/
def chargedFrom (balance rate : R) (drops : List (Nat × R)) (start day : Nat) : R :=
  ∑ d ∈ Ico start day, (balance - dropped drops d) * rate

theorem charged_eq_chargedFrom (balance rate : R) (drops : List (Nat × R)) (day : Nat) :
    charged balance rate drops day = chargedFrom balance rate drops 0 day := by
  simp [charged, chargedFrom]

@[simp] theorem chargedFrom_self (balance rate : R) (drops : List (Nat × R)) (day : Nat) :
    chargedFrom balance rate drops day day = 0 := by simp [chargedFrom]

theorem chargedFrom_add (balance rate : R) (drops : List (Nat × R)) {start middle day : Nat}
    (first : start ≤ middle) (second : middle ≤ day) :
    chargedFrom balance rate drops start middle + chargedFrom balance rate drops middle day =
      chargedFrom balance rate drops start day :=
  sum_Ico_consecutive _ first second

/-- Days before the next drop charge the same balance. -/
theorem chargedFrom_flat (balance rate : R) {drops : List (Nat × R)} {start day : Nat}
    (later : ∀ drop ∈ drops, day ≤ drop.1) :
    chargedFrom balance rate drops start day = balance * rate * ((day - start : Nat) : R) := by
  have same : ∀ d ∈ Ico start day, (balance - dropped drops d) * rate = balance * rate := by
    intro d member
    rw [dropped_eq_zero fun drop m => (mem_Ico.mp member).2.trans_le (later drop m), sub_zero]
  rw [chargedFrom, sum_congr rfl same, sum_const, Nat.card_Ico, nsmul_eq_mul, mul_comm]

/-- From its day on, a drop is a smaller balance. -/
theorem chargedFrom_cons (balance rate a : R) (drops : List (Nat × R)) {k start : Nat} (day : Nat)
    (due : k ≤ start) : chargedFrom balance rate ((k, a) :: drops) start day =
      chargedFrom (balance - a) rate drops start day := by
  apply sum_congr rfl
  intro d member
  rw [dropped_cons, if_pos (due.trans (mem_Ico.mp member).1)]
  ring

/-- After the last drop every day charges what is left. -/
theorem charged_extend (balance rate : R) {drops : List (Nat × R)} {last day : Nat}
    (due : ∀ drop ∈ drops, drop.1 ≤ last) (le : last ≤ day) :
    charged balance rate drops day = charged balance rate drops last +
      (balance - total drops) * rate * ((day - last : Nat) : R) := by
  have left : ∀ d ∈ Ico last day,
      (balance - dropped drops d) * rate = (balance - total drops) * rate := by
    intro d member
    rw [dropped_eq_total fun drop m => (due drop m).trans (mem_Ico.mp member).1]
  rw [charged_eq_chargedFrom, ← chargedFrom_add _ _ _ (Nat.zero_le last) le,
    ← charged_eq_chargedFrom, chargedFrom, sum_congr rfl left, sum_const, Nat.card_Ico,
    nsmul_eq_mul]
  ring

/-- A drop on day `k` charges nothing less before day `k`. -/
theorem charged_cons (balance rate a : R) (drops : List (Nat × R)) {k day : Nat} (le : day ≤ k) :
    charged balance rate ((k, a) :: drops) day = charged balance rate drops day := by
  rw [charged_perm (List.perm_append_singleton (k, a) drops).symm, charged_append]
  simpa using le

end Charges

/-- Balance, charges not paid yet, and the last day charged. -/
structure Ledger (R : Type) where
  balance : R
  unpaid : R
  day : Nat
  deriving DecidableEq, Repr

section Ledger
variable {R : Type} [CommRing R]

def Ledger.tick (rate : R) (l : Ledger R) : Ledger R :=
  { l with unpaid := l.unpaid + l.balance * rate, day := l.day + 1 }

/-- One tick for each day up to `day`. -/
def Ledger.advance (rate : R) (day : Nat) (l : Ledger R) : Ledger R :=
  (Ledger.tick rate)^[day - l.day] l

theorem Ledger.iterate_tick (rate : R) (n : Nat) (l : Ledger R) :
    (Ledger.tick rate)^[n] l = ⟨l.balance, l.unpaid + l.balance * rate * n, l.day + n⟩ := by
  induction n generalizing l with
  | zero => simp
  | succ n ih =>
    rw [Function.iterate_succ_apply, ih]
    simp only [Ledger.tick, Ledger.mk.injEq, true_and, Nat.cast_add, Nat.cast_one]
    exact ⟨by ring, by omega⟩

@[simp] theorem Ledger.advance_balance (rate : R) (day : Nat) (l : Ledger R) :
    (l.advance rate day).balance = l.balance := by simp [Ledger.advance, Ledger.iterate_tick]

@[simp] theorem Ledger.advance_unpaid (rate : R) (day : Nat) (l : Ledger R) :
    (l.advance rate day).unpaid = l.unpaid + l.balance * rate * ((day - l.day : Nat) : R) := by
  simp [Ledger.advance, Ledger.iterate_tick]

theorem Ledger.advance_day (rate : R) {day : Nat} {l : Ledger R} (le : l.day ≤ day) :
    (l.advance rate day).day = day := by
  simp only [Ledger.advance, Ledger.iterate_tick]
  omega

theorem Ledger.advance_advance (rate : R) {l : Ledger R} {middle day : Nat} (first : l.day ≤ middle)
    (second : middle ≤ day) : (l.advance rate middle).advance rate day = l.advance rate day := by
  rw [Ledger.advance, Ledger.advance_day rate first, Ledger.advance, ← Function.iterate_add_apply,
    Nat.sub_add_sub_cancel second first, ← Ledger.advance]

end Ledger

variable {R : Type} [CommRing R] [LinearOrder R]

def Ledger.pay (amount : R) (l : Ledger R) : Ledger R :=
  { l with
    unpaid := l.unpaid - min amount l.unpaid
    balance := l.balance - min (amount - min amount l.unpaid) l.balance }

theorem Ledger.pay_zero {l : Ledger R} (balance : 0 ≤ l.balance) (unpaid : 0 ≤ l.unpaid) :
    l.pay 0 = l := by
  simp [Ledger.pay, min_eq_left balance, min_eq_left unpaid]

/-- What a ledger says about the drops and payments that led to it. -/
structure Ledger.Tracks (l : Ledger R) (initial rate : R) (drops : List (Nat × R))
    (paid : R) : Prop where
  due : ∀ drop ∈ drops, drop.1 ≤ l.day
  balance : l.balance = initial - total drops
  unpaid : l.unpaid = charged initial rate drops l.day - paid
  balance_nonneg : 0 ≤ l.balance
  unpaid_nonneg : 0 ≤ l.unpaid

theorem Ledger.Tracks.start [IsStrictOrderedRing R] {initial : R} (rate : R)
    (nonneg : 0 ≤ initial) : Ledger.Tracks ⟨initial, 0, 0⟩ initial rate [] 0 :=
  ⟨by simp, by simp [total], by simp [charged], nonneg, le_rfl⟩

theorem Ledger.Tracks.advance [IsStrictOrderedRing R] {l : Ledger R} {initial rate paid : R}
    {drops : List (Nat × R)} (tracks : l.Tracks initial rate drops paid) (rate_nonneg : 0 ≤ rate)
    {day : Nat} (le : l.day ≤ day) : (l.advance rate day).Tracks initial rate drops paid where
  due drop member := by
    rw [Ledger.advance_day rate le]
    exact (tracks.due drop member).trans le
  balance := by rw [Ledger.advance_balance, tracks.balance]
  unpaid := by
    rw [Ledger.advance_unpaid, Ledger.advance_day rate le, charged_extend initial rate tracks.due le,
      tracks.unpaid, tracks.balance]
    ring
  balance_nonneg := by simpa using tracks.balance_nonneg
  unpaid_nonneg := by
    rw [Ledger.advance_unpaid]
    have := mul_nonneg (mul_nonneg tracks.balance_nonneg rate_nonneg)
      (Nat.cast_nonneg (α := R) (day - l.day))
    exact add_nonneg tracks.unpaid_nonneg this

theorem Ledger.Tracks.perm [IsStrictOrderedRing R] {l : Ledger R} {initial rate paid : R}
    {drops drops' : List (Nat × R)} (tracks : l.Tracks initial rate drops paid)
    (perm : drops.Perm drops') : l.Tracks initial rate drops' paid where
  due drop member := tracks.due drop (perm.mem_iff.mpr member)
  balance := by rw [tracks.balance, total, total, (perm.map Prod.snd).sum_eq]
  unpaid := by rw [tracks.unpaid, charged_perm perm]
  balance_nonneg := tracks.balance_nonneg
  unpaid_nonneg := tracks.unpaid_nonneg

/-- Charges go first: a payment that clears a balance leaves no charges. -/
theorem Ledger.pay_clear [IsStrictOrderedRing R] {l : Ledger R} {amount : R}
    (balance_pos : 0 < l.balance) (cleared : (l.pay amount).balance = 0) :
    (l.pay amount).unpaid = 0 := by
  have all : l.balance ≤ amount - min amount l.unpaid := by
    have := sub_eq_zero.mp cleared
    exact this ▸ min_le_left _ _
  by_cases covers : l.unpaid ≤ amount
  · simp [Ledger.pay, min_eq_right covers]
  · rw [min_eq_left (le_of_not_ge covers), sub_self] at all
    exact absurd balance_pos (not_lt.mpr all)

/-- A payment on the ledger's day is one more drop and one more paid charge. -/
theorem Ledger.Tracks.pay [IsStrictOrderedRing R] {l : Ledger R} {initial rate paid : R}
    {drops : List (Nat × R)} (tracks : l.Tracks initial rate drops paid) (amount : R) :
    (l.pay amount).Tracks initial rate
      ((l.day, min (amount - min amount l.unpaid) l.balance) :: drops)
      (paid + min amount l.unpaid) where
  due drop member := by
    rcases List.mem_cons.mp member with rfl | member
    · exact le_rfl
    · exact tracks.due drop member
  balance := by
    simp only [Ledger.pay, total, List.map_cons, List.sum_cons]
    rw [tracks.balance, total]
    ring
  unpaid := by
    simp only [Ledger.pay]
    rw [charged_cons initial rate _ drops le_rfl, tracks.unpaid]
    ring
  balance_nonneg := sub_nonneg.mpr (min_le_right _ _)
  unpaid_nonneg := sub_nonneg.mpr (min_le_right _ _)

def Ledger.owed (l : Ledger R) : R := l.balance + l.unpaid

/-- No more is owed, and no more of it bears charges. -/
structure Ledger.Below (l m : Ledger R) : Prop where
  day : l.day = m.day
  balance : l.balance ≤ m.balance
  owed : l.owed ≤ m.owed

theorem Ledger.Below.refl (l : Ledger R) : l.Below l := ⟨rfl, le_rfl, le_rfl⟩

theorem Ledger.Below.trans {l m n : Ledger R} (first : l.Below m) (second : m.Below n) :
    l.Below n :=
  ⟨first.day.trans second.day, first.balance.trans second.balance, first.owed.trans second.owed⟩

/-- The charges of the days that begin are on balances that compare. -/
theorem Ledger.Below.advance [IsStrictOrderedRing R] {l m : Ledger R} (below : l.Below m)
    {rate : R} (rate_nonneg : 0 ≤ rate) (day : Nat) :
    (l.advance rate day).Below (m.advance rate day) where
  day := by simp only [Ledger.advance, Ledger.iterate_tick, below.day]
  balance := by simpa using below.balance
  owed := by
    have days : (0 : R) ≤ ((day - m.day : Nat) : R) := Nat.cast_nonneg _
    have charges : l.balance * rate * ((day - m.day : Nat) : R) ≤
        m.balance * rate * ((day - m.day : Nat) : R) :=
      mul_le_mul_of_nonneg_right (mul_le_mul_of_nonneg_right below.balance rate_nonneg) days
    have owed := below.owed
    simp only [Ledger.owed, Ledger.advance_balance, Ledger.advance_unpaid, below.day] at owed ⊢
    linarith

section Pay
variable [IsStrictOrderedRing R] {l m : Ledger R} {amount : R}

theorem max_zero_sub {x amount : R} (nonneg : 0 ≤ amount) :
    max (max x 0 - amount) 0 = max (x - amount) 0 := by
  rcases le_total x 0 with none | some
  · rw [max_eq_right none, max_eq_right (by simpa using nonneg),
      max_eq_right (sub_nonpos.mpr (none.trans nonneg))]
  · rw [max_eq_left some]

/-- A payment lowers what is owed, down to nothing. -/
theorem Ledger.pay_owed (balance : 0 ≤ l.balance) :
    (l.pay amount).owed = max (l.owed - amount) 0 := by
  simp only [Ledger.pay, Ledger.owed]
  rcases le_total amount l.unpaid with covered | covers
  · rw [min_eq_left covered, sub_self, min_eq_left balance, max_eq_left (by linarith)]
    ring
  · rw [min_eq_right covers]
    rcases le_total (amount - l.unpaid) l.balance with part | all
    · rw [min_eq_left part, max_eq_left (by linarith)]
      ring
    · rw [min_eq_right all, max_eq_right (by linarith)]
      ring

/-- The balance is touched only when what is left would not cover it. -/
theorem Ledger.pay_balance (balance : 0 ≤ l.balance) :
    (l.pay amount).balance = min l.balance (max (l.owed - amount) 0) := by
  simp only [Ledger.pay, Ledger.owed]
  rcases le_total amount l.unpaid with covered | covers
  · rw [min_eq_left covered, sub_self, min_eq_left balance, max_eq_left (by linarith),
      min_eq_left (by linarith), sub_zero]
  · rw [min_eq_right covers]
    rcases le_total (amount - l.unpaid) l.balance with part | all
    · rw [min_eq_left part, max_eq_left (by linarith), min_eq_right (by linarith)]
      ring
    · rw [min_eq_right all, max_eq_right (by linarith), min_eq_right balance, sub_self]

/-- What a payment has left when all is paid. -/
theorem Ledger.pay_rest (balance : 0 ≤ l.balance) (covers : l.owed ≤ amount) :
    amount - min amount l.unpaid - min (amount - min amount l.unpaid) l.balance =
      amount - l.owed := by
  have left := @Ledger.pay_owed R _ _ _ l amount balance
  rw [max_eq_right (sub_nonpos.mpr covers)] at left
  simp only [Ledger.owed, Ledger.pay] at left ⊢
  linarith

/-- A payment of all that is owed leaves nothing. -/
theorem Ledger.pay_owed_zero (balance : 0 ≤ l.balance) (covers : l.owed ≤ amount) :
    (l.pay amount).balance = 0 ∧ (l.pay amount).unpaid = 0 := by
  have left : (l.pay amount).owed = 0 := by
    rw [Ledger.pay_owed balance, max_eq_right (sub_nonpos.mpr covers)]
  have principal : (l.pay amount).balance = 0 := by
    rw [Ledger.pay_balance balance, max_eq_right (sub_nonpos.mpr covers), min_eq_right balance]
  rw [Ledger.owed, principal, zero_add] at left
  exact ⟨principal, left⟩

/-- Two payments on one day are one payment of both. -/
theorem Ledger.pay_pay {second : R} (balance : 0 ≤ l.balance) (nonneg : 0 ≤ second) :
    (l.pay amount).pay second = l.pay (amount + second) := by
  have left : 0 ≤ (l.pay amount).balance := sub_nonneg.mpr (min_le_right _ _)
  have owed : ((l.pay amount).pay second).owed = (l.pay (amount + second)).owed := by
    rw [Ledger.pay_owed left, Ledger.pay_owed balance, Ledger.pay_owed balance,
      max_zero_sub nonneg, sub_sub]
  have principal : ((l.pay amount).pay second).balance = (l.pay (amount + second)).balance := by
    have less : max (l.owed - (amount + second)) 0 ≤ max (l.owed - amount) 0 :=
      max_le_max_right 0 (by linarith)
    rw [Ledger.pay_balance left, Ledger.pay_owed balance, Ledger.pay_balance balance,
      Ledger.pay_balance balance, max_zero_sub nonneg, sub_sub, min_assoc, min_eq_right less]
  rw [Ledger.owed, Ledger.owed, principal] at owed
  exact (Ledger.mk.injEq ..).mpr ⟨principal, add_left_cancel owed, rfl⟩

/-- The same payment keeps the order, whatever it covers in each ledger. -/
theorem Ledger.Below.pay (below : l.Below m) (balance : 0 ≤ l.balance)
    (balance' : 0 ≤ m.balance) : (l.pay amount).Below (m.pay amount) where
  day := below.day
  balance := by
    rw [Ledger.pay_balance balance, Ledger.pay_balance balance']
    have owed := max_le_max_right 0 (sub_le_sub_right below.owed amount)
    exact min_le_min below.balance owed
  owed := by
    rw [Ledger.pay_owed balance, Ledger.pay_owed balance']
    exact max_le_max_right 0 (sub_le_sub_right below.owed amount)

/-- A payment leaves less than none does. -/
theorem Ledger.pay_below (balance : 0 ≤ l.balance) (unpaid : 0 ≤ l.unpaid) (pos : 0 ≤ amount) :
    (l.pay amount).Below l where
  day := rfl
  balance := by
    rw [Ledger.pay_balance balance]
    exact min_le_left _ _
  owed := by
    rw [Ledger.pay_owed balance]
    exact max_le (sub_le_self _ pos) (add_nonneg balance unpaid)

end Pay

end Bitmonie.DayAccrual
