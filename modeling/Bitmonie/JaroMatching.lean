import Bitmonie.NameMatch
import Bitmonie.StableMatching
import Mathlib.Tactic.Positivity
import Mathlib.Tactic.Linarith

/-! The Jaro-Winkler score loop by loop, over any alphabet. The matched pairs are a stable
matching of the two texts, so both have as many matched places, the walk over those of the
second never passes its end, and the score does not depend on the order of the texts. -/
namespace Bitmonie.NameMatchService
open StableMatching

section Loops
variable {α : Type*} (s₁ s₂ : List α)

def matchDist : Nat := max s₁.length s₂.length / 2 - 1

structure Matching where
  s₁Matches : List Bool
  s₂Matches : List Bool
  /-- `matches` -/
  matched : Nat

def Matching.pair (m : Matching) (i j : Nat) : Matching where
  s₁Matches := m.s₁Matches.set i true
  s₂Matches := m.s₂Matches.set j true
  matched := m.matched + 1

variable [DecidableEq α]

/-- The loop over `j`: at most `rest` places from `j`. -/
def pairUp (i : Nat) : Nat → Nat → Matching → Matching
  | 0, _, m => m
  | rest + 1, j, m =>
    if m.s₂Matches[j]? = some true ∨ s₁[i]? ≠ s₂[j]? then pairUp i rest (j + 1) m
    else m.pair i j

/-- After the places of `s₁` before the given one. -/
def matchLoop : Nat → Matching
  | 0 => ⟨List.replicate s₁.length false, List.replicate s₂.length false, 0⟩
  | i + 1 =>
    let start := i - matchDist s₁ s₂
    let stop := min (i + matchDist s₁ s₂ + 1) s₂.length
    pairUp s₁ s₂ i (stop - start) start (matchLoop i)

/-- `while (!s2_matches[k]) k++`. A place past the end is not matched either, so only the
fuel ends a search that finds nothing. -/
def nextMatched (s₂Matches : List Bool) : Nat → Nat → Option Nat
  | 0, _ => none
  | fuel + 1, k => if s₂Matches[k]? = some true then some k else nextMatched s₂Matches fuel (k + 1)

structure Cursor where
  k : Nat
  transpositions : Nat

/-- After the places of `s₁` before the given one; `fuel` is for each `while` alone. -/
def transpositionLoop (fuel : Nat) (m : Matching) : Nat → Option Cursor
  | 0 => some ⟨0, 0⟩
  | i + 1 =>
    (transpositionLoop fuel m i).bind fun c =>
      if m.s₁Matches[i]? ≠ some true then some c
      else (nextMatched m.s₂Matches fuel c.k).map fun k =>
        ⟨k + 1, if s₁[i]? ≠ s₂[k]? then c.transpositions + 1 else c.transpositions⟩

def jaroRun (fuel : Nat) : Option ℚ :=
  if s₁ = s₂ then some 1
  else if s₁.length = 0 ∨ s₂.length = 0 then some 0
  else
    let m := matchLoop s₁ s₂ s₁.length
    if m.matched = 0 then some 0
    else (transpositionLoop s₁ s₂ fuel m s₁.length).map fun c =>
      ((m.matched : ℚ) / s₁.length + (m.matched : ℚ) / s₂.length +
        ((m.matched : ℚ) - (c.transpositions : ℚ) / 2) / m.matched) / 3

/-- The loop that counts `prefix`, with `rest` places to go from `i`. -/
def prefixLoop : Nat → Nat → Nat
  | 0, _ => 0
  | rest + 1, i => if s₁[i]? = s₂[i]? then prefixLoop rest (i + 1) + 1 else 0

def jaroWinklerRun (fuel : Nat) : Option ℚ :=
  (jaroRun s₁ s₂ fuel).map fun jaroScore =>
    jaroScore + (prefixLoop s₁ s₂ (min 4 (min s₁.length s₂.length)) 0 : Nat) * (1 / 10) *
      (1 - jaroScore)

end Loops

section Flags
variable {flags : List Bool} {i k : Nat}

theorem getElem?_set_true :
    (flags.set i true)[k]? = some true ↔ (k = i ∧ i < flags.length) ∨ flags[k]? = some true := by
  rw [List.getElem?_set]
  by_cases same : i = k
  · subst same
    by_cases inside : i < flags.length
    · simp [inside]
    · simp [inside]
  · simp [same, Ne.symm same]

theorem unset_of_free (inside : i < flags.length) (free : flags[i]? ≠ some true) :
    flags[i] = false := by
  rw [List.getElem?_eq_getElem inside] at free
  simpa using free

theorem count_set_true (inside : i < flags.length) (free : flags[i]? ≠ some true) :
    (flags.set i true).count true = flags.count true + 1 := by
  simp [List.count_set inside, unset_of_free inside free]

end Flags

section Matched
variable {α : Type*} {s₁ s₂ : List α} {m : Matching} {M : Nat → Nat → Prop}
  {i j n rest : Nat}

def Reach (s₁ s₂ : List α) (i j : Nat) : Prop :=
  (∃ c, s₁[i]? = some c ∧ s₂[j]? = some c) ∧ i ≤ j + matchDist s₁ s₂ ∧ j ≤ i + matchDist s₁ s₂

theorem matchDist_comm (s₁ s₂ : List α) : matchDist s₁ s₂ = matchDist s₂ s₁ := by
  rw [matchDist, matchDist, max_comm]

theorem reach_comm : Reach s₁ s₂ i j ↔ Reach s₂ s₁ j i := by
  simp only [Reach, matchDist_comm s₂ s₁]
  grind

theorem reach_iff_window (inside : i < s₁.length) :
    Reach s₁ s₂ i j ↔ i - matchDist s₁ s₂ ≤ j ∧
      j < min (i + matchDist s₁ s₂ + 1) s₂.length ∧ s₁[i]? = s₂[j]? := by
  simp only [Reach, List.getElem?_eq_getElem inside]
  constructor
  · rintro ⟨⟨c, first, second⟩, near, far⟩
    have := (List.getElem?_eq_some_iff.mp second).1
    exact ⟨by omega, by omega, first.trans second.symm⟩
  · rintro ⟨lower, upper, same⟩
    exact ⟨⟨s₁[i], rfl, same.symm⟩, by omega, by omega⟩

/-- The pairs of the first `n` places, as the two arrays and the count have them. -/
structure Paired (s₁ s₂ : List α) (n : Nat) (m : Matching) (M : Nat → Nat → Prop) : Prop where
  stable : Stable (Upto (Reach s₁ s₂) n) M
  length₁ : m.s₁Matches.length = s₁.length
  length₂ : m.s₂Matches.length = s₂.length
  left : ∀ i, m.s₁Matches[i]? = some true ↔ ∃ j, M i j
  right : ∀ j, m.s₂Matches[j]? = some true ↔ ∃ i, M i j
  count₁ : m.s₁Matches.count true = m.matched
  count₂ : m.s₂Matches.count true = m.matched

theorem Paired.skip (paired : Paired s₁ s₂ n m M)
    (taken : ∀ j, Reach s₁ s₂ n j → ∃ i, M i j) : Paired s₁ s₂ (n + 1) m M :=
  { paired with stable := paired.stable.skip taken }

theorem Paired.unmatched (paired : Paired s₁ s₂ n m M) : m.s₁Matches[n]? ≠ some true := by
  rw [Ne, paired.left]
  rintro ⟨k, matched⟩
  exact absurd (paired.stable.admissible matched).1 (lt_irrefl n)

theorem Paired.pair (paired : Paired s₁ s₂ n m M) (inside : n < s₁.length)
    (reach : Reach s₁ s₂ n j) (free : ¬∃ i, M i j)
    (taken : ∀ k < j, Reach s₁ s₂ n k → ∃ i, M i k) :
    Paired s₁ s₂ (n + 1) (m.pair n j) (Take M n j) := by
  have inside₁ : n < m.s₁Matches.length := by rw [paired.length₁]; exact inside
  have inside₂ : j < m.s₂Matches.length := by
    obtain ⟨⟨c, -, second⟩, -⟩ := reach
    rw [paired.length₂]
    exact (List.getElem?_eq_some_iff.mp second).1
  have open_ : m.s₂Matches[j]? ≠ some true := by rwa [Ne, paired.right]
  constructor
  · exact paired.stable.take reach (fun i matched => free ⟨i, matched⟩) taken
  · simpa [Matching.pair] using paired.length₁
  · simpa [Matching.pair] using paired.length₂
  · intro i
    simp only [Matching.pair, getElem?_set_true, paired.left, Take]
    grind
  · intro k
    simp only [Matching.pair, getElem?_set_true, paired.right, Take]
    grind
  · simp only [Matching.pair, count_set_true inside₁ paired.unmatched, paired.count₁]
  · simp only [Matching.pair, count_set_true inside₂ open_, paired.count₂]

/-- What the loop over `j` passes by. -/
def Blocked (s₁ s₂ : List α) (m : Matching) (i j : Nat) : Prop :=
  m.s₂Matches[j]? = some true ∨ s₁[i]? ≠ s₂[j]?

variable [DecidableEq α]

theorem pairUp_cases (s₁ s₂ : List α) (m : Matching) (i rest j : Nat) :
    ((∀ k, j ≤ k → k < j + rest → Blocked s₁ s₂ m i k) ∧ pairUp s₁ s₂ i rest j m = m) ∨
    ∃ k, j ≤ k ∧ k < j + rest ∧ ¬Blocked s₁ s₂ m i k ∧
      (∀ k', j ≤ k' → k' < k → Blocked s₁ s₂ m i k') ∧ pairUp s₁ s₂ i rest j m = m.pair i k := by
  induction rest generalizing j with
  | zero => exact .inl ⟨fun k from_ before => by omega, rfl⟩
  | succ rest ih =>
    by_cases blocked : Blocked s₁ s₂ m i j
    · have next : pairUp s₁ s₂ i (rest + 1) j m = pairUp s₁ s₂ i rest (j + 1) m := if_pos blocked
      rw [next]
      rcases ih (j + 1) with ⟨all, same⟩ | ⟨k, above, below, free, earlier, paired⟩
      · refine .inl ⟨fun k lower upper => ?_, same⟩
        rcases lower.lt_or_eq with less | rfl
        · exact all k less (by omega)
        · exact blocked
      · refine .inr ⟨k, by omega, by omega, free, fun k' lower upper => ?_, paired⟩
        rcases lower.lt_or_eq with less | rfl
        · exact earlier k' less upper
        · exact blocked
    · exact .inr ⟨j, le_rfl, by omega, blocked, fun k' lower upper => by omega, if_neg blocked⟩

/-- What the turn of the place `i` does: it takes the first place in reach that is free. -/
theorem turn_cases (m : Matching) (inside : i < s₁.length) :
    ((∀ j, Reach s₁ s₂ i j → m.s₂Matches[j]? = some true) ∧
      pairUp s₁ s₂ i (min (i + matchDist s₁ s₂ + 1) s₂.length - (i - matchDist s₁ s₂))
        (i - matchDist s₁ s₂) m = m) ∨
    ∃ j, Reach s₁ s₂ i j ∧ m.s₂Matches[j]? ≠ some true ∧
      (∀ k < j, Reach s₁ s₂ i k → m.s₂Matches[k]? = some true) ∧
      pairUp s₁ s₂ i (min (i + matchDist s₁ s₂ + 1) s₂.length - (i - matchDist s₁ s₂))
        (i - matchDist s₁ s₂) m = m.pair i j := by
  have taken : ∀ {j}, Blocked s₁ s₂ m i j → Reach s₁ s₂ i j → m.s₂Matches[j]? = some true := by
    rintro j (taken | differs) reach
    · exact taken
    · exact absurd ((reach_iff_window inside).mp reach).2.2 differs
  rcases pairUp_cases s₁ s₂ m i
      (min (i + matchDist s₁ s₂ + 1) s₂.length - (i - matchDist s₁ s₂)) (i - matchDist s₁ s₂) with
    ⟨all, same⟩ | ⟨j, lower, upper, free, earlier, same⟩
  · refine .inl ⟨fun j reach => taken (all j ?_ ?_) reach, same⟩
    all_goals have := (reach_iff_window inside).mp reach
    all_goals omega
  · have reach : Reach s₁ s₂ i j := by
      rw [reach_iff_window inside]
      refine ⟨lower, by omega, ?_⟩
      by_contra differs
      exact free (.inr differs)
    refine .inr ⟨j, reach, fun held => free (.inl held), fun k less near => ?_, same⟩
    exact taken (earlier k ((reach_iff_window inside).mp near).1 less) near

theorem Paired.next (paired : Paired s₁ s₂ n (matchLoop s₁ s₂ n) M) (inside : n < s₁.length) :
    ∃ M', Paired s₁ s₂ (n + 1) (matchLoop s₁ s₂ (n + 1)) M' := by
  rcases turn_cases (matchLoop s₁ s₂ n) inside with ⟨all, same⟩ | ⟨j, reach, free, earlier, same⟩
  · refine ⟨M, ?_⟩
    rw [matchLoop, same]
    exact paired.skip fun j reach => (paired.right j).mp (all j reach)
  · refine ⟨Take M n j, ?_⟩
    rw [matchLoop, same]
    refine paired.pair inside reach (mt (paired.right j).mpr free) fun k less near => ?_
    exact (paired.right k).mp (earlier k less near)

theorem matchLoop_paired (s₁ s₂ : List α) (within : n ≤ s₁.length) :
    ∃ M, Paired s₁ s₂ n (matchLoop s₁ s₂ n) M := by
  induction n with
  | zero =>
    refine ⟨fun _ _ => False, stable_zero, ?_, ?_, ?_, ?_, ?_, ?_⟩
    all_goals simp [matchLoop, List.getElem?_replicate, List.count_replicate]
  | succ n ih =>
    obtain ⟨M, paired⟩ := ih (by omega)
    exact paired.next within

/-- Every place of `s₁` has had its turn. -/
theorem matchLoop_stable (s₁ s₂ : List α) :
    ∃ M, Stable (Reach s₁ s₂) M ∧ Paired s₁ s₂ s₁.length (matchLoop s₁ s₂ s₁.length) M := by
  obtain ⟨M, paired⟩ := matchLoop_paired s₁ s₂ le_rfl
  have all : Upto (Reach s₁ s₂) s₁.length = Reach s₁ s₂ := by
    funext i j
    refine propext ⟨And.right, fun reach => ⟨?_, reach⟩⟩
    obtain ⟨⟨c, first, -⟩, -⟩ := reach
    exact (List.getElem?_eq_some_iff.mp first).1
  exact ⟨M, all ▸ paired.stable, paired⟩

theorem flags_ext {flags flags' : List Bool} (length : flags.length = flags'.length)
    (same : ∀ i : Nat, flags[i]? = some true ↔ flags'[i]? = some true) : flags = flags' := by
  refine List.ext_getElem length fun i inside inside' => ?_
  have := same i
  rw [List.getElem?_eq_getElem inside, List.getElem?_eq_getElem inside'] at this
  simpa using this

/-- The matching of the texts in the other order has the two arrays exchanged. -/
theorem matchLoop_swap (s₁ s₂ : List α) :
    (matchLoop s₂ s₁ s₂.length).s₁Matches = (matchLoop s₁ s₂ s₁.length).s₂Matches ∧
    (matchLoop s₂ s₁ s₂.length).s₂Matches = (matchLoop s₁ s₂ s₁.length).s₁Matches := by
  obtain ⟨M, stable, paired⟩ := matchLoop_stable s₁ s₂
  obtain ⟨N, other, back⟩ := matchLoop_stable s₂ s₁
  have flipped : Stable (Reach s₂ s₁) fun j i => M i j := by
    have : (fun j i => Reach s₁ s₂ i j) = Reach s₂ s₁ := funext₂ fun _ _ => propext reach_comm
    exact this ▸ stable.swap
  have same : ∀ j i, N j i ↔ M i j := fun _ _ => other.unique flipped
  constructor
  · refine flags_ext (by rw [back.length₁, paired.length₂]) fun j => ?_
    rw [back.left, paired.right]
    exact exists_congr (same j)
  · refine flags_ext (by rw [back.length₂, paired.length₁]) fun i => ?_
    rw [back.right, paired.left]
    exact exists_congr fun j => same j i

theorem matchLoop_balanced (s₁ s₂ : List α) :
    (matchLoop s₁ s₂ s₁.length).s₁Matches.count true = (matchLoop s₁ s₂ s₁.length).matched ∧
    (matchLoop s₁ s₂ s₁.length).s₂Matches.count true = (matchLoop s₁ s₂ s₁.length).matched := by
  obtain ⟨M, paired⟩ := matchLoop_paired s₁ s₂ le_rfl
  exact ⟨paired.count₁, paired.count₂⟩

end Matched

section Picked
variable {α : Type*} {s : List α} {flags : List Bool} {fuel k : Nat}

def picked (s : List α) (flags : List Bool) : List α := ((s.zip flags).filter (·.2)).map (·.1)

theorem picked_split (s : List α) (flags : List Bool) (k : Nat) :
    picked (s.take k) flags ++ picked (s.drop k) (flags.drop k) = picked s flags := by
  induction s generalizing flags k with
  | nil => simp [picked]
  | cons c s ih =>
    cases flags with
    | nil => simp [picked]
    | cons flag flags =>
      cases k with
      | zero => simp [picked]
      | succ k =>
        have rest := ih flags k
        simp only [picked, List.take_succ_cons, List.drop_succ_cons, List.zip_cons_cons] at rest ⊢
        cases flag <;> simpa using rest

theorem picked_take_succ (s : List α) (flags : List Bool) (k : Nat) :
    picked (s.take (k + 1)) flags =
      picked (s.take k) flags ++ if flags[k]? = some true then s[k]?.toList else [] := by
  have split := picked_split (s.take (k + 1)) flags k
  rw [List.take_take, min_eq_left (Nat.le_succ k), List.drop_take, Nat.add_sub_cancel_left] at split
  rw [← split, ← List.head?_drop, ← List.head?_drop]
  congr 1
  cases s.drop k with
  | nil => simp [picked]
  | cons c rest =>
    cases flags.drop k with
    | nil => simp [picked]
    | cons flag others => cases flag <;> simp [picked]

theorem length_picked (same : s.length = flags.length) :
    (picked s flags).length = flags.count true := by
  induction s generalizing flags with
  | nil =>
    cases flags with
    | nil => rfl
    | cons flag flags => simp at same
  | cons c s ih =>
    cases flags with
    | nil => simp at same
    | cons flag flags =>
      have lengths : s.length = flags.length := by simpa using same
      have := ih lengths
      simp only [picked, List.zip_cons_cons] at this ⊢
      cases flag <;> simp [this]

theorem picked_take_within (s : List α) (flags : List Bool) (k : Nat) :
    picked (s.take k) flags <+: picked s flags :=
  ⟨picked (s.drop k) (flags.drop k), picked_split s flags k⟩

theorem length_picked_take_lt (inside : k < s.length) (found : flags[k]? = some true) :
    (picked (s.take k) flags).length < (picked s flags).length := by
  have le := (picked_take_within s flags (k + 1)).length_le
  rw [picked_take_succ, if_pos found, List.getElem?_eq_getElem inside, List.length_append] at le
  simp only [Option.toList_some, List.length_singleton] at le
  omega

/-- As long as not all that is picked has been passed, the search stops at the next place. -/
theorem nextMatched_spec (left : (picked (s.take k) flags).length < (picked s flags).length)
    (enough : s.length ≤ k + fuel) :
    ∃ k', nextMatched flags fuel k = some k' ∧ k' < s.length ∧ flags[k']? = some true ∧
      picked (s.take k') flags = picked (s.take k) flags := by
  have inside : k < s.length := by
    by_contra past
    rw [List.take_of_length_le (by omega)] at left
    exact lt_irrefl _ left
  induction fuel generalizing k with
  | zero => omega
  | succ fuel ih =>
    by_cases found : flags[k]? = some true
    · exact ⟨k, if_pos found, inside, found, rfl⟩
    · have same := picked_take_succ s flags k
      rw [if_neg found, List.append_nil] at same
      have inside' : k + 1 < s.length := by
        by_contra past
        rw [← same, List.take_of_length_le (by omega)] at left
        exact lt_irrefl _ left
      obtain ⟨k', stops, below, matched, passed⟩ :=
        ih (k := k + 1) (by rwa [same]) (by omega) inside'
      exact ⟨k', (if_neg found).trans stops, below, matched, passed.trans same⟩

end Picked

section Walk
variable {α : Type*} [DecidableEq α] {s₁ s₂ : List α} {m : Matching} {c : Cursor} {fuel i : Nat}

/-- The matched characters that the walk has passed stand opposite each other. -/
structure Walked (s₁ s₂ : List α) (m : Matching) (i : Nat) (c : Cursor) : Prop where
  opposite : (picked (s₂.take c.k) m.s₂Matches).length = (picked (s₁.take i) m.s₁Matches).length
  transpositions : c.transpositions =
    (((picked (s₁.take i) m.s₁Matches).zip (picked (s₂.take c.k) m.s₂Matches)).filter
      fun pair => pair.1 ≠ pair.2).length

theorem walked_zero (s₁ s₂ : List α) (m : Matching) : Walked s₁ s₂ m 0 ⟨0, 0⟩ := by
  constructor <;> simp [picked]

/-- With as many matched places in both texts, there is one left for the place `i`. -/
theorem Walked.stops (walked : Walked s₁ s₂ m i c)
    (balanced : (picked s₁ m.s₁Matches).length = (picked s₂ m.s₂Matches).length)
    (enough : s₂.length ≤ fuel) (inside : i < s₁.length) (found : m.s₁Matches[i]? = some true) :
    ∃ k, nextMatched m.s₂Matches fuel c.k = some k ∧ k < s₂.length ∧ m.s₂Matches[k]? = some true ∧
      picked (s₂.take k) m.s₂Matches = picked (s₂.take c.k) m.s₂Matches := by
  have more := length_picked_take_lt inside found
  refine nextMatched_spec ?_ (by omega)
  rwa [walked.opposite, ← balanced]

theorem Walked.pass (walked : Walked s₁ s₂ m i c) (unmatched : m.s₁Matches[i]? ≠ some true) :
    Walked s₁ s₂ m (i + 1) c := by
  have same := picked_take_succ s₁ m.s₁Matches i
  rw [if_neg unmatched, List.append_nil] at same
  constructor
  · rw [same, walked.opposite]
  · rw [same, walked.transpositions]

theorem Walked.meet {k : Nat} (walked : Walked s₁ s₂ m i c) (inside : i < s₁.length)
    (found : m.s₁Matches[i]? = some true) (below : k < s₂.length)
    (matched : m.s₂Matches[k]? = some true)
    (passed : picked (s₂.take k) m.s₂Matches = picked (s₂.take c.k) m.s₂Matches) :
    Walked s₁ s₂ m (i + 1)
      ⟨k + 1, if s₁[i]? ≠ s₂[k]? then c.transpositions + 1 else c.transpositions⟩ := by
  have first := picked_take_succ s₁ m.s₁Matches i
  have second := picked_take_succ s₂ m.s₂Matches k
  rw [if_pos found, List.getElem?_eq_getElem inside, Option.toList_some] at first
  rw [if_pos matched, List.getElem?_eq_getElem below, Option.toList_some, passed] at second
  constructor
  · simp [first, second, walked.opposite]
  · have lengths := walked.opposite.symm
    rw [first, second, List.zip_append lengths, List.filter_append, List.length_append,
      ← walked.transpositions, List.getElem?_eq_getElem inside, List.getElem?_eq_getElem below]
    by_cases same : s₁[i] = s₂[k]
    · simp [same]
    · simp [same]

theorem transpositionLoop_walked
    (balanced : (picked s₁ m.s₁Matches).length = (picked s₂ m.s₂Matches).length)
    (enough : s₂.length ≤ fuel) (within : i ≤ s₁.length) :
    ∃ c, transpositionLoop s₁ s₂ fuel m i = some c ∧ Walked s₁ s₂ m i c := by
  induction i with
  | zero => exact ⟨⟨0, 0⟩, rfl, walked_zero s₁ s₂ m⟩
  | succ i ih =>
    obtain ⟨c, ran, walked⟩ := ih (by omega)
    simp only [transpositionLoop, ran, Option.bind_some]
    by_cases found : m.s₁Matches[i]? = some true
    · obtain ⟨k, stops, below, matched, passed⟩ := walked.stops balanced enough within found
      rw [if_neg (not_not.mpr found), stops]
      exact ⟨_, rfl, walked.meet within found below matched passed⟩
    · rw [if_pos found]
      exact ⟨c, rfl, walked.pass found⟩

theorem length_picked_matchLoop (s₁ s₂ : List α) :
    (picked s₁ (matchLoop s₁ s₂ s₁.length).s₁Matches).length = (matchLoop s₁ s₂ s₁.length).matched ∧
    (picked s₂ (matchLoop s₁ s₂ s₁.length).s₂Matches).length =
      (matchLoop s₁ s₂ s₁.length).matched := by
  obtain ⟨M, paired⟩ := matchLoop_paired s₁ s₂ le_rfl
  rw [length_picked paired.length₁.symm, length_picked paired.length₂.symm]
  exact ⟨paired.count₁, paired.count₂⟩

/-- The walk over the matching that the first loop leaves goes through. -/
theorem transpositionLoop_matchLoop (s₁ s₂ : List α) (enough : s₂.length ≤ fuel)
    (within : i ≤ s₁.length) :
    ∃ c, transpositionLoop s₁ s₂ fuel (matchLoop s₁ s₂ s₁.length) i = some c ∧
      Walked s₁ s₂ (matchLoop s₁ s₂ s₁.length) i c := by
  have lengths := length_picked_matchLoop s₁ s₂
  exact transpositionLoop_walked (lengths.1.trans lengths.2.symm) enough within

end Walk

section Score
variable {α : Type*} [DecidableEq α] {s₁ s₂ : List α} {fuel : Nat}

theorem unit_of_ratio {x n : Nat} (within : x ≤ n) : 0 ≤ (x : ℚ) / n ∧ (x : ℚ) / n ≤ 1 := by
  have le : (x : ℚ) ≤ n := by exact_mod_cast within
  exact ⟨by positivity, div_le_one_of_le₀ le (by positivity)⟩

theorem score_bounds {matched transpositions len₁ len₂ : Nat} (pos : matched ≠ 0)
    (first : matched ≤ len₁) (second : matched ≤ len₂) (few : transpositions ≤ matched) :
    0 ≤ ((matched : ℚ) / len₁ + (matched : ℚ) / len₂ +
        ((matched : ℚ) - (transpositions : ℚ) / 2) / matched) / 3 ∧
    ((matched : ℚ) / len₁ + (matched : ℚ) / len₂ +
        ((matched : ℚ) - (transpositions : ℚ) / 2) / matched) / 3 ≤ 1 := by
  have one := unit_of_ratio first
  have two := unit_of_ratio second
  have three := unit_of_ratio few
  have nonzero : (matched : ℚ) ≠ 0 := by exact_mod_cast pos
  have split : ((matched : ℚ) - (transpositions : ℚ) / 2) / matched =
      1 - (transpositions : ℚ) / matched / 2 := by
    rw [sub_div, div_self nonzero, div_right_comm]
  rw [split]
  constructor <;> linarith [one.1, one.2, two.1, two.2, three.1, three.2]

theorem jaroRun_spec (s₁ s₂ : List α) (enough : s₂.length ≤ fuel) :
    ∃ r, jaroRun s₁ s₂ fuel = some r ∧ 0 ≤ r ∧ r ≤ 1 := by
  unfold jaroRun
  by_cases same : s₁ = s₂
  · exact ⟨1, if_pos same, zero_le_one, le_rfl⟩
  rw [if_neg same]
  by_cases empty : s₁.length = 0 ∨ s₂.length = 0
  · exact ⟨0, if_pos empty, le_rfl, zero_le_one⟩
  rw [if_neg empty]
  by_cases none_ : (matchLoop s₁ s₂ s₁.length).matched = 0
  · exact ⟨0, if_pos none_, le_rfl, zero_le_one⟩
  obtain ⟨M, paired⟩ := matchLoop_paired s₁ s₂ le_rfl
  obtain ⟨c, ran, walked⟩ := transpositionLoop_matchLoop s₁ s₂ enough le_rfl
  have first := List.count_le_length (a := true) (l := (matchLoop s₁ s₂ s₁.length).s₁Matches)
  have second := List.count_le_length (a := true) (l := (matchLoop s₁ s₂ s₁.length).s₂Matches)
  rw [paired.count₁, paired.length₁] at first
  rw [paired.count₂, paired.length₂] at second
  have few : c.transpositions ≤ (matchLoop s₁ s₂ s₁.length).matched := by
    have lengths := length_picked_matchLoop s₁ s₂
    rw [walked.transpositions, List.take_length, ← lengths.1]
    refine (List.length_filter_le _ _).trans ?_
    rw [List.length_zip]
    exact min_le_left _ _
  simp only [none_, if_false, ran, Option.map_some]
  exact ⟨_, rfl, score_bounds none_ first second few⟩

theorem prefixLoop_le (s₁ s₂ : List α) (rest i : Nat) : prefixLoop s₁ s₂ rest i ≤ rest := by
  induction rest generalizing i with
  | zero => exact le_rfl
  | succ rest ih =>
    unfold prefixLoop
    split
    · have := ih (i + 1)
      omega
    · omega

theorem winkler_bounds {jaroScore : ℚ} {prefixed : Nat} (low : 0 ≤ jaroScore) (high : jaroScore ≤ 1)
    (few : prefixed ≤ 4) :
    0 ≤ jaroScore + prefixed * (1 / 10) * (1 - jaroScore) ∧
      jaroScore + prefixed * (1 / 10) * (1 - jaroScore) ≤ 1 := by
  have bound : (prefixed : ℚ) ≤ 4 := by exact_mod_cast few
  have rest : 0 ≤ 1 - jaroScore := by linarith
  have part : (prefixed : ℚ) * (1 / 10) * (1 - jaroScore) ≤ 1 * (1 - jaroScore) :=
    mul_le_mul_of_nonneg_right (by linarith) rest
  have nonneg : 0 ≤ (prefixed : ℚ) * (1 / 10) * (1 - jaroScore) := by positivity
  constructor <;> linarith

theorem jaroWinklerRun_spec (s₁ s₂ : List α) (enough : s₂.length ≤ fuel) :
    ∃ r, jaroWinklerRun s₁ s₂ fuel = some r ∧ 0 ≤ r ∧ r ≤ 1 := by
  obtain ⟨r, ran, low, high⟩ := jaroRun_spec s₁ s₂ enough
  have few := (prefixLoop_le s₁ s₂ (min 4 (min s₁.length s₂.length)) 0).trans (min_le_left _ _)
  rw [jaroWinklerRun, ran]
  exact ⟨_, rfl, winkler_bounds low high few⟩

end Score

end Bitmonie.NameMatchService
