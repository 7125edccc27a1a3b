import Bitmonie.JaroMatching

/-! What the comparison of two names can answer. The score of two tokens is the one its loops
compute; it lies between 0 and 1 and does not depend on their order. The score of two names
lies between 0 and 1 as well, and is 1 when every token that is compared has its like. -/
namespace Bitmonie.NameMatchService
open StableMatching

section Tokens
variable {s₁ s₂ : List Char} {m : Matching} {fuel i n : Nat}

theorem pairUp_eq_nextMatch (lengths : m.s₂Matches.length = s₂.length) (inside : i < s₁.length) :
    pairUp s₁ s₂ i (min (i + matchDist s₁ s₂ + 1) s₂.length - (i - matchDist s₁ s₂))
      (i - matchDist s₁ s₂) m =
    (nextMatch s₂ m.s₂Matches (matchDist s₁ s₂) i s₁[i]).elim m (m.pair i) := by
  have reach_of (j : Nat) (near : j < min (i + matchDist s₁ s₂ + 1) s₂.length)
      (lower : i - matchDist s₁ s₂ ≤ j) (equal : s₂[j]? = some s₁[i]) : Reach s₁ s₂ i j :=
    (reach_iff_window inside).mpr ⟨lower, near, (List.getElem?_eq_getElem inside).trans equal.symm⟩
  rcases turn_cases m inside with ⟨all, same⟩ | ⟨j, reach, free, earlier, same⟩
  · have missing : nextMatch s₂ m.s₂Matches (matchDist s₁ s₂) i s₁[i] = none := by
      rw [nextMatch, List.find?_eq_none]
      intro j near found
      simp only [Bool.and_eq_true, decide_eq_true_eq] at found
      have taken := all j (reach_of j (List.mem_range.mp near) found.1.1 found.2)
      simp [taken] at found
    rw [same, missing, Option.elim_none]
  · have found : nextMatch s₂ m.s₂Matches (matchDist s₁ s₂) i s₁[i] = some j := by
      rw [nextMatch, List.find?_range_eq_some]
      obtain ⟨lower, near, equal⟩ := (reach_iff_window inside).mp reach
      have below : j < m.s₂Matches.length := by omega
      have untaken : m.s₂Matches[j]? = some false := by
        rw [List.getElem?_eq_getElem below, unset_of_free below free]
      rw [List.getElem?_eq_getElem inside] at equal
      refine ⟨by simp [lower, untaken, ← equal], List.mem_range.mpr near, fun k less => ?_⟩
      by_contra passed
      simp only [Bool.not_eq_true', Bool.not_eq_false, Bool.and_eq_true, decide_eq_true_eq] at passed
      have taken := earlier k less (reach_of k (by omega) passed.1.1 passed.2)
      simp [taken] at passed
    rw [same, found, Option.elim_some]

theorem foldl_zipIdx_from {α β : Type} {s : List α} {f : β → α × Nat → β} {g : Nat → β} (k : Nat)
    (next : ∀ n (inside : n < s.length), g (k + n + 1) = f (g (k + n)) (s[n], k + n)) :
    (s.zipIdx k).foldl f (g k) = g (k + s.length) := by
  induction s generalizing k with
  | nil => rfl
  | cons c s ih =>
    have first := next 0 (by simp)
    have rest := ih (k + 1) fun n inside => by
      have := next (n + 1) (by simpa using inside)
      simpa [Nat.add_assoc, Nat.add_comm 1] using this
    simp only [List.getElem_cons_zero, Nat.add_zero] at first
    rw [List.zipIdx_cons, List.foldl_cons, ← first, rest, List.length_cons, Nat.add_assoc,
      Nat.add_comm 1]

theorem foldl_zipIdx {α β : Type} {s : List α} {f : β → α × Nat → β} {g : Nat → β}
    (next : ∀ n (inside : n < s.length), g (n + 1) = f (g n) (s[n], n)) :
    s.zipIdx.foldl f (g 0) = g s.length := by
  have run := @foldl_zipIdx_from α β s f g 0
  simp only [Nat.zero_add] at run
  exact run next

theorem matchLoop_succ (within : n < s₁.length) :
    matchLoop s₁ s₂ (n + 1) =
      (nextMatch s₂ (matchLoop s₁ s₂ n).s₂Matches (matchDist s₁ s₂) n s₁[n]).elim
        (matchLoop s₁ s₂ n) ((matchLoop s₁ s₂ n).pair n) := by
  obtain ⟨M, paired⟩ := matchLoop_paired s₁ s₂ within.le
  exact pairUp_eq_nextMatch paired.length₂ within

theorem findMatches_eq (s₁ s₂ : List Char) :
    findMatches s₁ s₂ =
      ((matchLoop s₁ s₂ s₁.length).s₁Matches, (matchLoop s₁ s₂ s₁.length).s₂Matches) := by
  unfold findMatches
  -- the array of the fold grows by an entry a turn, that of the loop has its length from the start
  refine (foldl_zipIdx (g := fun n =>
    ((matchLoop s₁ s₂ n).s₁Matches.take n, (matchLoop s₁ s₂ n).s₂Matches)) fun n inside => ?_).trans ?_
  · obtain ⟨M, paired⟩ := matchLoop_paired s₁ s₂ inside.le
    have within : n < (matchLoop s₁ s₂ n).s₁Matches.length := by rw [paired.length₁]; exact inside
    have unmatched := unset_of_free within paired.unmatched
    rw [matchLoop_succ inside]
    simp only [matchDist]
    cases nextMatch s₂ (matchLoop s₁ s₂ n).s₂Matches (max s₁.length s₂.length / 2 - 1) n s₁[n] with
    | none => simp [List.take_add_one, within, unmatched]
    | some j => simp [List.take_add_one, Matching.pair, within, List.take_set_of_le]
  · obtain ⟨M, paired⟩ := matchLoop_paired s₁ s₂ le_rfl
    rw [List.take_of_length_le paired.length₁.le]

theorem findMatches_swap (s₁ s₂ : List Char) :
    findMatches s₂ s₁ = ((findMatches s₁ s₂).2, (findMatches s₁ s₂).1) := by
  have swapped := matchLoop_swap s₁ s₂
  rw [findMatches_eq, findMatches_eq, swapped.1, swapped.2]

theorem jaroRun_eq (s₁ s₂ : List Char) (enough : s₂.length ≤ fuel) :
    jaroRun s₁ s₂ fuel = some (jaro s₁ s₂) := by
  unfold jaroRun jaro
  by_cases same : s₁ = s₂
  · rw [if_pos same, if_pos same]
  rw [if_neg same, if_neg same]
  by_cases empty : s₁.length = 0 ∨ s₂.length = 0
  · rw [if_pos empty, if_pos empty]
  rw [if_neg empty, if_neg empty, findMatches_eq]
  simp only [(matchLoop_balanced s₁ s₂).1]
  by_cases none_ : (matchLoop s₁ s₂ s₁.length).matched = 0
  · rw [if_pos none_, if_pos none_]
  rw [if_neg none_, if_neg none_]
  obtain ⟨c, ran, walked⟩ := transpositionLoop_matchLoop s₁ s₂ enough le_rfl
  have lengths := length_picked_matchLoop s₁ s₂
  -- the walk has passed as many places as are matched, so it has passed them all
  have passed := (picked_take_within s₂ (matchLoop s₁ s₂ s₁.length).s₂Matches c.k).eq_of_length
    (by rw [walked.opposite, List.take_length, lengths.1, lengths.2])
  have transpositions := walked.transpositions
  rw [passed, List.take_length] at transpositions
  rw [ran, Option.map_some, transpositions]
  rfl

theorem jaro_bounds (s₁ s₂ : List Char) : 0 ≤ jaro s₁ s₂ ∧ jaro s₁ s₂ ≤ 1 := by
  obtain ⟨r, ran, bounds⟩ := jaroRun_spec s₁ s₂ le_rfl
  rw [jaroRun_eq s₁ s₂ le_rfl, Option.some.injEq] at ran
  exact ran ▸ bounds

theorem length_filter_zip_comm (l₁ l₂ : List Char) :
    ((l₁.zip l₂).filter fun pair => pair.1 ≠ pair.2).length =
      ((l₂.zip l₁).filter fun pair => pair.1 ≠ pair.2).length := by
  rw [← List.zip_swap l₂ l₁, List.filter_map, List.length_map]
  congr 2
  funext pair
  simp [eq_comm]

theorem jaro_comm (s₁ s₂ : List Char) : jaro s₁ s₂ = jaro s₂ s₁ := by
  unfold jaro
  by_cases same : s₁ = s₂
  · rw [if_pos same, if_pos same.symm]
  rw [if_neg same, if_neg (Ne.symm same)]
  by_cases empty : s₁.length = 0 ∨ s₂.length = 0
  · rw [if_pos empty, if_pos empty.symm]
  rw [if_neg empty, if_neg (mt Or.symm empty), findMatches_swap s₁ s₂]
  have balanced : (findMatches s₁ s₂).2.count true = (findMatches s₁ s₂).1.count true := by
    rw [findMatches_eq]
    exact (matchLoop_balanced s₁ s₂).2.trans (matchLoop_balanced s₁ s₂).1.symm
  simp only [balanced, length_filter_zip_comm (matchedChars s₂ _), add_comm (_ / (s₂.length : ℚ))]

theorem prefixLoop_cons (a b : Char) (s₁ s₂ : List Char) (rest i : Nat) :
    prefixLoop (a :: s₁) (b :: s₂) rest (i + 1) = prefixLoop s₁ s₂ rest i := by
  induction rest generalizing i with
  | zero => rfl
  | succ rest ih => simp only [prefixLoop, List.getElem?_cons_succ, ih]

theorem prefixLoop_eq (s₁ s₂ : List Char) {rest : Nat} (within₁ : rest ≤ s₁.length)
    (within₂ : rest ≤ s₂.length) : prefixLoop s₁ s₂ rest 0 = min rest (commonPrefix s₁ s₂) := by
  induction rest generalizing s₁ s₂ with
  | zero => simp [prefixLoop]
  | succ rest ih =>
    cases s₁ with
    | nil => simp at within₁
    | cons a s₁ =>
      cases s₂ with
      | nil => simp at within₂
      | cons b s₂ =>
        have := ih s₁ s₂ (by simpa using within₁) (by simpa using within₂)
        by_cases same : a = b
        · simp only [prefixLoop, commonPrefix, prefixLoop_cons, this, same, if_true,
            List.getElem?_cons_zero]
          omega
        · simp [prefixLoop, commonPrefix, same]

theorem commonPrefix_le (s₁ s₂ : List Char) : commonPrefix s₁ s₂ ≤ min s₁.length s₂.length := by
  induction s₁ generalizing s₂ with
  | nil => simp [commonPrefix]
  | cons a s₁ ih =>
    cases s₂ with
    | nil => simp [commonPrefix]
    | cons b s₂ =>
      have := ih s₂
      simp only [commonPrefix, List.length_cons]
      split <;> omega

theorem commonPrefix_comm (s₁ s₂ : List Char) : commonPrefix s₁ s₂ = commonPrefix s₂ s₁ := by
  induction s₁ generalizing s₂ with
  | nil => cases s₂ <;> rfl
  | cons a s₁ ih =>
    cases s₂ with
    | nil => rfl
    | cons b s₂ => simp only [commonPrefix, ih s₂, eq_comm]

theorem jaroWinklerRun_eq (s₁ s₂ : List Char) (enough : s₂.length ≤ fuel) :
    jaroWinklerRun s₁ s₂ fuel = some (jaroWinkler s₁ s₂) := by
  have few := commonPrefix_le s₁ s₂
  have within₁ : min 4 (min s₁.length s₂.length) ≤ s₁.length := by omega
  have within₂ : min 4 (min s₁.length s₂.length) ≤ s₂.length := by omega
  have prefixed := prefixLoop_eq s₁ s₂ within₁ within₂
  have same : min (min 4 (min s₁.length s₂.length)) (commonPrefix s₁ s₂) =
      min 4 (commonPrefix s₁ s₂) := by omega
  rw [jaroWinklerRun, jaroRun_eq s₁ s₂ enough, Option.map_some, prefixed, same]
  rfl

theorem jaroWinkler_bounds (s₁ s₂ : List Char) : 0 ≤ jaroWinkler s₁ s₂ ∧ jaroWinkler s₁ s₂ ≤ 1 :=
  winkler_bounds (jaro_bounds s₁ s₂).1 (jaro_bounds s₁ s₂).2 (min_le_left _ _)

theorem jaroWinkler_comm (s₁ s₂ : List Char) : jaroWinkler s₁ s₂ = jaroWinkler s₂ s₁ := by
  simp only [jaroWinkler, jaro_comm s₁ s₂, commonPrefix_comm s₁ s₂]

theorem jaroWinkler_self (s : List Char) : jaroWinkler s s = 1 := by
  simp [jaroWinkler, jaro]

end Tokens

section Closest
variable {token : List Char} {source target : List (List Char)} {x : ℚ}

def closest (token : List Char) (others : List (List Char)) : ℚ :=
  (others.map (jaroWinkler token)).foldl max 0

/-- The average of `source`, each token by the closest one of `target`. -/
def oneWay (source target : List (List Char)) : ℚ :=
  (source.map fun token => closest token target).sum / source.length

theorem foldl_max_le_iff (scores : List ℚ) (start : ℚ) :
    scores.foldl max start ≤ x ↔ start ≤ x ∧ ∀ score ∈ scores, score ≤ x := by
  induction scores generalizing start with
  | nil => simp
  | cons score scores ih =>
    simp only [List.foldl_cons, ih, max_le_iff, List.forall_mem_cons, and_assoc]

theorem closest_le_iff :
    closest token target ≤ x ↔ 0 ≤ x ∧ ∀ other ∈ target, jaroWinkler token other ≤ x := by
  simp [closest, foldl_max_le_iff]

theorem closest_bounds (token : List Char) (target : List (List Char)) :
    0 ≤ closest token target ∧ closest token target ≤ 1 :=
  ⟨(closest_le_iff.mp le_rfl).1,
    closest_le_iff.mpr ⟨zero_le_one, fun other _ => (jaroWinkler_bounds token other).2⟩⟩

theorem closest_of_mem (present : token ∈ target) : closest token target = 1 := by
  refine le_antisymm (closest_bounds token target).2 ?_
  have own := (closest_le_iff.mp (le_refl (closest token target))).2 token present
  rwa [jaroWinkler_self] at own

theorem closest_singleton (token other : List Char) : closest token [other] = jaroWinkler token other :=
  max_eq_right (jaroWinkler_bounds token other).1

theorem closest_pair (token x y : List Char) :
    closest token [x, y] = max (jaroWinkler token x) (jaroWinkler token y) := by
  simp only [closest, List.map_cons, List.map_nil, List.foldl_cons, List.foldl_nil,
    max_eq_right (jaroWinkler_bounds token x).1]

theorem scoreTokens_eq (some₁ : source ≠ []) (some₂ : target ≠ []) :
    scoreTokens source target = oneWay source target := by
  simp [scoreTokens, oneWay, closest, some₁, some₂]

theorem oneWay_bounds (source target : List (List Char)) :
    0 ≤ oneWay source target ∧ oneWay source target ≤ 1 := by
  have low : 0 ≤ (source.map fun token => closest token target).sum := by
    refine List.sum_nonneg fun score near => ?_
    obtain ⟨token, -, rfl⟩ := List.mem_map.mp near
    exact (closest_bounds token target).1
  have high : (source.map fun token => closest token target).sum ≤ source.length := by
    have := List.sum_le_card_nsmul (source.map fun token => closest token target) 1 fun score near => by
      obtain ⟨token, -, rfl⟩ := List.mem_map.mp near
      exact (closest_bounds token target).2
    simpa using this
  exact ⟨div_nonneg low (Nat.cast_nonneg _), div_le_one_of_le₀ high (Nat.cast_nonneg _)⟩

theorem oneWay_of_subset (some_ : source ≠ []) (present : ∀ token ∈ source, token ∈ target) :
    oneWay source target = 1 := by
  have all : (source.map fun token => closest token target) = List.replicate source.length 1 := by
    rw [List.map_eq_replicate_iff]
    exact fun token near => closest_of_mem (present token near)
  have nonzero : (source.length : ℚ) ≠ 0 := by simpa using some_
  rw [oneWay, all, List.sum_replicate, nsmul_eq_mul, mul_one, div_self nonzero]

end Closest

section Names
variable {tokensA tokensB : List (List Char)}

def fullScore (tokensA tokensB : List (List Char)) : ℚ :=
  if tokensA.length ≤ tokensB.length then scoreTokens tokensA tokensB
  else scoreTokens tokensB tokensA

def noMiddlesScore (tokensA tokensB : List (List Char)) : ℚ :=
  scoreTokens (firstAndLast tokensA) (firstAndLast tokensB)

def compareTokens (tokensA tokensB : List (List Char)) : ℚ :=
  if tokensA.length = 0 ∨ tokensB.length = 0 then 0
  else if tokensA.length < 2 ∨ tokensB.length < 2 then fullScore tokensA tokensB
  else max (fullScore tokensA tokensB) (noMiddlesScore tokensA tokensB)

theorem scoreTokens_bounds (source target : List (List Char)) :
    0 ≤ scoreTokens source target ∧ scoreTokens source target ≤ 1 := by
  by_cases empty : source.length = 0 ∨ target.length = 0
  · rw [scoreTokens, if_pos empty]
    exact ⟨le_rfl, zero_le_one⟩
  · have some₁ : source ≠ [] := fun nil => empty (.inl (by simp [nil]))
    have some₂ : target ≠ [] := fun nil => empty (.inr (by simp [nil]))
    rw [scoreTokens_eq some₁ some₂]
    exact oneWay_bounds source target

theorem fullScore_bounds (tokensA tokensB : List (List Char)) :
    0 ≤ fullScore tokensA tokensB ∧ fullScore tokensA tokensB ≤ 1 := by
  unfold fullScore
  split <;> exact scoreTokens_bounds _ _

theorem compareTokens_bounds (tokensA tokensB : List (List Char)) :
    0 ≤ compareTokens tokensA tokensB ∧ compareTokens tokensA tokensB ≤ 1 := by
  have full := fullScore_bounds tokensA tokensB
  have ends : _ ∧ noMiddlesScore tokensA tokensB ≤ 1 := scoreTokens_bounds _ _
  unfold compareTokens
  split
  · exact ⟨le_rfl, zero_le_one⟩
  split
  · exact full
  · exact ⟨full.1.trans (le_max_left _ _), max_le full.2 ends.2⟩

/-- Every token of the name that is compared occurs in the other one. -/
def Held (tokensA tokensB : List (List Char)) : Prop :=
  if tokensA.length ≤ tokensB.length then ∀ token ∈ tokensA, token ∈ tokensB
  else ∀ token ∈ tokensB, token ∈ tokensA

theorem fullScore_of_held (someA : tokensA ≠ []) (someB : tokensB ≠ [])
    (held : Held tokensA tokensB) : fullScore tokensA tokensB = 1 := by
  unfold Held at held
  unfold fullScore
  split at held
  · rw [if_pos ‹_›, scoreTokens_eq someA someB, oneWay_of_subset someA held]
  · rw [if_neg ‹_›, scoreTokens_eq someB someA, oneWay_of_subset someB held]

theorem compareTokens_of_held (someA : tokensA ≠ []) (someB : tokensB ≠ [])
    (held : Held tokensA tokensB) : compareTokens tokensA tokensB = 1 := by
  have full := fullScore_of_held someA someB held
  have ends : _ ∧ noMiddlesScore tokensA tokensB ≤ 1 := scoreTokens_bounds _ _
  have some_ : ¬(tokensA.length = 0 ∨ tokensB.length = 0) := by simp [someA, someB]
  rw [compareTokens, if_neg some_, full]
  split
  · rfl
  · exact max_eq_left ends.2

/-- The Jaro matcher of the source on any two texts, and the comparison of any two names. -/
theorem jaro_wellFormed {α : Type} [DecidableEq α] (s₁ s₂ : List α) (a b : String) :
    ((matchLoop s₁ s₂ s₁.length).s₁Matches.count true = (matchLoop s₁ s₂ s₁.length).matched ∧
      (matchLoop s₁ s₂ s₁.length).s₂Matches.count true = (matchLoop s₁ s₂ s₁.length).matched) ∧
    (∀ fuel i, s₂.length ≤ fuel → i < s₁.length →
      ∃ c, transpositionLoop s₁ s₂ fuel (matchLoop s₁ s₂ s₁.length) i = some c ∧
        ((matchLoop s₁ s₂ s₁.length).s₁Matches[i]? = some true →
          ∃ k, nextMatched (matchLoop s₁ s₂ s₁.length).s₂Matches fuel c.k = some k ∧
            k < s₂.length)) ∧
    (∀ fuel, s₂.length ≤ fuel → ∃ r, jaroRun s₁ s₂ fuel = some r ∧ 0 ≤ r ∧ r ≤ 1) ∧
    (∀ fuel, s₂.length ≤ fuel → ∃ r, jaroWinklerRun s₁ s₂ fuel = some r ∧ 0 ≤ r ∧ r ≤ 1) ∧
    (0 ≤ compare a b ∧ compare a b ≤ 1) ∧
    (tokenize a ≠ [] → tokenize b ≠ [] → Held (tokenize a) (tokenize b) → compare a b = 1) := by
  have lengths := length_picked_matchLoop s₁ s₂
  refine ⟨matchLoop_balanced s₁ s₂, fun fuel i enough inside => ?_,
    fun fuel enough => jaroRun_spec s₁ s₂ enough, fun fuel enough => jaroWinklerRun_spec s₁ s₂ enough,
    compareTokens_bounds _ _, fun someA someB held => compareTokens_of_held someA someB held⟩
  obtain ⟨c, ran, walked⟩ := transpositionLoop_matchLoop s₁ s₂ enough inside.le
  refine ⟨c, ran, fun found => ?_⟩
  obtain ⟨k, stops, below, -, -⟩ :=
    walked.stops (lengths.1.trans lengths.2.symm) enough inside found
  exact ⟨k, stops, below⟩

theorem jaro_wellFormed_ada :
    (∃ r, jaroRun "martha".toList "marhta".toList 6 = some r ∧ 0 ≤ r ∧ r ≤ 1) ∧
    compare "Ada Obi" "Obi Ngozi Ada" = 1 := by
  have run := jaro_wellFormed "martha".toList "marhta".toList "Ada Obi" "Obi Ngozi Ada"
  exact ⟨run.2.2.1 6 (by decide +kernel),
    run.2.2.2.2.2 (by decide +kernel) (by decide +kernel) (by unfold Held; decide +kernel)⟩

/-- A name without tokens scores 0, whatever it lacks; of two names with as many tokens only
those of the first are compared. -/
theorem jaro_wellFormed_unmatched :
    ((tokenize "").length ≤ (tokenize "Ada").length ∧
      (∀ token ∈ tokenize "", token ∈ tokenize "Ada") ∧ compare "" "Ada" = 0) ∧
    (tokenize "Ada Ada").length ≤ (tokenize "Ada Obi").length ∧
      (∀ token ∈ tokenize "Ada Ada", token ∈ tokenize "Ada Obi") ∧
      compare "Ada Obi" "Ada Ada" = 1 / 2 := by
  decide +kernel

end Names

end Bitmonie.NameMatchService
