import Bitmonie.NameComparison
import Bitmonie.Kyc

/-! Which name comes first. The similarity of two tokens does not depend on it, and neither
does the comparison of all tokens when one name has fewer. But one token may be the closest
one to several, so tokens of equal number, and the first and last ones, can score more from
one side than from the other. -/
namespace Bitmonie.NameMatchService
open KycService (disbursementNameMatchThreshold)

section Order
variable {tokensA tokensB : List (List Char)} {p q r s : ℚ}

/-- Of four similarities, two straight and two crossed, neither side gains by sharing. -/
def PairOff (straight crossed crossed' straight' : ℚ) : Prop :=
  crossed = crossed' ∨ straight = straight' ∨
    max crossed crossed' ≤ min straight straight' ∨ max straight straight' ≤ min crossed crossed'

/-- The higher straight and the higher crossed similarity stand in one row. -/
theorem nested_of_balanced (straight : s < p) (crossed : r < q)
    (balanced : max p q + max r s = max p r + max q s) :
    max q r ≤ min p s ∨ max p s ≤ min q r := by
  rw [max_eq_left crossed.le, min_eq_right straight.le, max_eq_left straight.le,
    min_eq_right crossed.le]
  by_contra apart
  rw [not_or, not_le, not_le] at apart
  obtain ⟨low, high⟩ := apart
  rw [max_eq_left low.le, max_eq_left high.le] at balanced
  rcases le_total p q with less | more
  · have := max_lt high straight
    rw [max_eq_right less] at balanced
    linarith
  · have := max_lt crossed low
    rw [max_eq_left more] at balanced
    linarith

theorem pairOff_of_balanced (balanced : max p q + max r s = max p r + max q s) :
    PairOff p q r s := by
  have turned : max s r + max q p = max s q + max r p := by
    rw [max_comm s r, max_comm q p, max_comm s q, max_comm r p]
    linarith
  rcases lt_trichotomy q r with crossed | crossed | crossed
  · rcases lt_trichotomy p s with straight | straight | straight
    · have nested := nested_of_balanced straight crossed turned
      rw [max_comm r q, min_comm s p, max_comm s p, min_comm r q] at nested
      exact .inr (.inr nested)
    · exact .inr (.inl straight)
    · have nested := nested_of_balanced straight crossed balanced.symm
      rw [max_comm r q, min_comm r q] at nested
      exact .inr (.inr nested)
  · exact .inl crossed
  · rcases lt_trichotomy p s with straight | straight | straight
    · have nested := nested_of_balanced straight crossed turned.symm
      rw [min_comm s p, max_comm s p] at nested
      exact .inr (.inr nested)
    · exact .inr (.inl straight)
    · exact .inr (.inr (nested_of_balanced straight crossed balanced))

theorem pairOff_iff : max p q + max r s = max p r + max q s ↔ PairOff p q r s := by
  refine ⟨pairOff_of_balanced, ?_⟩
  rintro (rfl | rfl | above | below)
  · rfl
  · rw [max_comm r p, max_comm q p, add_comm]
  · simp only [max_le_iff, le_min_iff] at above
    rw [max_eq_left above.1.1, max_eq_right above.2.2, max_eq_left above.1.2, max_eq_right above.2.1]
  · simp only [max_le_iff, le_min_iff] at below
    rw [max_eq_right below.1.1, max_eq_left below.2.2, max_eq_right below.2.1, max_eq_left below.1.2,
      add_comm]

def EndsPairOff (tokensA tokensB : List (List Char)) : Prop :=
  PairOff (jaroWinkler (tokensA.headD []) (tokensB.headD []))
    (jaroWinkler (tokensA.headD []) (tokensB.getLastD []))
    (jaroWinkler (tokensA.getLastD []) (tokensB.headD []))
    (jaroWinkler (tokensA.getLastD []) (tokensB.getLastD []))

/-- The average over the first and the last token, each by the closer end of the other name. -/
def endsOneWay (source target : List (List Char)) : ℚ :=
  oneWay [source.headD [], source.getLastD []] [target.headD [], target.getLastD []]

theorem firstAndLast_eq {tokens : List (List Char)} (some_ : tokens ≠ []) :
    firstAndLast tokens = [tokens.headD [], tokens.getLastD []] := by
  cases tokens with
  | nil => exact absurd rfl some_
  | cons token tokens => simp [firstAndLast, List.getLastD_eq_getLast?, List.getLast?_cons]

theorem oneWay_pair (x y z w : List Char) :
    oneWay [x, y] [z, w] =
      (max (jaroWinkler x z) (jaroWinkler x w) + max (jaroWinkler y z) (jaroWinkler y w)) / 2 := by
  simp [oneWay, closest_pair]

theorem endsOneWay_comm_iff :
    endsOneWay tokensA tokensB = endsOneWay tokensB tokensA ↔ EndsPairOff tokensA tokensB := by
  simp only [endsOneWay, oneWay_pair, EndsPairOff, ← pairOff_iff,
    jaroWinkler_comm (tokensB.headD []), jaroWinkler_comm (tokensB.getLastD [])]
  exact div_left_inj' two_ne_zero

/-- No other of the tokens is more similar. -/
def Nearest (token other : List Char) (others : List (List Char)) : Prop :=
  ∀ another ∈ others, jaroWinkler token another ≤ jaroWinkler token other

/-- The tokens form pairs in which each is a closest one to the other. -/
def Mutual (tokensA tokensB : List (List Char)) : Prop :=
  ∃ partners : List (List Char), partners.Perm tokensB ∧
    List.Forall₂ (fun a b => Nearest a b tokensB ∧ Nearest b a tokensA) tokensA partners

/-- Every token of a name that is no longer than the other one stands in the other. -/
def Contained (tokensA tokensB : List (List Char)) : Prop :=
  (tokensA.length ≤ tokensB.length → tokensA ⊆ tokensB) ∧
  (tokensB.length ≤ tokensA.length → tokensB ⊆ tokensA)

/-- No token has to serve several: there is one only, or all of the shorter name are found in
the other, or the first and last ones pair off and the others, where all count, do too. -/
def OrderFree (tokensA tokensB : List (List Char)) : Prop :=
  tokensA.length < 2 ∨ tokensB.length < 2 ∨ Contained tokensA tokensB ∨
    EndsPairOff tokensA tokensB ∧
      (tokensA.length = tokensB.length → tokensA.length = 2 ∨ Mutual tokensA tokensB)

theorem closest_of_nearest {token other : List Char} {others : List (List Char)}
    (present : other ∈ others) (nearest : Nearest token other others) :
    closest token others = jaroWinkler token other :=
  le_antisymm (closest_le_iff.mpr ⟨(jaroWinkler_bounds token other).1, nearest⟩)
    ((closest_le_iff.mp le_rfl).2 other present)

/-- What the tokens of the one name find is what their partners find. -/
theorem oneWay_of_mutual (paired : Mutual tokensA tokensB) :
    oneWay tokensA tokensB = oneWay tokensB tokensA := by
  obtain ⟨partners, perm, pairs⟩ := paired
  have same : tokensA.map (closest · tokensB) = partners.map (closest · tokensA) := by
    rw [← List.forall₂_eq_eq_eq, List.forall₂_map_left_iff, List.forall₂_map_right_iff]
    rw [List.forall₂_iff_get] at pairs ⊢
    obtain ⟨length, pairs⟩ := pairs
    refine ⟨length, fun i left right => ?_⟩
    obtain ⟨near, near'⟩ := pairs i left right
    rw [closest_of_nearest (perm.subset (List.get_mem _ _)) near,
      closest_of_nearest (List.get_mem _ _) near', jaroWinkler_comm]
  have length : tokensA.length = tokensB.length := by
    simpa [perm.length_eq] using congrArg List.length same
  rw [oneWay, oneWay, same, (perm.map _).sum_eq, length]

theorem fullScore_eq (someA : tokensA ≠ []) (someB : tokensB ≠ []) :
    fullScore tokensA tokensB =
      if tokensA.length ≤ tokensB.length then oneWay tokensA tokensB else oneWay tokensB tokensA := by
  rw [fullScore, scoreTokens_eq someA someB, scoreTokens_eq someB someA]

theorem fullScore_comm (differ : tokensA.length ≠ tokensB.length) :
    fullScore tokensA tokensB = fullScore tokensB tokensA := by
  unfold fullScore
  by_cases fewer : tokensA.length ≤ tokensB.length
  · rw [if_pos fewer, if_neg (by omega)]
  · rw [if_neg fewer, if_pos (by omega)]

theorem noMiddlesScore_eq (someA : tokensA ≠ []) (someB : tokensB ≠ []) :
    noMiddlesScore tokensA tokensB = endsOneWay tokensA tokensB := by
  rw [noMiddlesScore, firstAndLast_eq someA, firstAndLast_eq someB]
  exact scoreTokens_eq (List.cons_ne_nil _ _) (List.cons_ne_nil _ _)

theorem compareTokens_of_two (twoA : 2 ≤ tokensA.length) (twoB : 2 ≤ tokensB.length) :
    compareTokens tokensA tokensB =
      max (fullScore tokensA tokensB) (endsOneWay tokensA tokensB) := by
  have someA : tokensA ≠ [] := List.length_pos_iff.mp (by omega)
  have someB : tokensB ≠ [] := List.length_pos_iff.mp (by omega)
  rw [compareTokens, if_neg (by omega), if_neg (by omega), noMiddlesScore_eq someA someB]

theorem compareTokens_comm_of_few (few : tokensA.length < 2 ∨ tokensB.length < 2) :
    compareTokens tokensA tokensB = compareTokens tokensB tokensA := by
  by_cases empty : tokensA.length = 0 ∨ tokensB.length = 0
  · rw [compareTokens, if_pos empty, compareTokens, if_pos empty.symm]
  rw [compareTokens, if_neg empty, if_pos few, compareTokens, if_neg (mt Or.symm empty),
    if_pos few.symm]
  by_cases same : tokensA.length = tokensB.length
  · obtain ⟨a, rfl⟩ := List.length_eq_one_iff.mp (show tokensA.length = 1 by omega)
    obtain ⟨b, rfl⟩ := List.length_eq_one_iff.mp (show tokensB.length = 1 by omega)
    simp [fullScore, scoreTokens_eq, oneWay, closest_singleton, jaroWinkler_comm a b]
  · exact fullScore_comm same

/-- Two names of two tokens each score the same when their tokens pair off, and only then. -/
theorem compareTokens_comm_two_iff (twoA : tokensA.length = 2) (twoB : tokensB.length = 2) :
    compareTokens tokensA tokensB = compareTokens tokensB tokensA ↔ EndsPairOff tokensA tokensB := by
  obtain ⟨a, a', rfl⟩ := List.length_eq_two.mp twoA
  obtain ⟨b, b', rfl⟩ := List.length_eq_two.mp twoB
  have score (x x' y y' : List Char) :
      compareTokens [x, x'] [y, y'] = endsOneWay [x, x'] [y, y'] := by
    have same : [x, x'].length ≤ [y, y'].length := le_rfl
    rw [compareTokens_of_two le_rfl le_rfl,
      fullScore_eq (List.cons_ne_nil _ _) (List.cons_ne_nil _ _), if_pos same]
    exact max_self _
  rw [score, score, endsOneWay_comm_iff]

/-- The full comparison finds everything, so that it is as high as it can be. -/
theorem compareTokens_of_contained (twoA : 2 ≤ tokensA.length) (twoB : 2 ≤ tokensB.length)
    (contained : Contained tokensA tokensB) : compareTokens tokensA tokensB = 1 := by
  have someA : tokensA ≠ [] := List.length_pos_iff.mp (by omega)
  have someB : tokensB ≠ [] := List.length_pos_iff.mp (by omega)
  have full : fullScore tokensA tokensB = 1 := by
    rw [fullScore_eq someA someB]
    by_cases fewer : tokensA.length ≤ tokensB.length
    · rw [if_pos fewer]
      exact oneWay_of_subset someA fun token near => contained.1 fewer near
    · rw [if_neg fewer]
      exact oneWay_of_subset someB fun token near => contained.2 (by omega) near
  rw [compareTokens_of_two twoA twoB, full]
  exact max_eq_left (oneWay_bounds _ _).2

/-- Names of unequal numbers of tokens are put in order for the full comparison; names of
equal ones score the same both ways when their tokens are mutual. -/
theorem fullScore_comm_of_mutual (someA : tokensA ≠ []) (someB : tokensB ≠ [])
    (paired : tokensA.length = tokensB.length → Mutual tokensA tokensB) :
    fullScore tokensA tokensB = fullScore tokensB tokensA := by
  by_cases same : tokensA.length = tokensB.length
  · rw [fullScore_eq someA someB, fullScore_eq someB someA, if_pos same.le, if_pos same.ge,
      oneWay_of_mutual (paired same)]
  · exact fullScore_comm same

theorem compareTokens_comm (free : OrderFree tokensA tokensB) :
    compareTokens tokensA tokensB = compareTokens tokensB tokensA := by
  by_cases few : tokensA.length < 2 ∨ tokensB.length < 2
  · exact compareTokens_comm_of_few few
  obtain ⟨twoA, twoB⟩ : 2 ≤ tokensA.length ∧ 2 ≤ tokensB.length := by omega
  rcases free with fewA | fewB | contained | ⟨ends, paired⟩
  · exact absurd (.inl fewA) few
  · exact absurd (.inr fewB) few
  · rw [compareTokens_of_contained twoA twoB contained,
      compareTokens_of_contained twoB twoA contained.symm]
  · by_cases two : tokensA.length = 2 ∧ tokensB.length = 2
    · exact (compareTokens_comm_two_iff two.1 two.2).mpr ends
    have someA : tokensA ≠ [] := List.length_pos_iff.mp (by omega)
    have someB : tokensB ≠ [] := List.length_pos_iff.mp (by omega)
    have full := fullScore_comm_of_mutual someA someB fun same =>
      (paired same).resolve_left fun length => two ⟨length, same ▸ length⟩
    rw [compareTokens_of_two twoA twoB, compareTokens_of_two twoB twoA, full,
      endsOneWay_comm_iff.mpr ends]

/-- The answer, and every decision by it, is the same from both sides when no token has to
serve several, and with two tokens each only then. -/
theorem compare_comm_of_orderFree (a b : String) :
    (OrderFree (tokenize a) (tokenize b) →
      compare a b = compare b a ∧
        (disbursementNameMatchThreshold ≤ compare a b ↔
          disbursementNameMatchThreshold ≤ compare b a)) ∧
    ((tokenize a).length = 2 → (tokenize b).length = 2 → compare a b = compare b a →
      OrderFree (tokenize a) (tokenize b)) := by
  constructor
  · intro free
    have same : compare a b = compare b a := compareTokens_comm free
    exact ⟨same, by rw [same]⟩
  · intro twoA twoB same
    exact .inr (.inr (.inr ⟨(compareTokens_comm_two_iff twoA twoB).mp same, fun _ => .inl twoA⟩))

/-- The middle names of the two orders differ, and each is the closest one to the other. -/
theorem compare_comm_of_orderFree_sample :
    compare "Ada Chi Obi" "Ada Chika Obi" = compare "Ada Chika Obi" "Ada Chi Obi" := by
  refine ((compare_comm_of_orderFree _ _).1 (.inr (.inr (.inr ⟨?_, fun _ => .inr ?_⟩)))).1
  · unfold EndsPairOff PairOff
    decide +kernel
  · refine ⟨tokenize "Ada Chika Obi", .refl _, ?_⟩
    unfold Nearest
    decide +kernel

/-- Both tokens of the one name are near to the same token of the other. -/
theorem compare_ada_ada :
    compare "Ada Ada" "Ada Obi" = 1 ∧ compare "Ada Obi" "Ada Ada" = 1 / 2 ∧
    disbursementNameMatchThreshold ≤ compare "Ada Ada" "Ada Obi" ∧
    ¬disbursementNameMatchThreshold ≤ compare "Ada Obi" "Ada Ada" := by
  decide +kernel

end Order

end Bitmonie.NameMatchService
