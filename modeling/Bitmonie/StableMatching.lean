import Mathlib.Order.WellFounded
import Mathlib.Order.Basic

/-! Pairs between two ordered sides, where an earlier partner is always the better one. No
two stable matchings differ, so it does not matter which of the sides chooses. The greedy
run, in which each place takes the first partner left, is stable at every length. -/
namespace Bitmonie.StableMatching

section Orders
variable {ι κ : Type*} [LinearOrder ι] [LinearOrder κ] {adm M N : ι → κ → Prop} {i : ι} {j : κ}

/-- Of an admissible pair that is not matched, one side has an earlier partner. -/
structure Stable (adm M : ι → κ → Prop) : Prop where
  admissible : ∀ {i j}, M i j → adm i j
  left : ∀ {i j j'}, M i j → M i j' → j = j'
  right : ∀ {i i' j}, M i j → M i' j → i = i'
  settled : ∀ {i j}, adm i j → (∃ j' ≤ j, M i j') ∨ ∃ i' ≤ i, M i' j

theorem Stable.swap (stable : Stable adm M) : Stable (fun j i => adm i j) fun j i => M i j where
  admissible := stable.admissible
  left := stable.right
  right := stable.left
  settled := fun pair => (stable.settled pair).symm

/-- What is settled before `i` settles `i`. -/
theorem Stable.matched_of_earlier (stable : Stable adm M) (other : Stable adm N)
    (earlier : ∀ i' < i, ∀ j, M i' j ↔ N i' j) (matched : M i j) : N i j := by
  rcases other.settled (stable.admissible matched) with ⟨j', before, pair⟩ | ⟨i', before, pair⟩
  · rcases before.lt_or_eq with less | rfl
    · rcases stable.settled (other.admissible pair) with ⟨j'', first, own⟩ | ⟨i', first, own⟩
      · have := stable.left matched own
        subst this
        exact absurd (first.trans_lt less) (lt_irrefl _)
      · rcases first.lt_or_eq with less' | rfl
        · have same := other.right pair ((earlier i' less' j').mp own)
          exact absurd same less'.ne'
        · rwa [stable.left matched own]
    · exact pair
  · rcases before.lt_or_eq with less | rfl
    · have same := stable.right matched ((earlier i' less j).mpr pair)
      exact absurd same less.ne'
    · exact pair

theorem Stable.unique [WellFoundedLT ι] (stable : Stable adm M) (other : Stable adm N) :
    M i j ↔ N i j := by
  induction i using WellFoundedLT.induction generalizing j with
  | ind i ih =>
    have earlier : ∀ i' < i, ∀ j, M i' j ↔ N i' j := fun i' less j => ih i' less
    exact ⟨stable.matched_of_earlier other earlier,
      other.matched_of_earlier stable fun i' less j => (earlier i' less j).symm⟩

end Orders

section Greedy
variable {κ : Type*} [LinearOrder κ] {adm M : Nat → κ → Prop} {n : Nat} {j : κ}

/-- What is admissible to the places before `n`. -/
def Upto (adm : Nat → κ → Prop) (n i : Nat) (j : κ) : Prop := i < n ∧ adm i j

/-- The place `n` takes `j`. -/
def Take (M : Nat → κ → Prop) (n : Nat) (j : κ) (i : Nat) (k : κ) : Prop := M i k ∨ i = n ∧ k = j

theorem stable_zero : Stable (Upto adm 0) fun _ _ => False where
  admissible := fun no => no.elim
  left := fun no => no.elim
  right := fun no => no.elim
  settled := fun pair => absurd pair.1 (Nat.not_lt_zero _)

theorem Stable.skip (stable : Stable (Upto adm n) M) (taken : ∀ k, adm n k → ∃ i, M i k) :
    Stable (Upto adm (n + 1)) M where
  admissible := fun pair =>
    ⟨(stable.admissible pair).1.trans (Nat.lt_succ_self n), (stable.admissible pair).2⟩
  left := stable.left
  right := stable.right
  settled := by
    intro i k pair
    rcases Nat.lt_succ_iff_lt_or_eq.mp pair.1 with before | rfl
    · exact stable.settled ⟨before, pair.2⟩
    · obtain ⟨i', matched⟩ := taken k pair.2
      exact .inr ⟨i', (stable.admissible matched).1.le, matched⟩

theorem Stable.take (stable : Stable (Upto adm n) M) (pair : adm n j) (free : ∀ i, ¬M i j)
    (taken : ∀ k < j, adm n k → ∃ i, M i k) : Stable (Upto adm (n + 1)) (Take M n j) where
  admissible := by
    rintro i k (matched | ⟨rfl, rfl⟩)
    · exact ⟨(stable.admissible matched).1.trans (Nat.lt_succ_self n), (stable.admissible matched).2⟩
    · exact ⟨Nat.lt_succ_self i, pair⟩
  left := by
    rintro i k k' (matched | ⟨rfl, rfl⟩) (other | ⟨same, rfl⟩)
    · exact stable.left matched other
    · exact absurd same (stable.admissible matched).1.ne
    · exact absurd (stable.admissible other).1 (lt_irrefl _)
    · rfl
  right := by
    rintro i i' k (matched | ⟨rfl, rfl⟩) (other | ⟨rfl, same⟩)
    · exact stable.right matched other
    · exact absurd (same ▸ matched) (free i)
    · exact absurd other (free i')
    · rfl
  settled := by
    intro i k admissible
    rcases Nat.lt_succ_iff_lt_or_eq.mp admissible.1 with before | rfl
    · rcases stable.settled ⟨before, admissible.2⟩ with ⟨k', first, matched⟩ | ⟨i', first, matched⟩
      · exact .inl ⟨k', first, .inl matched⟩
      · exact .inr ⟨i', first, .inl matched⟩
    · rcases lt_or_ge k j with less | more
      · obtain ⟨i', matched⟩ := taken k less admissible.2
        exact .inr ⟨i', (stable.admissible matched).1.le, .inl matched⟩
      · exact .inl ⟨j, more, .inr ⟨rfl, rfl⟩⟩

end Greedy

end Bitmonie.StableMatching
