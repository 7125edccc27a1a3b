import Mathlib.Logic.Function.Basic
import Mathlib.Data.List.Basic

/-! Claimants that each need a key, and take it one after the other unless it is held. Nothing
here names a program. -/
namespace Bitmonie.FirstClaims

variable {ι κ : Type} [DecidableEq ι] {need held : ι → Option κ} {i j : ι} {k : κ}
  {first rest : List ι}

def Held (held : ι → Option κ) (k : κ) : Prop := ∃ i, held i = some k

/-- The claimant has the key it needs from now on, unless somebody has it. -/
noncomputable def take (need held : ι → Option κ) (i : ι) : ι → Option κ :=
  open Classical in
  match need i with
  | none => held
  | some k => if Held held k then held else Function.update held i (some k)

noncomputable def takeAll (need held : ι → Option κ) (claimants : List ι) : ι → Option κ :=
  claimants.foldl (take need) held

/-- A key that is needed is held by one that does not give it up. -/
def Fresh (need held : ι → Option κ) : Prop :=
  ∀ i j k, need i = some k → held j = some k → need j = none ∨ need j = some k

/-- A key has one holder at most. -/
def Exclusive (held : ι → Option κ) : Prop := ∀ i j k, held i = some k → held j = some k → i = j

theorem take_none (unneeding : need i = none) : take need held i = held := by
  rw [take, unneeding]

theorem take_held (needs : need i = some k) (holds : Held held k) : take need held i = held := by
  rw [take, needs]
  exact if_pos holds

theorem take_free (needs : need i = some k) (free : ¬ Held held k) :
    take need held i = Function.update held i (some k) := by
  rw [take, needs]
  exact if_neg free

theorem take_cases (need held : ι → Option κ) (i : ι) :
    take need held i = held ∨
      ∃ k, need i = some k ∧ ¬ Held held k ∧ take need held i = Function.update held i (some k) := by
  cases needs : need i with
  | none => exact .inl (take_none needs)
  | some k =>
    by_cases holds : Held held k
    · exact .inl (take_held needs holds)
    · exact .inr ⟨k, rfl, holds, take_free needs holds⟩

theorem take_exclusive (exclusive : Exclusive held) (i : ι) : Exclusive (take need held i) := by
  rcases take_cases need held i with same | ⟨k, -, free, taken⟩
  · rwa [same]
  rw [taken]
  intro a b other here there
  by_cases left : a = i <;> by_cases right : b = i
  · exact left.trans right.symm
  · subst left
    rw [Function.update_self] at here
    rw [Function.update_of_ne right, ← here] at there
    exact absurd ⟨b, there⟩ free
  · subst right
    rw [Function.update_self] at there
    rw [Function.update_of_ne left, ← there] at here
    exact absurd ⟨a, here⟩ free
  · rw [Function.update_of_ne left] at here
    rw [Function.update_of_ne right] at there
    exact exclusive a b other here there

theorem take_fresh (fresh : Fresh need held) (i : ι) : Fresh need (take need held i) := by
  rcases take_cases need held i with same | ⟨k, needs, -, taken⟩
  · rwa [same]
  rw [taken]
  intro a b other needed here
  by_cases same : b = i
  · subst same
    rw [Function.update_self] at here
    rw [← here]
    exact .inr needs
  · rw [Function.update_of_ne same] at here
    exact fresh a b other needed here

/-- Who holds a key that somebody needs keeps it. -/
theorem take_keeps (fresh : Fresh need held) (needed : need j = some k) {a : ι}
    (holds : held a = some k) (i : ι) : take need held i a = some k := by
  rcases take_cases need held i with same | ⟨other, needs, free, taken⟩
  · rwa [same]
  rw [taken]
  by_cases here : a = i
  · subst here
    rcases fresh j a k needed holds with none | own
    · rw [none] at needs
      cases needs
    · obtain rfl := Option.some.inj (own.symm.trans needs)
      exact absurd ⟨a, holds⟩ free
  · rwa [Function.update_of_ne here]

/-- After its turn a key that is needed is held. -/
theorem take_held_after (needs : need i = some k) : Held (take need held i) k := by
  by_cases holds : Held held k
  · rwa [take_held needs holds]
  · rw [take_free needs holds]
    exact ⟨i, Function.update_self ..⟩

theorem takeAll_append (first rest : List ι) :
    takeAll need held (first ++ rest) = takeAll need (takeAll need held first) rest :=
  List.foldl_append

theorem takeAll_cons (i : ι) (rest : List ι) :
    takeAll need held (i :: rest) = takeAll need (take need held i) rest := rfl

theorem takeAll_exclusive (exclusive : Exclusive held) (claimants : List ι) :
    Exclusive (takeAll need held claimants) := by
  induction claimants generalizing held with
  | nil => exact exclusive
  | cons i rest ih => exact ih (take_exclusive exclusive i)

theorem takeAll_fresh (fresh : Fresh need held) (claimants : List ι) :
    Fresh need (takeAll need held claimants) := by
  induction claimants generalizing held with
  | nil => exact fresh
  | cons i rest ih => exact ih (take_fresh fresh i)

theorem takeAll_keeps (fresh : Fresh need held) (needed : need j = some k) {a : ι}
    (holds : held a = some k) (claimants : List ι) : takeAll need held claimants a = some k := by
  induction claimants generalizing held with
  | nil => exact holds
  | cons i rest ih => exact ih (take_fresh fresh i) (take_keeps fresh needed holds i)

/-- Nothing changes where no claimant needs a key that is free. -/
theorem takeAll_settled {claimants : List ι}
    (held' : ∀ i ∈ claimants, ∀ k, need i = some k → Held held k) :
    takeAll need held claimants = held := by
  induction claimants with
  | nil => rfl
  | cons i rest ih =>
    have same : take need held i = held := by
      cases needs : need i with
      | none => exact take_none needs
      | some k => exact take_held needs (held' i (List.mem_cons_self ..) k needs)
    rw [takeAll_cons, same]
    exact ih fun i member => held' i (List.mem_cons_of_mem _ member)

/-- A claimant that is not asked, or needs nothing, keeps what it holds. -/
theorem takeAll_other {claimants : List ι} (idle : i ∉ claimants ∨ need i = none) :
    takeAll need held claimants i = held i := by
  induction claimants generalizing held with
  | nil => rfl
  | cons a rest ih =>
    rw [takeAll_cons, ih (idle.imp_left fun absent member => absent (List.mem_cons_of_mem _ member))]
    rcases take_cases need held a with same | ⟨k, needs, -, taken⟩
    · rw [same]
    · have other : i ≠ a := by
        rintro rfl
        rcases idle with absent | none
        · exact absent (List.mem_cons_self ..)
        · rw [none] at needs
          cases needs
      rw [taken, Function.update_of_ne other]

theorem takeAll_held {claimants : List ι} (fresh : Fresh need held) (member : i ∈ claimants)
    (needs : need i = some k) : Held (takeAll need held claimants) k := by
  obtain ⟨first, rest, rfl⟩ := List.append_of_mem member
  rw [takeAll_append, takeAll_cons]
  have taken : Held (take need (takeAll need held first) i) k := take_held_after needs
  obtain ⟨a, holds⟩ := taken
  exact ⟨a, takeAll_keeps (take_fresh (takeAll_fresh fresh first) i) needs holds rest⟩

/-- Those that were asked before are asked again, and then the rest: as if they had been asked
once. -/
theorem takeAll_resume (fresh : Fresh need held) (first rest : List ι) :
    takeAll need (takeAll need held first) (first ++ rest) = takeAll need held (first ++ rest) := by
  have settled : takeAll need (takeAll need held first) first = takeAll need held first :=
    takeAll_settled fun i member k needs => takeAll_held fresh member needs
  rw [takeAll_append, takeAll_append, settled]

theorem takeAll_origin {claimants : List ι} (holds : takeAll need held claimants i = some k) :
    held i = some k ∨ need i = some k ∧ i ∈ claimants := by
  induction claimants generalizing held with
  | nil => exact .inl holds
  | cons a rest ih =>
    rcases ih holds with before | ⟨needs, member⟩
    · rcases take_cases need held a with same | ⟨other, needs, -, taken⟩
      · rw [same] at before
        exact .inl before
      · rw [taken] at before
        by_cases here : i = a
        · subst here
          rw [Function.update_self] at before
          exact .inr ⟨needs.trans before, List.mem_cons_self ..⟩
        · rw [Function.update_of_ne here] at before
          exact .inl before
    · exact .inr ⟨needs, List.mem_cons_of_mem _ member⟩

/-- The key of a claimant that did not get it is held by one who had it from the start, or by
one who was asked before and needs it too. -/
theorem takeAll_holder {claimants : List ι} (fresh : Fresh need held) (once : claimants.Nodup)
    (member : i ∈ claimants) (needs : need i = some k) :
    takeAll need held claimants i = some k ∨
    takeAll need held claimants i = held i ∧
      ∃ a, a ≠ i ∧ takeAll need held claimants a = some k ∧
        (held a = some k ∨ need a = some k ∧ [a, i].Sublist claimants) := by
  obtain ⟨first, rest, rfl⟩ := List.append_of_mem member
  have fresh' := takeAll_fresh fresh first
  rw [takeAll_append, takeAll_cons]
  by_cases holds : Held (takeAll need held first) k
  · rw [take_held needs holds]
    obtain ⟨a, holds⟩ := holds
    have kept := takeAll_keeps fresh' needs holds rest
    by_cases same : a = i
    · subst same
      exact .inl kept
    · obtain ⟨notFirst, notRest⟩ : i ∉ first ∧ i ∉ rest := by
        have split := List.nodup_append.mp once
        exact ⟨fun before => split.2.2 i before i (List.mem_cons_self ..) rfl,
          (List.nodup_cons.mp split.2.1).1⟩
      refine .inr ⟨by rw [takeAll_other (.inl notRest), takeAll_other (.inl notFirst)], a, same, kept, ?_⟩
      refine (takeAll_origin holds).imp_right fun ⟨needs, before⟩ => ⟨needs, ?_⟩
      exact (List.singleton_sublist.mpr before).append
        (List.singleton_sublist.mpr (List.mem_cons_self ..))
  · have taken : take need (takeAll need held first) i i = some k := by
      rw [take_free needs holds, Function.update_self]
    exact .inl (takeAll_keeps (take_fresh fresh' i) needs taken rest)

end Bitmonie.FirstClaims
