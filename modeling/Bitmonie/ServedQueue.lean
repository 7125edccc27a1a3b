import Mathlib.Data.List.Nodup

/-! A queue that is served in rounds from its front. A round takes as many entries as it has
room for; an entry that is refused stays in its place. -/
namespace ServedQueue
variable {α : Type}

/-- The entries that rounds with this much room take, one round after the other. -/
def served (room : Nat) (refused : α → Bool) : Nat → List α → List α
  | 0, _ => []
  | rounds + 1, queue => queue.take room ++
      served room refused rounds ((queue.take room).filter refused ++ queue.drop room)

/-- The queue can be cut into one stretch for each round, such that a stretch has room beside
the refused entries of the stretches before it; `ahead` counts those before the queue. -/
inductive Fits (room : Nat) (refused : α → Bool) : Nat → Nat → List α → Prop
  | nil : Fits room refused ahead rounds []
  | round (stretch : List α) : ahead + stretch.length ≤ room →
      Fits room refused (ahead + stretch.countP refused) rounds rest →
      Fits room refused ahead (rounds + 1) (stretch ++ rest)

variable {room : Nat} {refused : α → Bool} {ahead rounds : Nat} {queue : List α}

theorem Fits.ahead_lt (fits : Fits room refused ahead rounds queue) (waiting : queue ≠ []) :
    ahead < room := by
  induction fits with
  | nil => contradiction
  | round stretch fit _ ih =>
    cases stretch with
    | nil => exact ih waiting
    | cons x more =>
      rw [List.length_cons] at fit
      omega

theorem Fits.succ (fits : Fits room refused ahead rounds queue) :
    Fits room refused ahead (rounds + 1) queue := by
  cases queue with
  | nil => exact .nil
  | cons x rest =>
    have least := fits.ahead_lt (by simp)
    exact .round [] (by rw [List.length_nil]; omega) fits

theorem Fits.mono {more : Nat} (fits : Fits room refused ahead rounds queue)
    (enough : rounds ≤ more) : Fits room refused ahead more queue := by
  induction enough with
  | refl => exact fits
  | step _ ih => exact ih.succ

/-- Entries that have been taken leave at most the refused ones of them behind. -/
theorem Fits.drop {taken rest : List α} (fits : Fits room refused ahead rounds (taken ++ rest)) :
    Fits room refused (ahead + taken.countP refused) rounds rest := by
  generalize whole : taken ++ rest = queue at fits
  induction fits generalizing taken with
  | nil =>
    obtain ⟨-, rfl⟩ := List.append_eq_nil_iff.mp whole
    exact .nil
  | round stretch fit fits ih =>
    rename_i later
    rcases List.append_eq_append_iff.mp whole with ⟨more, rfl, rfl⟩ | ⟨more, rfl, rfl⟩
    · have fewer := List.countP_le_length (p := refused) (l := taken)
      rw [List.countP_append, ← Nat.add_assoc] at fits
      exact .round more (by rw [List.length_append] at fit; omega) fits
    · rw [List.countP_append, ← Nat.add_assoc]
      exact (ih rfl).succ

/-- No other cut takes more entries in its first round than a round that is full. -/
theorem Fits.full {taken rest : List α} (full : room ≤ ahead + taken.length)
    (fits : Fits room refused ahead (rounds + 1) (taken ++ rest)) :
    Fits room refused (ahead + taken.countP refused) rounds rest := by
  generalize whole : taken ++ rest = queue at fits
  cases fits with
  | nil =>
    obtain ⟨-, rfl⟩ := List.append_eq_nil_iff.mp whole
    exact .nil
  | round stretch fit fits =>
    rcases List.append_eq_append_iff.mp whole with ⟨more, rfl, rfl⟩ | ⟨more, rfl, rfl⟩
    · rw [List.length_append] at fit
      obtain rfl : more = [] := List.length_eq_zero_iff.mp (by omega)
      simpa using fits
    · rw [List.countP_append, ← Nat.add_assoc]
      exact fits.drop

/-- A round takes what is stuck and the next entries, as many as there is room for. -/
theorem round_split {stuck next rest : List α} (fit : stuck.length ≤ room)
    (length : next.length = room - stuck.length ∨ rest = [] ∧ next.length ≤ room - stuck.length) :
    (stuck ++ (next ++ rest)).take room = stuck ++ next ∧
      (stuck ++ (next ++ rest)).drop room = rest := by
  have total : (stuck ++ next).length = stuck.length + next.length := List.length_append
  rw [← List.append_assoc]
  rcases length with full | ⟨rfl, short⟩
  · exact ⟨List.take_left' (by omega), List.drop_left' (by omega)⟩
  · rw [List.append_nil]
    exact ⟨List.take_of_length_le (by omega), List.drop_eq_nil_iff.mpr (by omega)⟩

/-- The front of the queue is `stuck`, refused before. -/
theorem served_behind {stuck : List α} (refuses : ∀ x ∈ stuck, refused x = true)
    (fit : stuck.length ≤ room) (distinct : (stuck ++ queue).Nodup) :
    (∀ x ∈ queue, x ∈ served room refused rounds (stuck ++ queue)) ↔
      Fits room refused stuck.length rounds queue := by
  induction rounds generalizing stuck queue with
  | zero =>
    constructor
    · intro all
      cases queue with
      | nil => exact .nil
      | cons x rest => exact absurd (all x (by simp)) (by simp [served])
    · rintro ⟨⟩ x member
      cases member
  | succ n ih =>
    -- The round takes what is stuck and the next entries of the queue.
    obtain ⟨next, rest, rfl, length⟩ : ∃ next rest, queue = next ++ rest ∧
        (next.length = room - stuck.length ∨ rest = [] ∧ next.length ≤ room - stuck.length) := by
      refine ⟨queue.take (room - stuck.length), queue.drop (room - stuck.length),
        (List.take_append_drop ..).symm, ?_⟩
      rw [List.length_take, List.drop_eq_nil_iff]
      omega
    obtain ⟨front, back⟩ := round_split fit length
    have left : (stuck ++ next).filter refused = stuck ++ next.filter refused := by
      rw [List.filter_append, List.filter_eq_self.mpr refuses]
    rw [← List.append_assoc] at distinct
    have apart := List.disjoint_of_nodup_append distinct
    have later : (∀ x ∈ next ++ rest, x ∈ served room refused (n + 1) (stuck ++ (next ++ rest))) ↔
        ∀ x ∈ rest, x ∈ served room refused n (stuck ++ next.filter refused ++ rest) := by
      rw [served, front, back, left]
      constructor
      · intro all x member
        rcases List.mem_append.mp (all x (by simp [member])) with before | after
        · exact absurd member (apart before)
        · exact after
      · intro all x member
        rcases List.mem_append.mp member with now | after
        · simp [now]
        · exact List.mem_append_right _ (all x after)
    have count : (stuck ++ next.filter refused).length = stuck.length + next.countP refused := by
      rw [List.length_append, List.countP_eq_length_filter]
    have fewer := List.countP_le_length (p := refused) (l := next)
    have stays : (stuck ++ next.filter refused ++ rest).Nodup :=
      distinct.sublist
        (((List.Sublist.refl _).append List.filter_sublist).append (List.Sublist.refl _))
    rw [later, ih (fun x member => ?_) (by omega) stays, count]
    · refine ⟨fun fits => .round next (by omega) fits, fun fits => ?_⟩
      rcases length with full | ⟨rfl, -⟩
      · exact fits.full (by omega)
      · exact .nil
    · rcases List.mem_append.mp member with old | new
      · exact refuses x old
      · exact List.of_mem_filter new

/-- Every entry is taken within the rounds if and only if the queue fits into them. -/
theorem served_iff (distinct : queue.Nodup) :
    (∀ x ∈ queue, x ∈ served room refused rounds queue) ↔ Fits room refused 0 rounds queue := by
  have whole := @served_behind α room refused rounds queue [] (by simp) (by simp) distinct
  simpa using whole

/-- An entry with as many refused ones ahead of it as a round has room for is never taken. -/
theorem not_served {front rest : List α} {x : α} (crowded : room ≤ front.countP refused)
    (absent : x ∉ front) : x ∉ served room refused rounds (front ++ x :: rest) := by
  induction rounds generalizing front with
  | zero => simp [served]
  | succ n ih =>
    have fewer := List.countP_le_length (p := refused) (l := front)
    have now : (front ++ x :: rest).take room = front.take room :=
      List.take_append_of_le_length (by omega)
    have later : (front ++ x :: rest).drop room = front.drop room ++ x :: rest :=
      List.drop_append_of_le_length (by omega)
    rw [served, now, later, ← List.append_assoc, List.mem_append]
    rintro (taken | taken)
    · exact absent (List.mem_of_mem_take taken)
    · refine ih ?_ ?_ taken
      · rw [List.countP_append, List.countP_filter]
        simp only [Bool.and_self]
        rwa [← List.countP_append, List.take_append_drop]
      · intro member
        rcases List.mem_append.mp member with kept | behind
        · exact absent (List.mem_of_mem_take (List.mem_of_mem_filter kept))
        · exact absent (List.mem_of_mem_drop behind)

end ServedQueue
