import Mathlib.Data.List.Nodup
import Mathlib.Data.List.Perm.Subperm
import Mathlib.Data.List.Sort

/-! Listings that are served in pages: the first elements of a sorted list, and what a
reader who follows the cursors gets to see. -/
namespace Paging

section Sorted

variable {α : Type} {le : α → α → Bool}

/-- The two laws that sorting needs. -/
structure Ordering (le : α → α → Bool) : Prop where
  trans : ∀ a b c, le a b = true → le b c = true → le a c = true
  total : ∀ a b, (le a b || le b a) = true

/-- `le` tells the elements of the list apart. -/
def Separates (le : α → α → Bool) (l : List α) : Prop :=
  ∀ a ∈ l, ∀ b ∈ l, le a b = true → le b a = true → a = b

theorem Ordering.refl (laws : Ordering le) (a : α) : le a a = true := by
  simpa using laws.total a a

theorem Ordering.sorted (laws : Ordering le) (l : List α) :
    (l.mergeSort le).Pairwise fun a b => le a b = true :=
  List.pairwise_mergeSort laws.trans laws.total l

/-- Where `n` elements have a property that is closed under what comes earlier, the first
`n` have it. -/
theorem take_of_countP {l : List α} {p : α → Bool} {n : Nat}
    (sorted : l.Pairwise fun a b => le a b = true)
    (closed : ∀ a b, le a b = true → p b = true → p a = true)
    (many : n ≤ l.countP p) : ∀ a ∈ l.take n, p a = true := by
  induction l generalizing n with
  | nil => simp
  | cons head tail ih =>
    obtain ⟨first, rest⟩ := List.pairwise_cons.1 sorted
    cases n with
    | zero => simp
    | succ n =>
      by_cases holds : p head = true
      · have more : n ≤ tail.countP p := by
          rw [List.countP_cons_of_pos holds] at many
          omega
        intro a among
        rcases List.mem_cons.1 among with rfl | later
        · exact holds
        · exact ih rest more a later
      · have none_later : tail.countP p = 0 := by
          rw [List.countP_eq_zero]
          intro a among holds_later
          exact holds (closed head a (first a among) holds_later)
        rw [List.countP_cons_of_neg holds, none_later] at many
        omega

/-- An element is among the first `n` when fewer than `n` elements come strictly earlier. -/
theorem mem_take_iff {l : List α} {n : Nat} {x : α} (laws : Ordering le)
    (sorted : l.Pairwise fun a b => le a b = true) (apart : Separates le l)
    (distinct : l.Nodup) (among : x ∈ l) :
    x ∈ l.take n ↔ l.countP (fun y => !le x y) < n := by
  induction l generalizing n with
  | nil => simp at among
  | cons head tail ih =>
    obtain ⟨first, rest⟩ := List.pairwise_cons.1 sorted
    obtain ⟨new, distinctRest⟩ := List.nodup_cons.1 distinct
    cases n with
    | zero => simp
    | succ n =>
      by_cases same : x = head
      · subst same
        have nothing : (x :: tail).countP (fun y => !le x y) = 0 := by
          rw [List.countP_eq_zero]
          intro y later
          rcases List.mem_cons.1 later with rfl | later
          · simp [laws.refl]
          · simp [first y later]
        simp [nothing]
      · have later : x ∈ tail := by simpa [same] using among
        have strict : (!le x head) = true := by
          simp only [Bool.not_eq_true', Bool.eq_false_iff]
          intro back
          exact same (apart x among head (by simp) back (first x later))
        have apartRest : Separates le tail := fun a ina b inb =>
          apart a (List.mem_cons_of_mem _ ina) b (List.mem_cons_of_mem _ inb)
        rw [List.take_succ_cons, List.mem_cons,
          List.countP_cons_of_pos (p := fun y => !le x y) strict,
          ih (n := n) rest apartRest distinctRest later]
        simp only [same, false_or]
        omega

/-- The same of the unsorted list. -/
theorem mem_take_sort_iff {l : List α} {n : Nat} {x : α} (laws : Ordering le)
    (apart : Separates le l) (distinct : l.Nodup) (among : x ∈ l) :
    x ∈ (l.mergeSort le).take n ↔ l.countP (fun y => !le x y) < n := by
  have perm := List.mergeSort_perm l le
  have apart' : Separates le (l.mergeSort le) := fun a ina b inb =>
    apart a (List.mem_mergeSort.1 ina) b (List.mem_mergeSort.1 inb)
  rw [mem_take_iff laws (laws.sorted l) apart' (perm.nodup_iff.2 distinct)
    (List.mem_mergeSort.2 among), perm.countP_eq]

/-- What is not among the first elements comes after all of them. -/
theorem Ordering.le_of_not_mem_take {l : List α} {n : Nat} {a x : α} (laws : Ordering le)
    (front : a ∈ (l.mergeSort le).take n) (among : x ∈ l)
    (behind : x ∉ (l.mergeSort le).take n) : le a x = true := by
  have sorted := laws.sorted l
  have listed : x ∈ l.mergeSort le := List.mem_mergeSort.2 among
  rw [← List.take_append_drop n (l.mergeSort le)] at sorted
  rw [← List.take_append_drop n (l.mergeSort le)] at listed
  rcases List.mem_append.1 listed with taken | dropped
  · exact absurd taken behind
  · exact (List.pairwise_append.1 sorted).2.2 a front x dropped

/-- A sorted front with what comes after it is the sorted list. -/
theorem sort_eq_append {l front back : List α} (laws : Ordering le) (apart : Separates le l)
    (sorted : front.Pairwise fun a b => le a b = true)
    (parts : (front ++ back).Perm l)
    (ahead : ∀ a ∈ front, ∀ b ∈ back, le a b = true) :
    l.mergeSort le = front ++ back.mergeSort le := by
  have whole : (l.mergeSort le).Perm (front ++ back.mergeSort le) :=
    (List.mergeSort_perm l le).trans
      (parts.symm.trans ((List.mergeSort_perm back le).symm.append_left front))
  have sortedAll : (front ++ back.mergeSort le).Pairwise fun a b => le a b = true := by
    rw [List.pairwise_append]
    exact ⟨sorted, laws.sorted back, fun a ina b inb => ahead a ina b (List.mem_mergeSort.1 inb)⟩
  have inside : ∀ a, a ∈ front ++ back.mergeSort le → a ∈ l := fun a ina =>
    List.mem_mergeSort.1 (whole.mem_iff.2 ina)
  refine List.Perm.eq_of_pairwise ?_ (laws.sorted l) sortedAll whole
  intro a b ina inb ab ba
  exact apart a (List.mem_mergeSort.1 ina) b (inside b inb) ab ba

end Sorted

section Stable
variable {α : Type} {r : α → α → Prop} [DecidableRel r]

theorem orderedInsert_of_least {a : α} {l : List α} (least : ∀ b ∈ l, r a b) :
    l.orderedInsert r a = a :: l := by
  cases l with
  | nil => rfl
  | cons b rest => simp [least b (by simp)]

theorem filter_orderedInsert [IsTrans α r] (p : α → Bool) (a : α) {l : List α} (sorted : l.Pairwise r) :
    (l.orderedInsert r a).filter p =
      if p a then (l.filter p).orderedInsert r a else l.filter p := by
  induction l with
  | nil => by_cases keeps : p a = true <;> simp [keeps]
  | cons b rest ih =>
    obtain ⟨first, sorted⟩ := List.pairwise_cons.mp sorted
    by_cases before : r a b
    · have least : ∀ c ∈ (b :: rest).filter p, r a c := by
        intro c member
        rcases List.mem_cons.mp (List.mem_of_mem_filter member) with rfl | later
        · exact before
        · exact IsTrans.trans _ _ _ before (first c later)
      rw [List.orderedInsert_cons_of_le r _ before, orderedInsert_of_least least, List.filter_cons]
    · rw [List.orderedInsert_of_not_le r _ before, List.filter_cons, ih sorted]
      by_cases keeps : p a = true <;> by_cases here : p b = true <;>
        simp [keeps, here, before]

variable [IsTrans α r] [Std.Total r]

/-- A stable sort and a filter commute. -/
theorem filter_insertionSort (p : α → Bool) (l : List α) :
    (l.insertionSort r).filter p = (l.filter p).insertionSort r := by
  induction l with
  | nil => rfl
  | cons a rest ih =>
    rw [List.insertionSort_cons, filter_orderedInsert p a (List.pairwise_insertionSort r rest), ih]
    by_cases keeps : p a = true <;> simp [keeps]

/-- The first of a sorted list comes before all others; before those that are its equals, it
came before already. -/
theorem head_insertionSort {earlier : α → α → Prop} {l : List α} (order : l.Pairwise earlier)
    {x : α} (first : (l.insertionSort r).head? = some x) :
    x ∈ l ∧ ∀ y ∈ l, y = x ∨ r x y ∧ (r y x → earlier x y) := by
  induction l generalizing x with
  | nil => cases first
  | cons a rest ih =>
    obtain ⟨before, order⟩ := List.pairwise_cons.mp order
    rw [List.insertionSort_cons] at first
    rcases sorted : rest.insertionSort r with _ | ⟨h, tail⟩
    · have none_left : rest = [] := by
        rw [← List.length_eq_zero_iff, ← List.length_insertionSort r rest, sorted]
        rfl
      rw [sorted] at first
      obtain rfl := Option.some.inj first
      simp [none_left]
    · obtain ⟨among, least⟩ := ih order (by rw [sorted]; rfl : _ = some h)
      rw [sorted] at first
      by_cases comes : r a h
      · rw [List.orderedInsert_cons_of_le r _ comes] at first
        obtain rfl := Option.some.inj first
        refine ⟨List.mem_cons_self .., fun y member => ?_⟩
        rcases List.mem_cons.mp member with rfl | later
        · exact .inl rfl
        · refine .inr ⟨?_, fun _ => before y later⟩
          rcases least y later with rfl | ⟨after, _⟩
          · exact comes
          · exact IsTrans.trans _ _ _ comes after
      · rw [List.orderedInsert_of_not_le r _ comes] at first
        obtain rfl := Option.some.inj first
        refine ⟨List.mem_cons_of_mem _ among, fun y member => ?_⟩
        rcases List.mem_cons.mp member with rfl | later
        · exact .inr ⟨(Std.Total.total h y).resolve_right comes, fun back => absurd back comes⟩
        · exact least y later

/-- Sorted by a key. -/
theorem head_by {β : Type} {s : β → β → Prop} [DecidableRel s] [IsTrans β s] [Std.Total s]
    {key : α → β} {earlier : α → α → Prop} {l : List α} (order : l.Pairwise earlier) {x : α}
    (first : (l.insertionSort fun a b => s (key a) (key b)).head? = some x) :
    x ∈ l ∧ ∀ y ∈ l, y = x ∨ s (key x) (key y) ∧ (s (key y) (key x) → earlier x y) := by
  have trans : IsTrans α fun a b => s (key a) (key b) := ⟨fun _ _ _ => IsTrans.trans _ _ _⟩
  have total : Std.Total fun a b => s (key a) (key b) := ⟨fun _ _ => Std.Total.total _ _⟩
  exact head_insertionSort order first

end Stable

/-- What the page at a cursor holds, and the cursor it hands out. The first page is asked
for without one. -/
structure Pager (C α : Type) where
  items : Option C → List α
  next : Option C → Option C

variable {C α : Type}

/-- The cursors that a reader who starts at `start` comes to ask for. -/
inductive Pager.Asked (pager : Pager C α) (start : Option C) : Option C → Prop
  | start : pager.Asked start start
  | next {cursor : Option C} {following : C} (asked : pager.Asked start cursor)
      (more : pager.next cursor = some following) : pager.Asked start (some following)

/-- Following the cursors from here ends, with these items in this order. -/
inductive Pager.Yields (pager : Pager C α) : Option C → List α → Prop
  | last {cursor : Option C} (done : pager.next cursor = none) :
      pager.Yields cursor (pager.items cursor)
  | more {cursor : Option C} {following : C} {rest : List α}
      (more : pager.next cursor = some following)
      (yields : pager.Yields (some following) rest) :
      pager.Yields cursor (pager.items cursor ++ rest)

variable {pager : Pager C α}

theorem Pager.Asked.trans {start middle cursor : Option C} (early : pager.Asked start middle)
    (late : pager.Asked middle cursor) : pager.Asked start cursor := by
  induction late with
  | start => exact early
  | next _ more ih => exact ih.next more

/-- Where every page takes the front off what remains, the reader gets all of it. -/
theorem Pager.yields_of_front {start : Option C} (remaining : Option C → List α)
    (ends : ∀ cursor, pager.Asked start cursor → pager.next cursor = none →
      remaining cursor = pager.items cursor)
    (goes : ∀ cursor following, pager.Asked start cursor →
      pager.next cursor = some following →
      pager.items cursor ≠ [] ∧
        remaining cursor = pager.items cursor ++ remaining (some following)) :
    pager.Yields start (remaining start) := by
  suffices all : ∀ n cursor, (remaining cursor).length ≤ n → pager.Asked start cursor →
      pager.Yields cursor (remaining cursor) from all _ start (Nat.le_refl _) .start
  intro n
  -- the induction is on the number of items that remain
  induction n with
  | zero =>
    intro cursor short asked
    have nothing : remaining cursor = [] := List.length_eq_zero_iff.1 (by omega)
    cases found : pager.next cursor with
    | none => rw [ends cursor asked found]; exact .last found
    | some following =>
      obtain ⟨some_item, split⟩ := goes cursor following asked found
      rw [nothing] at split
      exact absurd (List.append_eq_nil_iff.1 split.symm).1 some_item
  | succ n ih =>
    intro cursor short asked
    cases found : pager.next cursor with
    | none => rw [ends cursor asked found]; exact .last found
    | some following =>
      obtain ⟨some_item, split⟩ := goes cursor following asked found
      have shorter : (remaining (some following)).length ≤ n := by
        have := List.length_pos_iff.2 some_item
        rw [split, List.length_append] at short
        omega
      rw [split]
      exact .more found (ih _ shorter (asked.next found))

/-- An item that was read stood on a page that was asked for. -/
theorem Pager.Yields.asked {cursor : Option C} {all : List α} {x : α}
    (yields : pager.Yields cursor all) (read : x ∈ all) :
    ∃ page, pager.Asked cursor page ∧ x ∈ pager.items page := by
  induction yields with
  | last => exact ⟨_, .start, read⟩
  | more found _ ih =>
    rcases List.mem_append.1 read with here | later
    · exact ⟨_, .start, here⟩
    · obtain ⟨page, asked, holds⟩ := ih later
      exact ⟨page, (Pager.Asked.start.next found).trans asked, holds⟩

end Paging
