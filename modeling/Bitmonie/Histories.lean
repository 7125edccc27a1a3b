import Mathlib.Data.List.DropRight
import Bitmonie.Interleaving
import Bitmonie.SharedClock

/-! What a call of a run has done before each of its accesses. Contracts speak of states; here
an access is judged by those that its own call made before it. -/
namespace Bitmonie

/-- Whatever the states and the answers, each access is as `held` says of it and of those
before it. -/
def Proc.Along (held : List (Event σ ι ℓ) → Event σ ι ℓ → Prop)
    (post : List (Event σ ι ℓ) → α → Prop) : List (Event σ ι ℓ) → Proc σ ι ℓ ε α → Prop
  | past, .pure a => post past a
  | _, .throw _ => True
  | past, .step label effect next => ∀ i s t, effect i s = some t →
      held past ⟨label, i, s, t⟩ ∧ (next i s).Along held post (past ++ [⟨label, i, s, t⟩])

def Has (like : Event σ ι ℓ → Prop) (past : List (Event σ ι ℓ)) : Prop := ∃ e ∈ past, like e

theorem Has.later {like : Event σ ι ℓ → Prop} {past : List (Event σ ι ℓ)} (has : Has like past)
    (e : Event σ ι ℓ) : Has like (past ++ [e]) := by
  obtain ⟨made, member, alike⟩ := has
  exact ⟨made, List.mem_append_left _ member, alike⟩

theorem Has.last {like : Event σ ι ℓ → Prop} {past : List (Event σ ι ℓ)} {e : Event σ ι ℓ}
    (alike : like e) : Has like (past ++ [e]) :=
  ⟨e, List.mem_append_right _ (List.mem_singleton_self e), alike⟩

namespace Proc
variable {σ ι ℓ ε α β : Type} {held : List (Event σ ι ℓ) → Event σ ι ℓ → Prop}
  {past : List (Event σ ι ℓ)}

theorem Along.seq {p : Proc σ ι ℓ ε α} {f : α → Proc σ ι ℓ ε β}
    {mid : List (Event σ ι ℓ) → α → Prop} {post : List (Event σ ι ℓ) → β → Prop}
    (first : p.Along held mid past) (rest : ∀ past a, mid past a → (f a).Along held post past) :
    (p.bind f).Along held post past := by
  induction p generalizing past with
  | pure a => exact rest past a first
  | throw e => trivial
  | step label effect next ih =>
    intro i s t made
    obtain ⟨here, after⟩ := first i s t made
    exact ⟨here, ih i s after⟩

theorem along_access {label : ℓ} {enabled : σ → Bool} {f : ι → σ → Except ε α × σ}
    {post : List (Event σ ι ℓ) → α → Prop}
    (each : ∀ i s, held past ⟨label, i, s, (f i s).2⟩ ∧
      ∀ a, (f i s).1 = .ok a → post (past ++ [⟨label, i, s, (f i s).2⟩]) a) :
    (access label enabled f : Proc σ ι ℓ ε α).Along held post past := by
  intro i s t made
  dsimp only at made
  split at made
  · obtain rfl := Option.some.inj made
    refine ⟨(each i s).1, ?_⟩
    dsimp only
    cases ended : (f i s).1 with
    | ok a => exact (each i s).2 a ended
    | error e => trivial
  · cases made

theorem Along.imp {p : Proc σ ι ℓ ε α} {post wider : List (Event σ ι ℓ) → α → Prop}
    (along : p.Along held post past) (weaker : ∀ past a, post past a → wider past a) :
    p.Along held wider past := by
  induction p generalizing past with
  | pure a => exact weaker past a along
  | throw e => trivial
  | step label effect next ih =>
    intro i s t made
    exact ⟨(along i s t made).1, ih i s (along i s t made).2⟩

theorem Along.catching {p : Proc σ ι ℓ ε α} {handler : ε → Proc σ ι ℓ ε α}
    {post : List (Event σ ι ℓ) → α → Prop} (body : p.Along held post past)
    (caught : ∀ past e, (handler e).Along held post past) :
    (p.catching handler).Along held post past := by
  induction p generalizing past with
  | pure a => exact body
  | throw e => exact caught past e
  | step label effect next ih =>
    intro i s t made
    exact ⟨(body i s t made).1, ih i s (body i s t made).2⟩

/-- What more accesses cannot undo still stands at the end. -/
theorem Along.carry {p : Proc σ ι ℓ ε α} {post : List (Event σ ι ℓ) → α → Prop}
    (along : p.Along held post past) (kept : List (Event σ ι ℓ) → Prop) (here : kept past)
    (later : ∀ past e, kept past → kept (past ++ [e])) :
    p.Along held (fun past a => post past a ∧ kept past) past := by
  induction p generalizing past with
  | pure a => exact ⟨along, here⟩
  | throw e => trivial
  | step label effect next ih =>
    intro i s t made
    obtain ⟨first, rest⟩ := along i s t made
    exact ⟨first, ih i s rest (later past _ here)⟩

/-- A contract that asks nothing of the states says what the accesses are, and they stand
behind any past. -/
theorem Complies.along {guar : ℓ → ι → σ → σ → Prop} {p : Proc σ ι ℓ ε α}
    (complies : p.Complies ⟨fun _ => True, fun _ _ _ => True, fun _ _ => True, guar⟩)
    (holds : ∀ past label i s t, guar label i s t → held past ⟨label, i, s, t⟩) :
    p.Along held (fun _ _ => True) past := by
  induction p generalizing past with
  | pure a => trivial
  | throw e => trivial
  | step label effect next ih =>
    intro i s t made
    obtain ⟨-, here, after⟩ := complies s s trivial trivial i t trivial made
    refine ⟨holds past label i s t here, ih i s fun u => ?_⟩
    exact after.interfere ⟨fun _ => trivial, fun _ _ _ _ _ => trivial⟩ (fun _ _ _ _ _ => trivial)
      (fun _ _ _ _ _ => trivial) trivial

end Proc

/-- A statement that fails does nothing, and one whose answer is lost returns nothing. -/
theorem along_statement {σ ρ ℓ ε α : Type} [Clocked σ]
    {held : List (Event σ (Reply ρ) ℓ) → Event σ (Reply ρ) ℓ → Prop}
    {past : List (Event σ (Reply ρ) ℓ)} {fault : ε} {label : ℓ} {f : ρ → σ → Except ε α × σ}
    {post : List (Event σ (Reply ρ) ℓ) → α → Prop}
    (failed : ∀ i s, held past ⟨label, i, s, Clocked.tick i.elapsed s⟩)
    (made : ∀ i s, held past ⟨label, i, s, (f i.data (Clocked.tick i.elapsed s)).2⟩ ∧
      ∀ a, (f i.data (Clocked.tick i.elapsed s)).1 = .ok a →
        post (past ++ [⟨label, i, s, (f i.data (Clocked.tick i.elapsed s)).2⟩]) a) :
    (statement fault label f).Along held post past := by
  refine Proc.along_access fun i s => ?_
  cases i.fails with
  | true => exact ⟨failed i s, nofun⟩
  | false =>
    refine ⟨(made i s).1, fun a ended => (made i s).2 a ?_⟩
    cases lost : i.lost with
    | true => simp [lost] at ended
    | false => simpa [lost] using ended

section Runs
variable {σ ι ℓ ε ρ Op : Type} {start : Nat → Op → Proc σ ι ℓ ε ρ} {s₀ : σ}
  {trace : List (Nat × Event σ ι ℓ)} {c : Config σ ι ℓ ε ρ}

def own (tid : Nat) (trace : List (Nat × Event σ ι ℓ)) : List (Event σ ι ℓ) :=
  (trace.filter fun e => e.1 = tid).map Prod.snd

@[simp] theorem own_append (tid : Nat) (first rest : List (Nat × Event σ ι ℓ)) :
    own tid (first ++ rest) = own tid first ++ own tid rest := by
  simp [own]

theorem own_self (tid : Nat) (e : Event σ ι ℓ) : own tid [(tid, e)] = [e] := by simp [own]

theorem own_other {tid other : Nat} (e : Event σ ι ℓ) (different : other ≠ tid) :
    own tid [(other, e)] = [] := by simp [own, different]

/-- An access of the call stands in the run, followed by what the call did after it. -/
theorem own_split {tid : Nat} {earlier later : List (Event σ ι ℓ)} {e : Event σ ι ℓ}
    (split : own tid trace = earlier ++ e :: later) :
    ∃ first rest, trace = first ++ (tid, e) :: rest ∧ own tid rest = later := by
  obtain ⟨front, back, chosen, -, mapped⟩ := List.map_eq_append_iff.mp split
  obtain ⟨⟨other, made⟩, tail, rfl, same, rest_⟩ := List.map_eq_cons_iff.mp mapped
  obtain ⟨first, rest, rfl, -, filtered⟩ := List.filter_eq_append_iff.mp chosen
  obtain ⟨skipped, last, rfl, -, mine, kept⟩ := List.filter_eq_cons_iff.mp filtered
  obtain rfl : made = e := same
  obtain rfl : other = tid := of_decide_eq_true mine
  exact ⟨first ++ skipped, last, by simp, by rw [own, kept, rest_]⟩

/-- The accesses of all calls after the last one of this call that is like this. -/
def since (tid : Nat) (like : Event σ ι ℓ → Bool) (past : List (Nat × Event σ ι ℓ)) :
    List (Nat × Event σ ι ℓ) :=
  past.rtakeWhile fun e => !(e.1 = tid && like e.2)

theorem since_of_split {tid : Nat} {like : Event σ ι ℓ → Bool} {e : Event σ ι ℓ}
    {first rest : List (Nat × Event σ ι ℓ)} (alike : like e = true)
    (later : ∀ other ∈ own tid rest, like other = false) :
    since tid like (first ++ (tid, e) :: rest) = rest := by
  have passed : ∀ other ∈ rest.reverse, (!(other.1 = tid && like other.2)) = true := by
    intro other member
    by_cases mine : other.1 = tid
    · have inside : other.2 ∈ own tid rest := List.mem_map_of_mem
        (List.mem_filter.mpr ⟨List.mem_reverse.mp member, by simp [mine]⟩)
      simp [later other.2 inside]
    · simp [mine]
  rw [since, List.rtakeWhile, List.reverse_append, List.reverse_cons, List.append_assoc,
    List.takeWhile_append_of_pos passed]
  simp [alike]

/-- Every access is so, given those before it. -/
def Throughout (held : List (Nat × Event σ ι ℓ) → Nat × Event σ ι ℓ → Bool) :
    List (Nat × Event σ ι ℓ) → List (Nat × Event σ ι ℓ) → Bool
  | _, [] => true
  | past, e :: rest => held past e && Throughout held (past ++ [e]) rest

theorem Throughout.at {held : List (Nat × Event σ ι ℓ) → Nat × Event σ ι ℓ → Bool}
    {before past rest : List (Nat × Event σ ι ℓ)} {e : Nat × Event σ ι ℓ}
    (throughout : Throughout held before (past ++ e :: rest) = true) :
    held (before ++ past) e = true := by
  induction past generalizing before with
  | nil =>
    simp only [List.nil_append, Throughout, Bool.and_eq_true] at throughout
    simpa using throughout.1
  | cons first past ih =>
    simp only [List.cons_append, Throughout, Bool.and_eq_true] at throughout
    simpa using ih throughout.2

/-- Each call of the pool goes on from what it has done, and nothing else has been done. -/
theorem Runs.pool_along {held : Nat → List (Event σ ι ℓ) → Event σ ι ℓ → Prop}
    (run : Runs start s₀ trace c)
    (along : ∀ tid op, (start tid op).Along (held tid) (fun _ _ => True) []) :
    (∀ (tid : Nat) (p : Proc σ ι ℓ ε ρ), c.pool[tid]? = some p →
      p.Along (held tid) (fun _ _ => True) (own tid trace)) ∧
    (∀ e ∈ trace, e.1 < c.pool.length) := by
  induction run with
  | nil => exact ⟨by simp, by simp⟩
  | @start trace c op run ih =>
    refine ⟨fun tid p found => ?_, fun e member => ?_⟩
    · rcases Nat.lt_or_ge tid c.pool.length with old | new
      · rw [List.getElem?_append_left old] at found
        exact ih.1 tid p found
      · have last : tid = c.pool.length := by
          have := (List.getElem?_eq_some_iff.mp found).1
          simp only [List.length_append, List.length_singleton] at this
          omega
        subst last
        obtain rfl : start c.pool.length op = p := by simpa using found
        have unused : own c.pool.length trace = [] := by
          simp only [own, List.map_eq_nil_iff, List.filter_eq_nil_iff, decide_eq_true_eq]
          intro e member same
          exact absurd (ih.2 e member) (by omega)
        rw [unused]
        exact along _ op
    · have := ih.2 e member
      simp only [List.length_append, List.length_singleton]
      omega
  | @access trace c tid label effect next i s' run found ran ih =>
    have bound : tid < c.pool.length := (List.getElem?_eq_some_iff.mp found).1
    refine ⟨fun other p at_ => ?_, fun e member => ?_⟩
    · by_cases same : tid = other
      · subst same
        obtain rfl : next i c.shared = p := by simpa [List.getElem?_set, bound] using at_
        rw [own_append, own_self]
        exact (ih.1 tid _ found i c.shared s' ran).2
      · rw [List.getElem?_set_ne same] at at_
        rw [own_append, own_other _ same, List.append_nil]
        exact ih.1 other p at_
    · rw [List.length_set]
      rcases List.mem_append.mp member with old | new
      · exact ih.2 e old
      · obtain rfl := List.mem_singleton.mp new
        exact bound

/-- Every access of a run is as its call says of it and of the accesses it had made. -/
theorem Runs.along {held : Nat → List (Event σ ι ℓ) → Event σ ι ℓ → Prop}
    (run : Runs start s₀ trace c)
    (along : ∀ tid op, (start tid op).Along (held tid) (fun _ _ => True) [])
    {first rest : List (Nat × Event σ ι ℓ)} {e : Nat × Event σ ι ℓ}
    (split : trace = first ++ e :: rest) : held e.1 (own e.1 first) e.2 := by
  induction run generalizing rest with
  | nil => simp at split
  | start op run ih => exact ih split
  | @access trace c tid label effect next i s' run found ran ih =>
    rcases List.eq_nil_or_concat rest with rfl | ⟨rest', last, rfl⟩
    · obtain ⟨rfl, same⟩ := List.append_inj' split rfl
      obtain rfl := (List.cons.inj same).1
      exact ((run.pool_along along).1 tid _ found i c.shared s' ran).1
    · have init := List.append_inj_left' (split.trans (by simp : _ =
        (first ++ e :: rest') ++ [last])) rfl
      exact ih init

end Runs

end Bitmonie
