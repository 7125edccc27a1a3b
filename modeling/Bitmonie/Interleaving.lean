import Mathlib.Data.List.Induction
import Bitmonie.Procedure

/-! Runs of procedures over one shared state: interleaved access by access, or one
procedure after another. A discipline that every procedure meets holds in every state
and at every access of every run. -/
namespace Bitmonie

structure Event (σ ι ℓ : Type) where
  label : ℓ
  answer : ι
  before : σ
  after : σ

/-- A procedure is known by its position in the pool; finished ones stay there. -/
structure Config (σ ι ℓ ε ρ : Type) where
  shared : σ
  pool : List (Proc σ ι ℓ ε ρ)

/-- Every interleaving of any number of procedures, in any order of starts and
accesses, with the accesses made so far. -/
inductive Runs (start : Nat → Op → Proc σ ι ℓ ε ρ) (s₀ : σ) :
    List (Nat × Event σ ι ℓ) → Config σ ι ℓ ε ρ → Prop where
  | nil : Runs start s₀ [] ⟨s₀, []⟩
  | start (op : Op) : Runs start s₀ trace c →
      Runs start s₀ trace ⟨c.shared, c.pool ++ [start c.pool.length op]⟩
  | access {tid : Nat} {label : ℓ} {effect : ι → σ → Option σ} {next : ι → σ → Proc σ ι ℓ ε ρ}
      {i : ι} {s' : σ} : Runs start s₀ trace c → c.pool[tid]? = some (.step label effect next) →
      effect i c.shared = some s' →
      Runs start s₀ (trace ++ [(tid, ⟨label, i, c.shared, s'⟩)])
        ⟨s', c.pool.set tid (next i c.shared)⟩

def stateAfter (s₀ : σ) (trace : List (Nat × Event σ ι ℓ)) : σ :=
  (trace.getLast?.map fun e => e.2.after).getD s₀

@[simp] theorem stateAfter_nil (s₀ : σ) :
    stateAfter s₀ ([] : List (Nat × Event σ ι ℓ)) = s₀ := rfl

@[simp] theorem stateAfter_append (s₀ : σ) (trace : List (Nat × Event σ ι ℓ))
    (e : Nat × Event σ ι ℓ) : stateAfter s₀ (trace ++ [e]) = e.2.after := by
  simp [stateAfter]

/-- Each access starts where the one before it ended. -/
theorem Runs.linked {start : Nat → Op → Proc σ ι ℓ ε ρ} (run : Runs start s₀ trace c) :
    c.shared = stateAfter s₀ trace ∧
      ∀ first e rest, trace = first ++ e :: rest → e.2.before = stateAfter s₀ first := by
  induction run with
  | nil => simp
  | start op run ih => exact ih
  | @access trace c tid label effect next i s' run found ran ih =>
    refine ⟨by simp, fun first e rest split => ?_⟩
    rcases List.eq_nil_or_concat rest with rfl | ⟨rest', last, rfl⟩
    · obtain ⟨rfl, same⟩ := List.append_inj' split rfl
      obtain rfl := List.cons.inj same |>.1
      exact ih.1
    · have init := List.append_inj_left' (split.trans (by simp : _ =
        (first ++ e :: rest') ++ [last])) rfl
      exact ih.2 first e rest' init

/-- What every access of a run keeps, the run keeps from any point on. -/
theorem Runs.keeps {start : Nat → Op → Proc σ ι ℓ ε ρ} (run : Runs start s₀ trace c)
    (kept : σ → Prop) (step : ∀ e ∈ trace, kept e.2.before → kept e.2.after)
    {first rest : List (Nat × Event σ ι ℓ)} (split : trace = first ++ rest)
    (here : kept (stateAfter s₀ first)) : kept c.shared := by
  rw [run.linked.1]
  have linked := run.linked.2
  clear run
  subst split
  induction rest generalizing first with
  | nil => simpa using here
  | cons e rest ih =>
    have whole : first ++ e :: rest = (first ++ [e]) ++ rest := by simp
    rw [whole] at step linked ⊢
    refine ih ?_ step linked
    rw [stateAfter_append]
    exact step e (by simp) (linked first e rest whole.symm ▸ here)

/-- What the accesses of a stretch of a run keep still holds at the next one. -/
theorem Runs.keeps_until {start : Nat → Op → Proc σ ι ℓ ε ρ} (run : Runs start s₀ trace c)
    (kept : σ → Prop) (first since : List (Nat × Event σ ι ℓ)) {rest : List (Nat × Event σ ι ℓ)}
    {e : Nat × Event σ ι ℓ} (split : trace = first ++ since ++ e :: rest)
    (step : ∀ e' ∈ since, kept e'.2.before → kept e'.2.after) (here : kept (stateAfter s₀ first)) :
    kept e.2.before := by
  have linked := run.linked.2
  clear run
  induction since using List.reverseRecOn generalizing e rest with
  | nil => simpa [linked _ e rest split] using here
  | append_singleton since last ih =>
    rw [linked _ e rest split, ← List.append_assoc, stateAfter_append]
    have split' : trace = first ++ since ++ last :: e :: rest := by simp [split]
    exact step last (by simp) (ih split' fun e' member => step e' (by simp [member]))

/-- What holds before an access and did not at the start was brought about by one access, and
has held since. -/
theorem Runs.became {start : Nat → Op → Proc σ ι ℓ ε ρ} (run : Runs start s₀ trace c)
    (holds : σ → Prop) (absent : ¬ holds s₀) {past rest : List (Nat × Event σ ι ℓ)}
    {e : Nat × Event σ ι ℓ} (split : trace = past ++ e :: rest) (here : holds e.2.before) :
    ∃ first made since, past = first ++ made :: since ∧ ¬ holds made.2.before ∧
      holds made.2.after ∧ ∀ e' ∈ since, holds e'.2.before ∧ holds e'.2.after := by
  have linked := run.linked.2
  clear run
  induction past using List.reverseRecOn generalizing e rest with
  | nil =>
    rw [linked [] e rest split] at here
    exact absurd here absent
  | append_singleton past last ih =>
    have here : holds last.2.after := by
      rw [linked _ e rest split, stateAfter_append] at here
      exact here
    by_cases before : holds last.2.before
    · have split' : trace = past ++ last :: e :: rest := by simp [split]
      obtain ⟨first, made, since, rfl, absent', made', held⟩ := ih split' before
      refine ⟨first, made, since ++ [last], by simp, absent', made', fun e' member => ?_⟩
      rcases List.mem_append.mp member with old | new
      · exact held e' old
      · obtain rfl := List.mem_singleton.mp new
        exact ⟨before, here⟩
    · exact ⟨past, last, [], rfl, before, here, by simp⟩

inductive Choice (Op ι : Type) where
  | start (op : Op)
  | run (tid : Nat) (answer : ι)

/-- The one step a choice makes, when it can be made. -/
def move (start : Nat → Op → Proc σ ι ℓ ε ρ) :
    Choice Op ι → List (Nat × Event σ ι ℓ) × Config σ ι ℓ ε ρ →
      Option (List (Nat × Event σ ι ℓ) × Config σ ι ℓ ε ρ)
  | .start op, (trace, c) => some (trace, ⟨c.shared, c.pool ++ [start c.pool.length op]⟩)
  | .run tid i, (trace, c) =>
    match c.pool[tid]? with
    | some (.step label effect next) =>
      match effect i c.shared with
      | some s' => some (trace ++ [(tid, ⟨label, i, c.shared, s'⟩)],
          ⟨s', c.pool.set tid (next i c.shared)⟩)
      | none => none
    | _ => none

def play (start : Nat → Op → Proc σ ι ℓ ε ρ) :
    List (Choice Op ι) → List (Nat × Event σ ι ℓ) × Config σ ι ℓ ε ρ →
      Option (List (Nat × Event σ ι ℓ) × Config σ ι ℓ ε ρ)
  | [], r => some r
  | choice :: rest, r => (move start choice r).bind (play start rest)

theorem move_runs {start : Nat → Op → Proc σ ι ℓ ε ρ} {choice : Choice Op ι}
    (run : Runs start s₀ r.1 r.2) (moved : move start choice r = some r') :
    Runs start s₀ r'.1 r'.2 := by
  cases choice with
  | start op =>
    obtain rfl := Option.some.inj moved
    exact run.start op
  | run tid i =>
    simp only [move] at moved
    split at moved
    · rename_i label effect next found
      split at moved
      · rename_i s' ran
        obtain rfl := Option.some.inj moved
        exact run.access found ran
      · contradiction
    · contradiction

theorem play_runs {start : Nat → Op → Proc σ ι ℓ ε ρ} {choices : List (Choice Op ι)}
    (run : Runs start s₀ r.1 r.2) (played : play start choices r = some r') :
    Runs start s₀ r'.1 r'.2 := by
  induction choices generalizing r with
  | nil => obtain rfl := Option.some.inj played; exact run
  | cons choice rest ih =>
    obtain ⟨next, moved, rest⟩ := Option.bind_eq_some_iff.mp played
    exact ih (move_runs run moved) rest

/-- A schedule that can be played and ends as `check` says is a run that does. -/
theorem exists_run (start : Nat → Op → Proc σ ι ℓ ε ρ) (s₀ : σ) (choices : List (Choice Op ι))
    (check : List (Nat × Event σ ι ℓ) → Config σ ι ℓ ε ρ → Bool)
    (checked : (play start choices ([], ⟨s₀, []⟩)).any (fun r => check r.1 r.2) = true) :
    ∃ trace c, Runs start s₀ trace c ∧ check trace c = true := by
  cases played : play start choices ([], ⟨s₀, []⟩) with
  | none => simp [played] at checked
  | some r => exact ⟨r.1, r.2, play_runs .nil played, by simpa [played] using checked⟩

/-- One contract for each procedure of a pool. `fresh` says that auxiliary state does
not mention a procedure that has not started. -/
structure Discipline (σ ι ℓ : Type) where
  inv : σ → Prop
  allowed : ℓ → ι → σ → Prop
  fresh : Nat → σ → Prop
  rely : Nat → σ → σ → Prop
  guar : Nat → ℓ → ι → σ → σ → Prop

def Discipline.contract (d : Discipline σ ι ℓ) (tid : Nat) : Contract σ ι ℓ :=
  ⟨d.inv, d.allowed, d.rely tid, d.guar tid⟩

/-- What one procedure guarantees, every other one can rely on. -/
structure Discipline.Sound (d : Discipline σ ι ℓ) : Prop where
  refl : ∀ tid s, d.rely tid s s
  trans : ∀ tid r s t, d.rely tid r s → d.rely tid s t → d.rely tid r t
  compatible : ∀ i j label a s t, i ≠ j → d.inv s → d.guar i label a s t → d.rely j s t
  fresh : ∀ tid s t, d.rely tid s t → d.fresh tid s → d.fresh tid t

theorem Discipline.Sound.stable {d : Discipline σ ι ℓ} (sound : d.Sound) (tid : Nat) :
    (d.contract tid).Stable := ⟨sound.refl tid, sound.trans tid⟩

/-- Two disciplines at once. -/
def Discipline.both (d e : Discipline σ ι ℓ) : Discipline σ ι ℓ where
  inv s := d.inv s ∧ e.inv s
  allowed label i s := d.allowed label i s ∧ e.allowed label i s
  fresh tid s := d.fresh tid s ∧ e.fresh tid s
  rely tid s t := d.rely tid s t ∧ e.rely tid s t
  guar tid label i s t := d.guar tid label i s t ∧ e.guar tid label i s t

def Discipline.relying (d : Discipline σ ι ℓ) (grown : σ → σ → Prop) : Discipline σ ι ℓ :=
  { d with rely := fun tid s t => d.rely tid s t ∧ grown s t }

theorem Discipline.Sound.both {d e : Discipline σ ι ℓ} (first : d.Sound) (second : e.Sound) :
    (d.both e).Sound where
  refl tid s := ⟨first.refl tid s, second.refl tid s⟩
  trans tid r s t before after :=
    ⟨first.trans tid r s t before.1 after.1, second.trans tid r s t before.2 after.2⟩
  compatible i j label a s t different inv guar :=
    ⟨first.compatible i j label a s t different inv.1 guar.1,
      second.compatible i j label a s t different inv.2 guar.2⟩
  fresh tid s t moved unused :=
    ⟨first.fresh tid s t moved.1 unused.1, second.fresh tid s t moved.2 unused.2⟩

theorem Discipline.Sound.relying {d : Discipline σ ι ℓ} {grown : σ → σ → Prop} (sound : d.Sound)
    (refl : ∀ s, grown s s) (trans : ∀ r s t, grown r s → grown s t → grown r t)
    (made : ∀ tid label i s t, d.guar tid label i s t → grown s t) : (d.relying grown).Sound where
  refl tid s := ⟨sound.refl tid s, refl s⟩
  trans tid r s t before after :=
    ⟨sound.trans tid r s t before.1 after.1, trans r s t before.2 after.2⟩
  compatible i j label a s t different inv guar :=
    ⟨sound.compatible i j label a s t different inv guar, made i label a s t guar⟩
  fresh tid s t moved unused := sound.fresh tid s t moved.1 unused

theorem Proc.Meets.relying {d : Discipline σ ι ℓ} {grown : σ → σ → Prop} {tid : Nat}
    {p : Proc σ ι ℓ ε α} {post : α → σ → Prop} {err : ε → σ → Prop} {s : σ}
    (meets : p.Meets (d.contract tid) post err s) :
    p.Meets ((d.relying grown).contract tid) post err s := by
  induction p generalizing s with
  | pure a => exact meets
  | throw e => exact meets
  | step label effect next ih =>
    intro t moved inv i t' allowed ran
    obtain ⟨inv', guar, rest⟩ := meets t moved.1 inv i t' allowed ran
    exact ⟨inv', guar, ih i t rest⟩

/-- What a discipline says about a run that reached `c` by the accesses of `trace`. -/
structure Discipline.Holds (d : Discipline σ ι ℓ) (post : Nat → ρ → σ → Prop)
    (err : Nat → ε → σ → Prop) (trace : List (Nat × Event σ ι ℓ))
    (c : Config σ ι ℓ ε ρ) : Prop where
  inv : d.inv c.shared
  fresh : ∀ tid, c.pool.length ≤ tid → d.fresh tid c.shared
  pool : ∀ tid (p : Proc σ ι ℓ ε ρ), c.pool[tid]? = some p →
    p.Meets (d.contract tid) (post tid) (err tid) c.shared
  events : ∀ e ∈ trace, d.inv e.2.before ∧ d.inv e.2.after ∧
    d.guar e.1 e.2.label e.2.answer e.2.before e.2.after

/-- The interleaving rule: procedures that meet their contracts when they start alone
meet them together, in every run whose accesses are allowed. -/
theorem Runs.holds {start : Nat → Op → Proc σ ι ℓ ε ρ} {d : Discipline σ ι ℓ}
    (sound : d.Sound) {post : Nat → ρ → σ → Prop} {err : Nat → ε → σ → Prop}
    (posts : ∀ tid r s t, d.rely tid s t → post tid r s → post tid r t)
    (errs : ∀ tid e s t, d.rely tid s t → err tid e s → err tid e t)
    (initial : d.inv s₀) (unused : ∀ tid, d.fresh tid s₀)
    (starts : ∀ tid op s, d.inv s → d.fresh tid s →
      (start tid op).Meets (d.contract tid) (post tid) (err tid) s)
    (run : Runs start s₀ trace c)
    (allowed : ∀ e ∈ trace, d.allowed e.2.label e.2.answer e.2.before) :
    d.Holds post err trace c := by
  induction run with
  | nil => exact ⟨initial, fun tid _ => unused tid, by simp, by simp⟩
  | @start trace c op run ih =>
    have held := ih allowed
    refine ⟨held.inv, fun tid beyond => ?_, fun tid p found => ?_, held.events⟩
    · simp only [List.length_append, List.length_singleton] at beyond
      exact held.fresh tid (by omega)
    · by_cases old : tid < c.pool.length
      · rw [List.getElem?_append_left old] at found
        exact held.pool tid p found
      · have new : tid = c.pool.length := by
          have := (List.getElem?_eq_some_iff.mp found).1
          simp only [List.length_append, List.length_singleton] at this
          omega
        subst new
        obtain rfl : start c.pool.length op = p := by simpa using found
        exact starts _ op _ held.inv (held.fresh _ (Nat.le_refl _))
  | @access trace c tid label effect next i s' run found ran ih =>
    have held := ih fun e member => allowed e (by simp [member])
    have here : d.allowed label i c.shared := allowed (tid, ⟨label, i, c.shared, s'⟩) (by simp)
    obtain ⟨inv, guar, rest⟩ :=
      held.pool tid _ found c.shared (sound.refl tid _) held.inv i s' here ran
    have bound : tid < c.pool.length := (List.getElem?_eq_some_iff.mp found).1
    refine ⟨inv, fun other beyond => ?_, fun other p at_ => ?_, fun e member => ?_⟩
    · simp only [List.length_set] at beyond
      exact sound.fresh other _ _ (sound.compatible tid other label i _ _ (by omega) held.inv guar)
        (held.fresh other beyond)
    · by_cases same : tid = other
      · subst other
        obtain rfl : next i c.shared = p := by simpa [List.getElem?_set, bound] using at_
        exact rest
      · rw [List.getElem?_set_ne same] at at_
        exact (held.pool other p at_).interfere (sound.stable other) (posts other) (errs other)
          (sound.compatible tid other label i _ _ same held.inv guar)
    · rcases List.mem_append.mp member with old | new
      · exact held.events e old
      · obtain rfl := List.mem_singleton.mp new
        exact ⟨held.inv, inv, guar⟩

/-- What the other procedures leave alone: the keys that `tid` holds, what can be seen at
them, and whether it holds them. -/
structure Owned (holder : σ → κ → Option Nat) (view : σ → κ → β) (tid : Nat) (s t : σ) :
    Prop where
  kept : ∀ k, holder s k = some tid → holder t k = some tid ∧ view t k = view s k
  unheld : ∀ k, holder s k ≠ some tid → holder t k ≠ some tid

namespace Owned
variable {holder : σ → κ → Option Nat} {view : σ → κ → β} {tid : Nat} {r s t : σ}

theorem refl (tid : Nat) (s : σ) : Owned holder view tid s s :=
  ⟨fun _ held => ⟨held, rfl⟩, fun _ unheld => unheld⟩

theorem trans (first : Owned holder view tid r s) (second : Owned holder view tid s t) :
    Owned holder view tid r t where
  kept k held := by
    obtain ⟨held', same⟩ := first.kept k held
    obtain ⟨held'', same'⟩ := second.kept k held'
    exact ⟨held'', same'.trans same⟩
  unheld k unheld := second.unheld k (first.unheld k unheld)

/-- An access that changes no holder, and nothing that others hold. -/
theorem of_view (holders : holder t = holder s)
    (seen : ∀ k, holder s k = some tid → view t k = view s k) : Owned holder view tid s t :=
  ⟨fun k held => ⟨holders ▸ held, seen k held⟩, fun _ unheld => holders ▸ unheld⟩

/-- An access at one key that `tid` holds neither before nor after it. -/
theorem of_key (key : κ) (elsewhere : ∀ k, k ≠ key → holder t k = holder s k ∧ view t k = view s k)
    (before : holder s key ≠ some tid) (after : holder t key ≠ some tid) :
    Owned holder view tid s t where
  kept k held := by
    have different : k ≠ key := fun same => before (same ▸ held)
    obtain ⟨same, seen⟩ := elsewhere k different
    exact ⟨same.trans held, seen⟩
  unheld k unheld := by
    by_cases same : k = key
    · exact same ▸ after
    · exact (elsewhere k same).1 ▸ unheld

end Owned

/-- One procedure to its end, while others move the state before each of its accesses and
after the last. -/
inductive Proc.Amid {σ ι ℓ ε α : Type} (others : σ → σ → Prop) :
    Proc σ ι ℓ ε α → σ → List (Event σ ι ℓ) → Except ε α → σ → Prop where
  | pure {a : α} : others s t → Amid others (.pure a) s [] (.ok a) t
  | throw {e : ε} : others s t → Amid others (.throw e) s [] (.error e) t
  | access {label : ℓ} {effect : ι → σ → Option σ} {next : ι → σ → Proc σ ι ℓ ε α} {i : ι} :
      others s u → effect i u = some v → Amid others (next i u) v trace result t →
      Amid others (.step label effect next) s (⟨label, i, u, v⟩ :: trace) result t

/-- A contract holds amid whatever it relies on. -/
theorem Proc.Meets.amid {p : Proc σ ι ℓ ε α} {c : Contract σ ι ℓ} {post : α → σ → Prop}
    {err : ε → σ → Prop} {trace : List (Event σ ι ℓ)} {result : Except ε α} {s t : σ}
    (keeps : ∀ s t, c.rely s t → c.inv s → c.inv t)
    (posts : ∀ a s t, c.rely s t → post a s → post a t)
    (errs : ∀ e s t, c.rely s t → err e s → err e t) (meets : p.Meets c post err s)
    (inv : c.inv s) (ran : p.Amid c.rely s trace result t)
    (allowed : ∀ e ∈ trace, c.allowed e.label e.answer e.before) :
    c.inv t ∧ outcome post err (result, t) := by
  induction ran with
  | pure moved => exact ⟨keeps _ _ moved inv, posts _ _ _ moved meets⟩
  | throw moved => exact ⟨keeps _ _ moved inv, errs _ _ _ moved meets⟩
  | access moved made after ih =>
    obtain ⟨inv', _, rest⟩ := meets _ moved (keeps _ _ moved inv) _ _
      (allowed _ (List.mem_cons_self ..)) made
    exact ih rest inv' fun e member => allowed e (List.mem_cons_of_mem _ member)

/-- With the move before each access, and its answer. -/
def Proc.playAmid : Proc σ ι ℓ ε α → List ((σ → σ) × ι) → σ →
    Option (List (Event σ ι ℓ) × Except ε α × σ)
  | .pure a, _, s => some ([], .ok a, s)
  | .throw e, _, s => some ([], .error e, s)
  | .step _ _ _, [], _ => none
  | .step label effect next, (g, i) :: rest, s =>
    (effect i (g s)).bind fun v => ((next i (g s)).playAmid rest v).map fun r =>
      (⟨label, i, g s, v⟩ :: r.1, r.2)

theorem Proc.playAmid_amid {others : σ → σ → Prop} (refl : ∀ s, others s s)
    {p : Proc σ ι ℓ ε α} {moves : List ((σ → σ) × ι)} {s : σ}
    {r : List (Event σ ι ℓ) × Except ε α × σ} (own : ∀ m ∈ moves, ∀ s, others s (m.1 s))
    (played : p.playAmid moves s = some r) : p.Amid others s r.1 r.2.1 r.2.2 := by
  induction p generalizing moves s r with
  | pure a =>
    obtain rfl := Option.some.inj played
    exact .pure (refl s)
  | throw e =>
    obtain rfl := Option.some.inj played
    exact .throw (refl s)
  | step label effect next ih =>
    cases moves with
    | nil => cases played
    | cons move rest =>
      obtain ⟨v, made, after⟩ := Option.bind_eq_some_iff.mp played
      obtain ⟨r', tail, rfl⟩ := Option.map_eq_some_iff.mp after
      exact .access (own move (List.mem_cons_self ..) s) made
        (ih move.2 (move.1 s) (fun m member => own m (List.mem_cons_of_mem _ member)) tail)

structure Finished (σ ι ℓ ε α : Type) where
  result : Except ε α
  state : σ
  trace : List (Event σ ι ℓ)

/-- The procedure alone, from its first access to its return or throw, with the
answers it is given in order. -/
def Proc.exec : Proc σ ι ℓ ε α → List ι → σ → Option (Finished σ ι ℓ ε α)
  | .pure a, _, s => some ⟨.ok a, s, []⟩
  | .throw e, _, s => some ⟨.error e, s, []⟩
  | .step _ _ _, [], _ => none
  | .step label effect next, i :: rest, s =>
    match effect i s with
    | none => none
    | some s' => ((next i s).exec rest s').map fun f =>
        ⟨f.result, f.state, ⟨label, i, s, s'⟩ :: f.trace⟩

def Finished.after (event : Event σ ι ℓ) (f : Finished σ ι ℓ ε α) : Finished σ ι ℓ ε α :=
  ⟨f.result, f.state, event :: f.trace⟩

theorem Proc.bind_pure (p : Proc σ ι ℓ ε α) : p.bind .pure = p := by
  induction p with
  | pure a => rfl
  | throw e => rfl
  | step label effect next ih => simp only [Proc.bind, ih]

/-- A procedure that is not over makes one access and goes on. -/
theorem Proc.exec_step {label : ℓ} {effect : ι → σ → Option σ} {next : ι → σ → Proc σ ι ℓ ε α}
    {answers : List ι} {s : σ} {f : Finished σ ι ℓ ε α}
    (done : (Proc.step label effect next).exec answers s = some f) :
    ∃ i rest t tail, answers = i :: rest ∧ effect i s = some t ∧
      (next i s).exec rest t = some tail ∧ f = tail.after ⟨label, i, s, t⟩ := by
  cases answers with
  | nil => cases done
  | cons i rest =>
    simp only [Proc.exec] at done
    split at done
    · cases done
    · rename_i t made
      obtain ⟨tail, ran, rfl⟩ := Option.map_eq_some_iff.mp done
      exact ⟨i, rest, t, tail, rfl, made, ran, rfl⟩

/-- The first access of a procedure returns and the rest follows, or it throws. -/
theorem Proc.exec_access_bind {label : ℓ} {enabled : σ → Bool} {f : ι → σ → Except ε α × σ}
    {next : α → Proc σ ι ℓ ε β} {answers : List ι} {s : σ} {r : Finished σ ι ℓ ε β}
    (done : ((Proc.access label enabled f).bind next).exec answers s = some r) :
    ∃ i rest, answers = i :: rest ∧
      ((∃ a tail, (f i s).1 = .ok a ∧ (next a).exec rest (f i s).2 = some tail ∧
        r = tail.after ⟨label, i, s, (f i s).2⟩) ∨
      ∃ e, (f i s).1 = .error e ∧ r = ⟨.error e, (f i s).2, [⟨label, i, s, (f i s).2⟩]⟩) := by
  obtain ⟨i, rest, t, tail, rfl, made, ran, rfl⟩ := Proc.exec_step done
  obtain ⟨-, rfl⟩ : enabled s = true ∧ (f i s).2 = t := by simpa using made
  refine ⟨i, rest, rfl, ?_⟩
  dsimp only at ran
  cases ended : (f i s).1 with
  | ok a =>
    rw [ended] at ran
    exact .inl ⟨a, tail, rfl, ran, rfl⟩
  | error e =>
    rw [ended] at ran
    obtain rfl := Option.some.inj ran
    exact .inr ⟨e, rfl, rfl⟩

/-- Under a `catch`, the handler follows the access that throws. -/
theorem Proc.exec_catching_bind {label : ℓ} {enabled : σ → Bool} {f : ι → σ → Except ε α × σ}
    {next : α → Proc σ ι ℓ ε β} {handler : ε → Proc σ ι ℓ ε β} {after : β → Proc σ ι ℓ ε γ}
    {answers : List ι} {s : σ} {r : Finished σ ι ℓ ε γ}
    (done : ((((Proc.access label enabled f).bind next).catching handler).bind after).exec answers s =
      some r) :
    ∃ i rest, answers = i :: rest ∧
      ((∃ a tail, (f i s).1 = .ok a ∧
        (((next a).catching handler).bind after).exec rest (f i s).2 = some tail ∧
        r = tail.after ⟨label, i, s, (f i s).2⟩) ∨
      ∃ e tail, (f i s).1 = .error e ∧ ((handler e).bind after).exec rest (f i s).2 = some tail ∧
        r = tail.after ⟨label, i, s, (f i s).2⟩) := by
  obtain ⟨i, rest, t, tail, rfl, made, ran, rfl⟩ := Proc.exec_step done
  obtain ⟨-, rfl⟩ : enabled s = true ∧ (f i s).2 = t := by simpa using made
  refine ⟨i, rest, rfl, ?_⟩
  dsimp only at ran
  cases ended : (f i s).1 with
  | ok a =>
    rw [ended] at ran
    exact .inl ⟨a, tail, rfl, ran, rfl⟩
  | error e =>
    rw [ended] at ran
    exact .inr ⟨e, tail, rfl, ran, rfl⟩

/-- The same when nothing follows the `catch`. -/
theorem Proc.exec_access_catching {label : ℓ} {enabled : σ → Bool} {f : ι → σ → Except ε α × σ}
    {next : α → Proc σ ι ℓ ε β} {handler : ε → Proc σ ι ℓ ε β} {answers : List ι} {s : σ}
    {r : Finished σ ι ℓ ε β}
    (done : (((Proc.access label enabled f).bind next).catching handler).exec answers s = some r) :
    ∃ i rest, answers = i :: rest ∧
      ((∃ a tail, (f i s).1 = .ok a ∧ ((next a).catching handler).exec rest (f i s).2 = some tail ∧
        r = tail.after ⟨label, i, s, (f i s).2⟩) ∨
      ∃ e tail, (f i s).1 = .error e ∧ (handler e).exec rest (f i s).2 = some tail ∧
        r = tail.after ⟨label, i, s, (f i s).2⟩) := by
  rw [← Proc.bind_pure (Proc.catching _ _)] at done
  simpa only [Proc.bind_pure] using Proc.exec_catching_bind done

def Finished.Ends (post : α → σ → Prop) (err : ε → σ → Prop) (f : Finished σ ι ℓ ε α) : Prop :=
  match f.result with
  | .ok a => post a f.state
  | .error e => err e f.state

theorem Proc.Meets.exec {p : Proc σ ι ℓ ε α} {c : Contract σ ι ℓ} {post : α → σ → Prop}
    {err : ε → σ → Prop} (refl : ∀ s, c.rely s s) (meets : p.Meets c post err s)
    (inv : c.inv s) (done : p.exec answers s = some f)
    (allowed : ∀ e ∈ f.trace, c.allowed e.label e.answer e.before) :
    c.inv f.state ∧ (∀ e ∈ f.trace, c.inv e.before ∧ c.guar e.label e.answer e.before e.after) ∧
      f.Ends post err := by
  induction p generalizing s answers f with
  | pure a =>
    obtain rfl := Option.some.inj done
    exact ⟨inv, by simp, meets⟩
  | throw e =>
    obtain rfl := Option.some.inj done
    exact ⟨inv, by simp, meets⟩
  | step label effect next ih =>
    obtain ⟨i, rest, t, tail, rfl, made, ran, rfl⟩ := Proc.exec_step done
    obtain ⟨inv', guar, next⟩ := meets s (refl s) inv i t (allowed _ (List.mem_cons_self ..)) made
    obtain ⟨last, events, ends⟩ :=
      ih i s next inv' ran fun e member => allowed e (List.mem_cons_of_mem _ member)
    exact ⟨last, List.forall_mem_cons.mpr ⟨⟨inv, guar⟩, events⟩, ends⟩

def Proc.Unblocked (kept : σ → Prop) : Proc σ ι ℓ ε α → Prop
  | .pure _ => True
  | .throw _ => True
  | .step _ effect next => ∀ i s, kept s →
      ∃ s', effect i s = some s' ∧ kept s' ∧ (next i s).Unblocked kept

theorem Proc.unblocked_access_bind {kept : σ → Prop} {label : ℓ} {enabled : σ → Bool}
    {f : ι → σ → Except ε α × σ} {next : α → Proc σ ι ℓ ε β}
    (ready : ∀ s, kept s → enabled s = true) (keeps : ∀ i s, kept s → kept (f i s).2)
    (rest : ∀ i s a, kept s → (f i s).1 = .ok a → (next a).Unblocked kept) :
    ((Proc.access label enabled f).bind next).Unblocked kept := by
  intro i s here
  refine ⟨(f i s).2, by simp [ready s here], keeps i s here, ?_⟩
  dsimp only
  cases ended : (f i s).1 with
  | error e => trivial
  | ok a => exact rest i s a here ended

theorem Proc.Unblocked.bind {kept : σ → Prop} {p : Proc σ ι ℓ ε α} {f : α → Proc σ ι ℓ ε β}
    (first : p.Unblocked kept) (rest : ∀ a, (f a).Unblocked kept) :
    (p.bind f).Unblocked kept := by
  induction p with
  | pure a => exact rest a
  | throw e => trivial
  | step label effect next ih =>
    intro i s here
    obtain ⟨s', ran, kept', after⟩ := first i s here
    exact ⟨s', ran, kept', ih i s after⟩

theorem Proc.Unblocked.catching {kept : σ → Prop} {p : Proc σ ι ℓ ε α}
    {handler : ε → Proc σ ι ℓ ε α} (body : p.Unblocked kept)
    (caught : ∀ e, (handler e).Unblocked kept) : (p.catching handler).Unblocked kept := by
  induction p with
  | pure a => trivial
  | throw e => exact caught e
  | step label effect next ih =>
    intro i s here
    obtain ⟨s', ran, kept', after⟩ := body i s here
    exact ⟨s', ran, kept', ih i s after⟩

theorem Proc.unblocked_each {kept : σ → Prop} {rows : List β} {body : β → Proc σ ι ℓ ε Unit}
    (turn : ∀ b ∈ rows, (body b).Unblocked kept) : (each rows body).Unblocked kept := by
  induction rows with
  | nil => trivial
  | cons b rest ih =>
    exact (turn b (List.mem_cons_self ..)).bind fun _ =>
      ih fun b member => turn b (List.mem_cons_of_mem _ member)

theorem Proc.Looks.unblocked {labels : ℓ → Prop} {p : Proc σ ι ℓ ε α} (looks : p.Looks labels)
    (kept : σ → Prop) : p.Unblocked kept := by
  induction p with
  | pure a => trivial
  | throw e => trivial
  | step label effect next ih =>
    exact fun i s here => ⟨s, (looks.2 i s).1, here, ih i s (looks.2 i s).2⟩

/-- A procedure that is never blocked ends, whatever it is answered. -/
theorem Proc.Unblocked.ends {kept : σ → Prop} {p : Proc σ ι ℓ ε α} {s : σ}
    (unblocked : p.Unblocked kept) (here : kept s) (answers : Nat → ι) :
    ∃ n f, p.exec ((List.range n).map answers) s = some f := by
  induction p generalizing s answers with
  | pure a => exact ⟨0, _, rfl⟩
  | throw e => exact ⟨0, _, rfl⟩
  | step label effect next ih =>
    obtain ⟨s', ran, here', rest⟩ := unblocked (answers 0) s here
    obtain ⟨n, f, done⟩ := ih (answers 0) s rest here' fun k => answers (k + 1)
    refine ⟨n + 1, f.after ⟨label, answers 0, s, s'⟩, ?_⟩
    have shifted : (List.range (n + 1)).map answers =
        answers 0 :: (List.range n).map fun k => answers (k + 1) := by
      simp [List.range_succ_eq_map, Function.comp_def]
    rw [shifted]
    simp only [Proc.exec, ran, done]
    rfl

/-- The first answer of a list that starts a sequence of answers. -/
theorem cons_of_range_map {answers : Nat → ι} {n : Nat} {i : ι} {rest : List ι}
    (split : (List.range n).map answers = i :: rest) :
    i = answers 0 ∧ ∃ m, rest = (List.range m).map fun k => answers (k + 1) := by
  cases n with
  | zero => cases split
  | succ m =>
    simp only [List.range_succ_eq_map, List.map_cons, List.map_map, List.cons.injEq] at split
    exact ⟨split.1.symm, m, split.2.symm⟩

/-- A procedure that only looks ends in the state it started in. -/
theorem Proc.Looks.exec {labels : ℓ → Prop} {p : Proc σ ι ℓ ε α} (looks : p.Looks labels)
    (done : p.exec answers s = some f) : f.state = s := by
  induction p generalizing answers s f with
  | pure a =>
    obtain rfl := Option.some.inj done
    rfl
  | throw e =>
    obtain rfl := Option.some.inj done
    rfl
  | step label effect next ih =>
    obtain ⟨i, rest, t, tail, rfl, made, ran, rfl⟩ := Proc.exec_step done
    obtain ⟨same, looks'⟩ := looks.2 i s
    obtain rfl := Option.some.inj (same.symm.trans made)
    have same : tail.state = s := ih i s looks' ran
    exact same

/-- A procedure that leaves a part of the state alone ends with it unchanged. -/
theorem Proc.Leaves.exec {view : σ → β} {p : Proc σ ι ℓ ε α} (leaves : p.Leaves view)
    (done : p.exec answers s = some f) : view f.state = view s := by
  induction p generalizing answers s f with
  | pure a =>
    obtain rfl := Option.some.inj done
    rfl
  | throw e =>
    obtain rfl := Option.some.inj done
    rfl
  | step label effect next ih =>
    obtain ⟨i, rest, t, tail, rfl, made, ran, rfl⟩ := Proc.exec_step done
    obtain ⟨same, leaves'⟩ := leaves i s
    have kept : view tail.state = view t := ih i s leaves' ran
    exact kept.trans (same t made)

/-- Runs in which each procedure ends before the next one starts. -/
inductive SerialRuns (start : Op → Proc σ ι ℓ ε ρ) (s₀ : σ) :
    List (Event σ ι ℓ) → σ → Prop where
  | nil : SerialRuns start s₀ [] s₀
  | op (op : Op) : SerialRuns start s₀ trace s → (start op).exec answers s = some f →
      SerialRuns start s₀ (trace ++ f.trace) f.state

/-- The calls of a list, one after the other, each with its answers. -/
def playSerial (start : Op → Proc σ ι ℓ ε ρ) :
    List (Op × List ι) → List (Event σ ι ℓ) × σ → Option (List (Event σ ι ℓ) × σ)
  | [], r => some r
  | (op, answers) :: rest, (trace, s) =>
    ((start op).exec answers s).bind fun f => playSerial start rest (trace ++ f.trace, f.state)

theorem playSerial_runs {start : Op → Proc σ ι ℓ ε ρ} {calls : List (Op × List ι)}
    (run : SerialRuns start s₀ r.1 r.2) (played : playSerial start calls r = some r') :
    SerialRuns start s₀ r'.1 r'.2 := by
  induction calls generalizing r with
  | nil =>
    obtain rfl := Option.some.inj played
    exact run
  | cons call rest ih =>
    obtain ⟨f, done, rest⟩ := Option.bind_eq_some_iff.mp played
    exact ih (run.op call.1 done) rest

theorem exists_serialRun (start : Op → Proc σ ι ℓ ε ρ) (s₀ : σ) (calls : List (Op × List ι))
    (check : List (Event σ ι ℓ) → σ → Bool)
    (checked : (playSerial start calls ([], s₀)).any (fun r => check r.1 r.2) = true) :
    ∃ trace s, SerialRuns start s₀ trace s ∧ check trace s = true := by
  obtain ⟨r, played, ends⟩ := (Option.any_eq_true _ _).mp checked
  exact ⟨r.1, r.2, playSerial_runs .nil played, ends⟩

/-- The serial rule needs no rely: nothing moves between two accesses. -/
theorem SerialRuns.holds {start : Op → Proc σ ι ℓ ε ρ} {c : Contract σ ι ℓ}
    (refl : ∀ s, c.rely s s) (initial : c.inv s₀)
    (starts : ∀ op s, c.inv s → (start op).Meets c (fun _ _ => True) (fun _ _ => True) s)
    (run : SerialRuns start s₀ trace s)
    (allowed : ∀ e ∈ trace, c.allowed e.label e.answer e.before) :
    c.inv s ∧ ∀ e ∈ trace, c.inv e.before ∧ c.guar e.label e.answer e.before e.after := by
  induction run with
  | nil => exact ⟨initial, by simp⟩
  | op op run done ih =>
    obtain ⟨inv, events⟩ := ih fun e member => allowed e (by simp [member])
    obtain ⟨last, later, _⟩ := (starts op _ inv).exec refl inv done
      fun e member => allowed e (by simp [member])
    refine ⟨last, fun e member => ?_⟩
    rcases List.mem_append.mp member with old | new
    · exact events e old
    · exact later e new

end Bitmonie
