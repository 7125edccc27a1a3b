import Bitmonie.Interleaving

/-! A procedure on its own: with every access answered the same, stopped after any of its
accesses, and its total contract, which says that it ends as well. -/
namespace Bitmonie

def Proc.atOnce (i : ι) : Proc σ ι ℓ ε α → σ → Option (Except ε α × σ)
  | .pure a, s => some (.ok a, s)
  | .throw e, s => some (.error e, s)
  | .step _ effect next, s => (effect i s).bind fun s' => (next i s).atOnce i s'

section AtOnce
variable {i : ι} {s : σ}

@[simp] theorem Proc.atOnce_pure (a : α) :
    (Proc.pure a : Proc σ ι ℓ ε α).atOnce i s = some (.ok a, s) := rfl

@[simp] theorem Proc.atOnce_throw (e : ε) :
    (Proc.throw e : Proc σ ι ℓ ε α).atOnce i s = some (.error e, s) := rfl

theorem Proc.atOnce_access {label : ℓ} {enabled : σ → Bool} {f : ι → σ → Except ε α × σ} :
    (Proc.access label enabled f).atOnce i s = if enabled s then some (f i s) else none := by
  cases ready : enabled s with
  | false => simp [Proc.access, Proc.atOnce, ready]
  | true =>
    rcases ended : f i s with ⟨_ | _, s'⟩ <;>
      simp [Proc.access, Proc.atOnce, ready, ended, Proc.ofExcept]

@[simp] theorem Proc.atOnce_bind (p : Proc σ ι ℓ ε α) (f : α → Proc σ ι ℓ ε β) :
    (p.bind f).atOnce i s = (p.atOnce i s).bind fun r =>
      match r.1 with
      | .ok a => (f a).atOnce i r.2
      | .error e => some (.error e, r.2) := by
  induction p generalizing s with
  | pure a => rfl
  | throw e => rfl
  | step label effect next ih =>
    simp only [Proc.bind, Proc.atOnce, ih]
    cases effect i s <;> rfl

@[simp] theorem Proc.atOnce_catching (p : Proc σ ι ℓ ε α) (handler : ε → Proc σ ι ℓ ε α) :
    (p.catching handler).atOnce i s = (p.atOnce i s).bind fun r =>
      match r.1 with
      | .ok a => some (.ok a, r.2)
      | .error e => (handler e).atOnce i r.2 := by
  induction p generalizing s with
  | pure a => rfl
  | throw e => rfl
  | step label effect next ih =>
    simp only [Proc.catching, Proc.atOnce, ih]
    cases effect i s <;> rfl

@[simp] theorem Proc.atOnce_attempt (p : Proc σ ι ℓ ε α) :
    p.attempt.atOnce i s = (p.atOnce i s).map fun r => (.ok r.1, r.2) := by
  rw [Proc.attempt, atOnce_catching, atOnce_bind]
  rcases p.atOnce i s with _ | ⟨_ | _, _⟩ <;> rfl

theorem Proc.atOnce_exec {p : Proc σ ι ℓ ε α} {r : Except ε α × σ}
    (done : p.atOnce i s = some r) :
    ∃ n f, p.exec (List.replicate n i) s = some f ∧ (f.result, f.state) = r := by
  induction p generalizing s with
  | pure a => exact ⟨0, _, rfl, Option.some.inj done⟩
  | throw e => exact ⟨0, _, rfl, Option.some.inj done⟩
  | step label effect next ih =>
    obtain ⟨s', ran, rest⟩ := Option.bind_eq_some_iff.mp done
    obtain ⟨n, f, finished, same⟩ := ih i s rest
    refine ⟨n + 1, f.after ⟨label, i, s, s'⟩, ?_, same⟩
    simp only [List.replicate_succ, Proc.exec, ran, finished]
    rfl

end AtOnce

/-- The first part runs on the answers it takes, the rest on those that are left. -/
theorem Proc.exec_bind {p : Proc σ ι ℓ ε α} {f : α → Proc σ ι ℓ ε β} {answers : List ι} {s : σ}
    {r : Finished σ ι ℓ ε β} (ran : (p.bind f).exec answers s = some r) :
    ∃ first, p.exec answers s = some first ∧
      ((∃ a tail, first.result = .ok a ∧
        (f a).exec (answers.drop first.trace.length) first.state = some tail ∧
        r = ⟨tail.result, tail.state, first.trace ++ tail.trace⟩) ∨
      ∃ e, first.result = .error e ∧ r = ⟨.error e, first.state, first.trace⟩) := by
  induction p generalizing answers s r with
  | pure a => exact ⟨_, rfl, .inl ⟨a, r, rfl, ran, rfl⟩⟩
  | throw e => exact ⟨_, rfl, .inr ⟨e, rfl, (Option.some.inj ran).symm⟩⟩
  | step label effect next ih =>
    obtain ⟨i, rest, t, tail, rfl, made, later, rfl⟩ := Proc.exec_step ran
    obtain ⟨first, started, ends⟩ := ih i s later
    refine ⟨first.after ⟨label, i, s, t⟩, by simp only [Proc.exec, made, started]; rfl, ?_⟩
    rcases ends with ⟨a, last, ok, went, rfl⟩ | ⟨e, threw, rfl⟩
    · exact .inl ⟨a, last, ok, went, rfl⟩
    · exact .inr ⟨e, threw, rfl⟩

/-- What is caught and dropped is not thrown. -/
theorem Proc.exec_catching_pure {p : Proc σ ι ℓ ε α} {a : α} {answers : List ι} {s : σ}
    {r : Finished σ ι ℓ ε α} (ran : (p.catching fun _ => .pure a).exec answers s = some r) :
    ∃ b, r.result = .ok b := by
  induction p generalizing answers s r with
  | pure b => exact ⟨b, (Option.some.inj ran).symm ▸ rfl⟩
  | throw e => exact ⟨a, (Option.some.inj ran).symm ▸ rfl⟩
  | step label effect next ih =>
    obtain ⟨i, rest, t, tail, rfl, made, later, rfl⟩ := Proc.exec_step ran
    obtain ⟨b, returned⟩ := ih i s later
    exact ⟨b, returned⟩

/-- What is left of a trace after the accesses of the procedure. -/
def Proc.beyond : Proc σ ι ℓ ε α → List (Event σ ι ℓ) → List (Event σ ι ℓ)
  | .step _ _ next, e :: rest => (next e.answer e.before).beyond rest
  | .step _ _ _, [] => []
  | .pure _, trace => trace
  | .throw _, trace => trace

theorem Proc.beyond_exec {p : Proc σ ι ℓ ε α} {answers : List ι} {s : σ}
    {r : Finished σ ι ℓ ε α} (ran : p.exec answers s = some r) (rest : List (Event σ ι ℓ)) :
    p.beyond (r.trace ++ rest) = rest := by
  induction p generalizing answers s r with
  | pure a =>
    obtain rfl := Option.some.inj ran
    rfl
  | throw e =>
    obtain rfl := Option.some.inj ran
    rfl
  | step label effect next ih =>
    obtain ⟨i, answers, t, tail, rfl, made, later, rfl⟩ := Proc.exec_step ran
    exact ih i s later

theorem Proc.Looks.labelled {labels : ℓ → Prop} {p : Proc σ ι ℓ ε α} {answers : List ι} {s : σ}
    {r : Finished σ ι ℓ ε α} (looks : p.Looks labels) (ran : p.exec answers s = some r) :
    ∀ e ∈ r.trace, labels e.label := by
  induction p generalizing answers s r with
  | pure a =>
    obtain rfl := Option.some.inj ran
    simp
  | throw e =>
    obtain rfl := Option.some.inj ran
    simp
  | step label effect next ih =>
    obtain ⟨i, rest, t, tail, rfl, made, later, rfl⟩ := Proc.exec_step ran
    exact List.forall_mem_cons.mpr ⟨looks.1, ih i s (looks.2 i s).2 later⟩

/-- The turns of a loop: the rows that had one, each with how it ended. After a turn that
throws there are no more. -/
inductive Proc.Turns {σ ι ℓ ε β : Type} (body : β → Proc σ ι ℓ ε Unit) :
    List β → σ → List (β × Finished σ ι ℓ ε Unit) → σ → Prop where
  | done : Turns body [] s [] s
  | next : (body b).exec answers s = some f → f.result = .ok () → Turns body rest f.state turns t →
      Turns body (b :: rest) s ((b, f) :: turns) t
  | stop : (body b).exec answers s = some f → f.result = .error e →
      Turns body (b :: rest) s [(b, f)] f.state

theorem Proc.turns_of_exec {rows : List β} {body : β → Proc σ ι ℓ ε Unit} {answers : List ι} {s : σ}
    {f : Finished σ ι ℓ ε Unit} (ran : (Proc.each rows body).exec answers s = some f) :
    ∃ turns, Proc.Turns body rows s turns f.state ∧ f.trace = turns.flatMap (·.2.trace) := by
  induction rows generalizing answers s f with
  | nil =>
    obtain rfl := Option.some.inj ran
    exact ⟨[], .done, rfl⟩
  | cons b rest ih =>
    obtain ⟨first, turn, ⟨_, tail, ok, later, rfl⟩ | ⟨e, threw, rfl⟩⟩ := Proc.exec_bind ran
    · obtain ⟨turns, turned, trace⟩ := ih later
      exact ⟨(b, first) :: turns, .next turn ok turned, by simp [trace]⟩
    · exact ⟨[(b, first)], .stop turn threw, by simp⟩

/-- A loop whose turns do not throw returns. -/
theorem Proc.each_returns {rows : List β} {body : β → Proc σ ι ℓ ε Unit} {answers : List ι} {s : σ}
    {f : Finished σ ι ℓ ε Unit} (ran : (Proc.each rows body).exec answers s = some f)
    (turn : ∀ b answers s f, (body b).exec answers s = some f → f.result = .ok ()) :
    f.result = .ok () := by
  induction rows generalizing answers s f with
  | nil =>
    obtain rfl := Option.some.inj ran
    rfl
  | cons b rest ih =>
    obtain ⟨first, started, ⟨_, tail, _, later, rfl⟩ | ⟨e, threw, rfl⟩⟩ := Proc.exec_bind ran
    · have returned : tail.result = .ok () := ih later
      exact returned
    · have returned := turn b _ _ _ started
      rw [threw] at returned
      cases returned

section Turns
variable {body : β → Proc σ ι ℓ ε Unit} {rows : List β} {s t : σ}
  {turns : List (β × Finished σ ι ℓ ε Unit)}

theorem Proc.Turns.ran (turned : Proc.Turns body rows s turns t) :
    ∀ turn ∈ turns, ∃ answers u, (body turn.1).exec answers u = some turn.2 := by
  induction turned with
  | done => simp
  | next ran _ _ ih => exact List.forall_mem_cons.mpr ⟨⟨_, _, ran⟩, ih⟩
  | stop ran _ => exact List.forall_mem_cons.mpr ⟨⟨_, _, ran⟩, by simp⟩

/-- The rows that had their turns come first; where some had none, the last turn threw. -/
theorem Proc.Turns.split (turned : Proc.Turns body rows s turns t) :
    ∃ skipped, rows = turns.map (·.1) ++ skipped ∧
      (skipped = [] ∨ ∃ turn ∈ turns, ∃ e, turn.2.result = .error e) := by
  induction turned with
  | done => exact ⟨[], rfl, .inl rfl⟩
  | next _ _ _ ih =>
    obtain ⟨skipped, same, ends⟩ := ih
    refine ⟨skipped, by simp [same], ends.imp_right ?_⟩
    rintro ⟨turn, member, threw⟩
    exact ⟨turn, List.mem_cons_of_mem _ member, threw⟩
  | stop _ threw => exact ⟨_, rfl, .inr ⟨_, List.mem_singleton.mpr rfl, _, threw⟩⟩

/-- A turn that throws is the last one. -/
theorem Proc.Turns.last (turned : Proc.Turns body rows s turns t) {turn : β × Finished σ ι ℓ ε Unit}
    {e : ε} (member : turn ∈ turns) (threw : turn.2.result = .error e) :
    turns.getLast? = some turn := by
  induction turned with
  | done => cases member
  | next _ ok after ih =>
    rcases List.mem_cons.mp member with rfl | later
    · simp [ok] at threw
    · have last := ih later
      rw [List.getLast?_cons, last]
      rfl
  | stop _ _ => simp [List.mem_singleton.mp member]

end Turns

/-- The accesses of `trace` are the first ones that the procedure makes; `rest` is what it
has left to do. -/
inductive Proc.Reaches {σ ι ℓ ε α : Type} :
    Proc σ ι ℓ ε α → σ → List (Event σ ι ℓ) → Proc σ ι ℓ ε α → σ → Prop where
  | stop : Reaches p s [] p s
  | access {label : ℓ} {effect : ι → σ → Option σ} {next : ι → σ → Proc σ ι ℓ ε α} {i : ι} :
      effect i s = some s' → Reaches (next i s) s' trace rest t →
      Reaches (.step label effect next) s (⟨label, i, s, s'⟩ :: trace) rest t

/-- The accesses with these answers, and the state after them. -/
def Proc.stopped : Proc σ ι ℓ ε α → List ι → σ → Option (List (Event σ ι ℓ) × σ)
  | _, [], s => some ([], s)
  | .step label effect next, i :: rest, s =>
    (effect i s).bind fun s' => ((next i s).stopped rest s').map fun r =>
      (⟨label, i, s, s'⟩ :: r.1, r.2)
  | .pure _, _ :: _, _ => none
  | .throw _, _ :: _, _ => none

theorem Proc.stopped_reaches {p : Proc σ ι ℓ ε α} {answers : List ι} {s : σ}
    {r : List (Event σ ι ℓ) × σ} (made : p.stopped answers s = some r) :
    ∃ rest, p.Reaches s r.1 rest r.2 := by
  induction p generalizing answers s r with
  | pure a =>
    cases answers with
    | nil =>
      obtain rfl := Option.some.inj made
      exact ⟨_, .stop⟩
    | cons i rest => cases made
  | throw e =>
    cases answers with
    | nil =>
      obtain rfl := Option.some.inj made
      exact ⟨_, .stop⟩
    | cons i rest => cases made
  | step label effect next ih =>
    cases answers with
    | nil =>
      obtain rfl := Option.some.inj made
      exact ⟨_, .stop⟩
    | cons i rest =>
      obtain ⟨s', ran, after⟩ := Option.bind_eq_some_iff.mp made
      obtain ⟨r', tail, rfl⟩ := Option.map_eq_some_iff.mp after
      obtain ⟨left, reaches⟩ := ih i s tail
      exact ⟨left, .access ran reaches⟩

/-- A contract holds wherever the procedure is stopped. -/
theorem Proc.Meets.reaches {p rest : Proc σ ι ℓ ε α} {c : Contract σ ι ℓ} {post : α → σ → Prop}
    {err : ε → σ → Prop} {s t : σ} {trace : List (Event σ ι ℓ)} (refl : ∀ s, c.rely s s)
    (meets : p.Meets c post err s) (inv : c.inv s) (reached : p.Reaches s trace rest t)
    (allowed : ∀ e ∈ trace, c.allowed e.label e.answer e.before) : c.inv t := by
  induction reached with
  | stop => exact inv
  | access ran reached ih =>
    obtain ⟨inv', _, after⟩ := meets _ (refl _) inv _ _ (allowed _ (List.mem_cons_self ..)) ran
    exact ih after inv' fun e member => allowed e (List.mem_cons_of_mem _ member)

theorem Proc.Meets.reaches_guar {p rest : Proc σ ι ℓ ε α} {c : Contract σ ι ℓ} {post : α → σ → Prop}
    {err : ε → σ → Prop} {s t : σ} {trace : List (Event σ ι ℓ)} (refl : ∀ s, c.rely s s)
    (meets : p.Meets c post err s) (inv : c.inv s) (reached : p.Reaches s trace rest t)
    (allowed : ∀ e ∈ trace, c.allowed e.label e.answer e.before) :
    ∀ e ∈ trace, c.guar e.label e.answer e.before e.after := by
  induction reached with
  | stop => simp
  | access ran reached ih =>
    obtain ⟨inv', guar, after⟩ := meets _ (refl _) inv _ _ (allowed _ (List.mem_cons_self ..)) ran
    exact List.forall_mem_cons.mpr
      ⟨guar, ih after inv' fun e member => allowed e (List.mem_cons_of_mem _ member)⟩

/-- What each access adds to what is known of the accesses so far. -/
theorem Proc.Reaches.holds {p rest : Proc σ ι ℓ ε α} {s t : σ} {trace : List (Event σ ι ℓ)}
    {known : List (Event σ ι ℓ) → σ → Prop} (reached : p.Reaches s trace rest t)
    (initial : known [] s)
    (step : ∀ past, ∀ e ∈ trace, known past e.before → known (past ++ [e]) e.after) :
    known trace t := by
  induction reached generalizing known with
  | stop => exact initial
  | @access s s' trace rest t label effect next i ran reached ih =>
    have first := step [] _ (List.mem_cons_self ..) initial
    exact @ih (fun past => known (⟨label, i, s, s'⟩ :: past)) first fun past e member =>
      step (_ :: past) e (List.mem_cons_of_mem _ member)

/-- Stopped before the first access, after it threw, or in what follows it. -/
theorem Proc.reaches_access_bind {label : ℓ} {enabled : σ → Bool} {f : ι → σ → Except ε α × σ}
    {next : α → Proc σ ι ℓ ε β} {rest : Proc σ ι ℓ ε β} {s t : σ} {trace : List (Event σ ι ℓ)}
    (reached : ((Proc.access label enabled f).bind next).Reaches s trace rest t) :
    trace = [] ∨ ∃ i tail, trace = ⟨label, i, s, (f i s).2⟩ :: tail ∧
      ((∃ a, (f i s).1 = .ok a ∧ (next a).Reaches (f i s).2 tail rest t) ∨
        ∃ e, (f i s).1 = .error e ∧ tail = []) := by
  cases reached with
  | stop => exact .inl rfl
  | @access _ _ tail _ _ _ _ _ i ran after =>
    dsimp only at ran
    split at ran
    · obtain rfl := Option.some.inj ran
      refine .inr ⟨i, tail, rfl, ?_⟩
      dsimp only at after
      cases ended : (f i s).1 with
      | ok a =>
        rw [ended] at after
        exact .inl ⟨a, rfl, after⟩
      | error e =>
        rw [ended] at after
        cases after
        exact .inr ⟨e, rfl, rfl⟩
    · cases ran

/-- Runs in which each procedure ends, or is stopped after any of its accesses, before the next
one starts. `recover` is what a stop leaves of the state. -/
inductive StoppedRuns (start : Op → Proc σ ι ℓ ε ρ) (recover : σ → σ) (s₀ : σ) : σ → Prop where
  | nil : StoppedRuns start recover s₀ s₀
  | ended (op : Op) : StoppedRuns start recover s₀ s → (start op).exec answers s = some f →
      StoppedRuns start recover s₀ f.state
  | stopped (op : Op) : StoppedRuns start recover s₀ s → (start op).Reaches s trace rest t →
      StoppedRuns start recover s₀ (recover t)

theorem StoppedRuns.holds {start : Op → Proc σ ι ℓ ε ρ} {recover : σ → σ} {c : Contract σ ι ℓ}
    {s₀ s : σ} (refl : ∀ s, c.rely s s) (always : ∀ label i s, c.allowed label i s)
    (initial : c.inv s₀) (recovers : ∀ s, c.inv s → c.inv (recover s))
    (starts : ∀ op s, c.inv s → (start op).Meets c (fun _ _ => True) (fun _ _ => True) s)
    (run : StoppedRuns start recover s₀ s) : c.inv s := by
  induction run with
  | nil => exact initial
  | ended op _ done ih => exact ((starts op _ ih).exec refl ih done fun _ _ => always ..).1
  | stopped op _ reached ih =>
    exact recovers _ ((starts op _ ih).reaches refl ih reached fun _ _ => always ..)

/-- The calls of a list, each with the answers to its accesses, and whether it is stopped
after the last of them. -/
def playStopped (start : Op → Proc σ ι ℓ ε ρ) (recover : σ → σ) :
    List (Op × List ι × Bool) → σ → Option σ
  | [], s => some s
  | (op, answers, true) :: rest, s =>
    ((start op).stopped answers s).bind fun r => playStopped start recover rest (recover r.2)
  | (op, answers, false) :: rest, s =>
    ((start op).exec answers s).bind fun f => playStopped start recover rest f.state

theorem playStopped_runs {start : Op → Proc σ ι ℓ ε ρ} {recover : σ → σ} {s₀ s t : σ}
    {calls : List (Op × List ι × Bool)} (run : StoppedRuns start recover s₀ s)
    (played : playStopped start recover calls s = some t) : StoppedRuns start recover s₀ t := by
  induction calls generalizing s with
  | nil =>
    obtain rfl := Option.some.inj played
    exact run
  | cons call rest ih =>
    obtain ⟨op, answers, stops⟩ := call
    cases stops with
    | false =>
      obtain ⟨f, done, rest⟩ := Option.bind_eq_some_iff.mp played
      exact ih (run.ended op done) rest
    | true =>
      obtain ⟨r, made, rest⟩ := Option.bind_eq_some_iff.mp played
      obtain ⟨left, reached⟩ := Proc.stopped_reaches made
      exact ih (run.stopped op reached) rest

/-- What a procedure on its own is answered, and what each of its accesses does. -/
structure Lone (σ ι ℓ : Type) where
  allowed : ℓ → ι → σ → Prop
  guar : ℓ → ι → σ → σ → Prop

namespace Proc

/-- On its own from `s`, each access that is answered as allowed can be made, and satisfies
`guar`; a return ends in `post` and a throw in `err`. -/
def Achieves (c : Lone σ ι ℓ) (post : α → σ → Prop) (err : ε → σ → Prop) :
    Proc σ ι ℓ ε α → σ → Prop
  | .pure a, s => post a s
  | .throw e, s => err e s
  | .step label effect next, s => ∀ i, c.allowed label i s →
      ∃ t, effect i s = some t ∧ c.guar label i s t ∧ Achieves c post err (next i s) t

variable {c : Lone σ ι ℓ} {post : α → σ → Prop} {err : ε → σ → Prop} {s : σ}

@[simp] theorem achieves_pure {a : α} :
    (Proc.pure a : Proc σ ι ℓ ε α).Achieves c post err s ↔ post a s := Iff.rfl

@[simp] theorem achieves_throw {e : ε} :
    (Proc.throw e : Proc σ ι ℓ ε α).Achieves c post err s ↔ err e s := Iff.rfl

theorem achieves_step {label : ℓ} {effect : ι → σ → Option σ} {next : ι → σ → Proc σ ι ℓ ε α} :
    (Proc.step label effect next).Achieves c post err s ↔ ∀ i, c.allowed label i s →
      ∃ t, effect i s = some t ∧ c.guar label i s t ∧ (next i s).Achieves c post err t := Iff.rfl

@[simp] theorem achieves_bind {p : Proc σ ι ℓ ε α} {f : α → Proc σ ι ℓ ε β}
    {post : β → σ → Prop} : (p.bind f).Achieves c post err s ↔
      p.Achieves c (fun a t => (f a).Achieves c post err t) err s := by
  induction p generalizing s with
  | pure a => rfl
  | throw e => rfl
  | step label effect next ih => simp only [bind, achieves_step, ih]

@[simp] theorem achieves_catching {p : Proc σ ι ℓ ε α} {handler : ε → Proc σ ι ℓ ε α} :
    (p.catching handler).Achieves c post err s ↔
      p.Achieves c post (fun e t => (handler e).Achieves c post err t) s := by
  induction p generalizing s with
  | pure a => rfl
  | throw e => rfl
  | step label effect next ih => simp only [catching, achieves_step, ih]

theorem Achieves.imp {p : Proc σ ι ℓ ε α} {post' : α → σ → Prop} {err' : ε → σ → Prop}
    (achieves : p.Achieves c post err s) (posts : ∀ a t, post a t → post' a t)
    (errs : ∀ e t, err e t → err' e t) : p.Achieves c post' err' s := by
  induction p generalizing s with
  | pure a => exact posts a s achieves
  | throw e => exact errs e s achieves
  | step label effect next ih =>
    intro i allowed
    obtain ⟨t, made, guar, after⟩ := achieves i allowed
    exact ⟨t, made, guar, ih i s after⟩

/-- An access, by how it ends. -/
theorem achieves_access {label : ℓ} {enabled : σ → Bool} {f : ι → σ → Except ε α × σ}
    (ready : enabled s = true) (ends : ∀ i, c.allowed label i s →
      c.guar label i s (f i s).2 ∧ outcome post err (f i s)) :
    (Proc.access label enabled f).Achieves c post err s := by
  intro i allowed
  obtain ⟨guar, ended⟩ := ends i allowed
  refine ⟨(f i s).2, by simp [ready], guar, ?_⟩
  rcases result : f i s with ⟨_ | _, _⟩ <;> simpa [result, Proc.ofExcept] using ended

/-- The contract holds wherever the procedure is stopped, and of what is left of it. -/
theorem Achieves.reaches {p rest : Proc σ ι ℓ ε α} {t : σ} {trace : List (Event σ ι ℓ)}
    (achieves : p.Achieves c post err s) (reached : p.Reaches s trace rest t)
    (allowed : ∀ e ∈ trace, c.allowed e.label e.answer e.before) :
    rest.Achieves c post err t ∧ ∀ e ∈ trace, c.guar e.label e.answer e.before e.after := by
  induction reached with
  | stop => exact ⟨achieves, by simp⟩
  | access ran reached ih =>
    obtain ⟨u, made, guar, after⟩ := achieves _ (allowed _ (List.mem_cons_self ..))
    obtain rfl := Option.some.inj (ran.symm.trans made)
    obtain ⟨left, events⟩ := ih after fun e member => allowed e (List.mem_cons_of_mem _ member)
    exact ⟨left, List.forall_mem_cons.mpr ⟨guar, events⟩⟩

theorem Achieves.exec {p : Proc σ ι ℓ ε α} {f : Finished σ ι ℓ ε α} {answers : List ι}
    (achieves : p.Achieves c post err s) (done : p.exec answers s = some f)
    (allowed : ∀ e ∈ f.trace, c.allowed e.label e.answer e.before) : f.Ends post err := by
  induction p generalizing s answers f with
  | pure a =>
    obtain rfl := Option.some.inj done
    exact achieves
  | throw e =>
    obtain rfl := Option.some.inj done
    exact achieves
  | step label effect next ih =>
    obtain ⟨i, rest, u, tail, rfl, ran, finished, rfl⟩ := Proc.exec_step done
    obtain ⟨t, made, _, after⟩ := achieves i (allowed _ (List.mem_cons_self ..))
    obtain rfl := Option.some.inj (ran.symm.trans made)
    have ended : tail.Ends post err :=
      ih i s after finished fun e member => allowed e (List.mem_cons_of_mem _ member)
    exact ended

/-- It ends, if there always is an answer that is allowed. -/
theorem Achieves.ends {p : Proc σ ι ℓ ε α} (achieves : p.Achieves c post err s)
    (answer : ∀ label s, ∃ i, c.allowed label i s) :
    ∃ answers f, p.exec answers s = some f ∧
      ∀ e ∈ f.trace, c.allowed e.label e.answer e.before := by
  induction p generalizing s with
  | pure a => exact ⟨[], _, rfl, by simp⟩
  | throw e => exact ⟨[], _, rfl, by simp⟩
  | step label effect next ih =>
    obtain ⟨i, allowed⟩ := answer label s
    obtain ⟨t, made, _, after⟩ := achieves i allowed
    obtain ⟨answers, f, done, all⟩ := ih i s after
    refine ⟨i :: answers, f.after ⟨label, i, s, t⟩, ?_, List.forall_mem_cons.mpr ⟨allowed, all⟩⟩
    simp only [Proc.exec, made, done]
    rfl

/-- On its own from `s`, each access that is answered as allowed can be made; `post` and `err`
are told the labels of all accesses that were made before the end. -/
def Makes (allowed : ℓ → ι → σ → Prop) (post : List ℓ → α → σ → Prop)
    (err : List ℓ → ε → σ → Prop) : Proc σ ι ℓ ε α → σ → Prop
  | .pure a, s => post [] a s
  | .throw e, s => err [] e s
  | .step label effect next, s => ∀ i, allowed label i s → ∃ t, effect i s = some t ∧
      Makes allowed (fun made => post (label :: made)) (fun made => err (label :: made))
        (next i s) t

section Makes
variable {allowed : ℓ → ι → σ → Prop} {post : List ℓ → α → σ → Prop}
  {err : List ℓ → ε → σ → Prop} {s : σ}

@[simp] theorem makes_pure {a : α} :
    (Proc.pure a : Proc σ ι ℓ ε α).Makes allowed post err s ↔ post [] a s := Iff.rfl

@[simp] theorem makes_throw {e : ε} :
    (Proc.throw e : Proc σ ι ℓ ε α).Makes allowed post err s ↔ err [] e s := Iff.rfl

theorem makes_step {label : ℓ} {effect : ι → σ → Option σ} {next : ι → σ → Proc σ ι ℓ ε α} :
    (Proc.step label effect next).Makes allowed post err s ↔ ∀ i, allowed label i s →
      ∃ t, effect i s = some t ∧ (next i s).Makes allowed (fun made => post (label :: made))
        (fun made => err (label :: made)) t := Iff.rfl

@[simp] theorem makes_bind {p : Proc σ ι ℓ ε α} {f : α → Proc σ ι ℓ ε β}
    {post : List ℓ → β → σ → Prop} : (p.bind f).Makes allowed post err s ↔
      p.Makes allowed (fun made a t => (f a).Makes allowed (fun more => post (made ++ more))
        (fun more => err (made ++ more)) t) err s := by
  induction p generalizing s post err with
  | pure a => rfl
  | throw e => rfl
  | step label effect next ih => simp only [bind, makes_step, ih, List.cons_append]

@[simp] theorem makes_catching {p : Proc σ ι ℓ ε α} {handler : ε → Proc σ ι ℓ ε α} :
    (p.catching handler).Makes allowed post err s ↔
      p.Makes allowed post (fun made e t => (handler e).Makes allowed
        (fun more => post (made ++ more)) (fun more => err (made ++ more)) t) s := by
  induction p generalizing s post err with
  | pure a => rfl
  | throw e => rfl
  | step label effect next ih => simp only [catching, makes_step, ih, List.cons_append]

@[simp] theorem makes_attempt {p : Proc σ ι ℓ ε α} {post : List ℓ → Except ε α → σ → Prop} :
    p.attempt.Makes allowed post err s ↔
      p.Makes allowed (fun made a => post made (.ok a)) (fun made e => post made (.error e)) s := by
  simp only [attempt, makes_catching, makes_bind, makes_pure, List.append_nil]

@[simp] theorem makes_finishing {p : Proc σ ι ℓ ε α} {last : Proc σ ι ℓ ε Unit} :
    (p.finishing last).Makes allowed post err s ↔
      p.Makes allowed
        (fun made a t => last.Makes allowed (fun more _ => post (made ++ more) a)
          (fun more => err (made ++ more)) t)
        (fun made e t => last.Makes allowed (fun more _ => err (made ++ more) e)
          (fun more => err (made ++ more)) t) s := by
  induction p generalizing s post err with
  | pure a => simp [finishing]
  | throw e => simp [finishing]
  | step label effect next ih => simp only [finishing, makes_step, ih, List.cons_append]

theorem Makes.imp {p : Proc σ ι ℓ ε α} {post' : List ℓ → α → σ → Prop}
    {err' : List ℓ → ε → σ → Prop} (makes : p.Makes allowed post err s)
    (posts : ∀ made a t, post made a t → post' made a t)
    (errs : ∀ made e t, err made e t → err' made e t) : p.Makes allowed post' err' s := by
  induction p generalizing s post err post' err' with
  | pure a => exact posts [] a s makes
  | throw e => exact errs [] e s makes
  | step label effect next ih =>
    intro i answered
    obtain ⟨t, ran, after⟩ := makes i answered
    exact ⟨t, ran, ih i s after (fun made => posts (label :: made))
      fun made => errs (label :: made)⟩

/-- An access, by how it ends. -/
theorem makes_access {label : ℓ} {enabled : σ → Bool} {f : ι → σ → Except ε α × σ}
    (ready : enabled s = true)
    (ends : ∀ i, allowed label i s → outcome (post [label]) (err [label]) (f i s)) :
    (Proc.access label enabled f).Makes allowed post err s := by
  intro i answered
  have ended := ends i answered
  refine ⟨(f i s).2, by simp [ready], ?_⟩
  rcases result : f i s with ⟨_ | _, _⟩ <;> simpa [result, Proc.ofExcept] using ended

theorem Makes.exec {p : Proc σ ι ℓ ε α} {f : Finished σ ι ℓ ε α} {answers : List ι}
    (makes : p.Makes allowed post err s) (done : p.exec answers s = some f)
    (answered : ∀ e ∈ f.trace, allowed e.label e.answer e.before) :
    f.Ends (post (f.trace.map (·.label))) (err (f.trace.map (·.label))) := by
  induction p generalizing s answers f post err with
  | pure a =>
    obtain rfl := Option.some.inj done
    exact makes
  | throw e =>
    obtain rfl := Option.some.inj done
    exact makes
  | step label effect next ih =>
    obtain ⟨i, rest, u, tail, rfl, ran, finished, rfl⟩ := Proc.exec_step done
    obtain ⟨t, made, after⟩ := makes i (answered _ (List.mem_cons_self ..))
    obtain rfl := Option.some.inj (ran.symm.trans made)
    have ended := ih i s after finished fun e member =>
      answered e (List.mem_cons_of_mem _ member)
    exact ended

theorem Makes.achieves {p : Proc σ ι ℓ ε α} (makes : p.Makes allowed post err s) :
    p.Achieves ⟨allowed, fun _ _ _ _ => True⟩ (fun _ _ => True) (fun _ _ => True) s := by
  induction p generalizing s post err with
  | pure a => trivial
  | throw e => trivial
  | step label effect next ih =>
    intro i answered
    obtain ⟨t, ran, after⟩ := makes i answered
    exact ⟨t, ran, trivial, ih i s after⟩

/-- It ends, if there always is an answer that is allowed. -/
theorem Makes.ends {p : Proc σ ι ℓ ε α} (makes : p.Makes allowed post err s)
    (answer : ∀ label s, ∃ i, allowed label i s) :
    ∃ answers f, p.exec answers s = some f ∧
      ∀ e ∈ f.trace, allowed e.label e.answer e.before :=
  makes.achieves.ends answer

end Makes

end Proc

end Bitmonie
