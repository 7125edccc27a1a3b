/-! Procedures over a shared state. A procedure is a tree of atomic accesses; it
throws or returns, and what it does next may depend on the answer and the state it
saw. `Meets` is its contract under interference. Nothing here names a program. -/
namespace Bitmonie

/-- One access is labelled, may be blocked (`effect` is `none`), and continues with
the answer it was given and the state it ran in. -/
inductive Proc (σ ι ℓ ε α : Type) : Type where
  | pure (result : α)
  | throw (error : ε)
  | step (label : ℓ) (effect : ι → σ → Option σ) (next : ι → σ → Proc σ ι ℓ ε α)

namespace Proc

def bind : Proc σ ι ℓ ε α → (α → Proc σ ι ℓ ε β) → Proc σ ι ℓ ε β
  | .pure a, f => f a
  | .throw e, _ => .throw e
  | .step label effect next, f => .step label effect fun i s => (next i s).bind f

instance : Monad (Proc σ ι ℓ ε) where
  pure := .pure
  bind := .bind

/-- `try p catch handler`: accesses made before the throw stay made. -/
def catching : Proc σ ι ℓ ε α → (ε → Proc σ ι ℓ ε α) → Proc σ ι ℓ ε α
  | .pure a, _ => .pure a
  | .throw e, handler => handler e
  | .step label effect next, handler => .step label effect fun i s => (next i s).catching handler

/-- `try p finally last`. -/
def finishing : Proc σ ι ℓ ε α → Proc σ ι ℓ ε Unit → Proc σ ι ℓ ε α
  | .pure a, last => last.bind fun _ => .pure a
  | .throw e, last => last.bind fun _ => .throw e
  | .step label effect next, last => .step label effect fun i s => (next i s).finishing last

/-- `try` whose outcome is looked at afterwards. -/
def attempt (p : Proc σ ι ℓ ε α) : Proc σ ι ℓ ε (Except ε α) :=
  (p.bind fun a => .pure (.ok a)).catching fun e => .pure (.error e)

def ofExcept : Except ε α → Proc σ ι ℓ ε α
  | .ok a => .pure a
  | .error e => .throw e

/-- One access that waits until it is `enabled`, then moves the state and returns or
throws. A throw need not leave the state alone. -/
def access (label : ℓ) (enabled : σ → Bool) (f : ι → σ → Except ε α × σ) : Proc σ ι ℓ ε α :=
  .step label
    (fun i s => if enabled s then some (f i s).2 else none)
    (fun i s => .ofExcept (f i s).1)

def each : List β → (β → Proc σ ι ℓ ε Unit) → Proc σ ι ℓ ε Unit
  | [], _ => .pure ()
  | b :: rest, body => (body b).bind fun _ => each rest body

@[simp] theorem pure_bind (a : α) (f : α → Proc σ ι ℓ ε β) :
    (Proc.pure a).bind f = f a := rfl
@[simp] theorem throw_bind (e : ε) (f : α → Proc σ ι ℓ ε β) :
    (Proc.throw e).bind f = .throw e := rfl
@[simp] theorem bind_eq (p : Proc σ ι ℓ ε α) (f : α → Proc σ ι ℓ ε β) :
    p >>= f = p.bind f := rfl
@[simp] theorem pure_eq (a : α) : (Pure.pure a : Proc σ ι ℓ ε α) = .pure a := rfl

end Proc

/-- What a procedure may rely on and must guarantee: `inv` always holds, other
procedures move the state within `rely`, and each own access that is `allowed`
satisfies `guar`. -/
structure Contract (σ ι ℓ : Type) where
  inv : σ → Prop
  allowed : ℓ → ι → σ → Prop
  rely : σ → σ → Prop
  guar : ℓ → ι → σ → σ → Prop

/-- Interference composes, so it can be absorbed before every access. -/
structure Contract.Stable (c : Contract σ ι ℓ) : Prop where
  refl : ∀ s, c.rely s s
  trans : ∀ r s t, c.rely r s → c.rely s t → c.rely r t

def Contract.alone : Contract σ ι ℓ where
  inv _ := True
  allowed _ _ _ := True
  rely := Eq
  guar _ _ _ _ := True

/-- Two contracts at once. -/
def Contract.both (c d : Contract σ ι ℓ) : Contract σ ι ℓ where
  inv s := c.inv s ∧ d.inv s
  allowed label i s := c.allowed label i s ∧ d.allowed label i s
  rely s t := c.rely s t ∧ d.rely s t
  guar label i s t := c.guar label i s t ∧ d.guar label i s t

namespace Proc

/-- `p.Meets c post err s`: started in `s`, and with interference before every access,
each access keeps the invariant and the guarantee; a return ends in `post` and a throw
in `err`. -/
def Meets (c : Contract σ ι ℓ) (post : α → σ → Prop) (err : ε → σ → Prop) :
    Proc σ ι ℓ ε α → σ → Prop
  | .pure a, s => post a s
  | .throw e, s => err e s
  | .step label effect next, s => ∀ t, c.rely s t → c.inv t → ∀ i t', c.allowed label i t →
      effect i t = some t' → c.inv t' ∧ c.guar label i t t' ∧ Meets c post err (next i t) t'

variable {c : Contract σ ι ℓ} {post : α → σ → Prop} {err : ε → σ → Prop}

@[simp] theorem meets_pure {a : α} {s : σ} :
    (Proc.pure a : Proc σ ι ℓ ε α).Meets c post err s ↔ post a s := Iff.rfl

@[simp] theorem meets_throw {e : ε} {s : σ} :
    (Proc.throw e : Proc σ ι ℓ ε α).Meets c post err s ↔ err e s := Iff.rfl

theorem meets_step {label : ℓ} {effect : ι → σ → Option σ} {next : ι → σ → Proc σ ι ℓ ε α}
    {s : σ} : (Proc.step label effect next).Meets c post err s ↔
      ∀ t, c.rely s t → c.inv t → ∀ i t', c.allowed label i t → effect i t = some t' →
        c.inv t' ∧ c.guar label i t t' ∧ (next i t).Meets c post err t' := Iff.rfl

@[simp] theorem meets_bind {p : Proc σ ι ℓ ε α} {f : α → Proc σ ι ℓ ε β}
    {post : β → σ → Prop} {s : σ} : (p.bind f).Meets c post err s ↔
      p.Meets c (fun a t => (f a).Meets c post err t) err s := by
  induction p generalizing s with
  | pure a => rfl
  | throw e => rfl
  | step label effect next ih => simp only [bind, meets_step, ih]

@[simp] theorem meets_catching {p : Proc σ ι ℓ ε α} {handler : ε → Proc σ ι ℓ ε α} {s : σ} :
    (p.catching handler).Meets c post err s ↔
      p.Meets c post (fun e t => (handler e).Meets c post err t) s := by
  induction p generalizing s with
  | pure a => rfl
  | throw e => rfl
  | step label effect next ih => simp only [catching, meets_step, ih]

@[simp] theorem meets_attempt {p : Proc σ ι ℓ ε α} {post : Except ε α → σ → Prop} {s : σ} :
    p.attempt.Meets c post err s ↔
      p.Meets c (fun a => post (.ok a)) (fun e => post (.error e)) s := by
  simp only [attempt, meets_catching, meets_bind, meets_pure]

@[simp] theorem meets_finishing {p : Proc σ ι ℓ ε α} {last : Proc σ ι ℓ ε Unit} {s : σ} :
    (p.finishing last).Meets c post err s ↔
      p.Meets c (fun a t => last.Meets c (fun _ => post a) err t)
        (fun e t => last.Meets c (fun _ => err e) err t) s := by
  induction p generalizing s with
  | pure a => simp [finishing]
  | throw e => simp [finishing]
  | step label effect next ih => simp only [finishing, meets_step, ih]

theorem Meets.imp {p : Proc σ ι ℓ ε α} {post' : α → σ → Prop} {err' : ε → σ → Prop} {s : σ}
    (meets : p.Meets c post err s) (posts : ∀ a t, post a t → post' a t)
    (errs : ∀ e t, err e t → err' e t) : p.Meets c post' err' s := by
  induction p generalizing s with
  | pure a => exact posts a s meets
  | throw e => exact errs e s meets
  | step label effect next ih =>
    intro t rely inv i t' allowed ran
    obtain ⟨inv', guar, rest⟩ := meets t rely inv i t' allowed ran
    exact ⟨inv', guar, ih i t rest⟩

theorem Meets.seq {p : Proc σ ι ℓ ε α} {f : α → Proc σ ι ℓ ε β} {mid : α → σ → Prop}
    {post : β → σ → Prop} {s : σ} (first : p.Meets c mid err s)
    (rest : ∀ a t, mid a t → (f a).Meets c post err t) : (p.bind f).Meets c post err s :=
  meets_bind.mpr (first.imp rest fun _ _ failed => failed)

/-- Interference before the procedure starts does not break its contract. -/
theorem Meets.interfere {p : Proc σ ι ℓ ε α} {s t : σ} (stable : c.Stable)
    (posts : ∀ a s t, c.rely s t → post a s → post a t)
    (errs : ∀ e s t, c.rely s t → err e s → err e t)
    (meets : p.Meets c post err s) (rely : c.rely s t) : p.Meets c post err t := by
  cases p with
  | pure a => exact posts a s t rely meets
  | throw e => exact errs e s t rely meets
  | step label effect next => exact fun u moved => meets u (stable.trans s t u rely moved)

/-- The frame rule: what neither interference nor own accesses change still holds at
the end. -/
theorem Meets.frame {p : Proc σ ι ℓ ε α} {s : σ} {kept : σ → Prop}
    (meets : p.Meets c post err s) (rely : ∀ s t, c.rely s t → kept s → kept t)
    (own : ∀ label i s t, c.guar label i s t → kept s → kept t) (here : kept s) :
    p.Meets c (fun a t => post a t ∧ kept t) (fun e t => err e t ∧ kept t) s := by
  induction p generalizing s with
  | pure a => exact ⟨meets, here⟩
  | throw e => exact ⟨meets, here⟩
  | step label effect next ih =>
    intro t moved inv i t' allowed ran
    obtain ⟨inv', guar, rest⟩ := meets t moved inv i t' allowed ran
    exact ⟨inv', guar, ih i t rest (own label i t t' guar (rely s t moved here))⟩

/-- The rule of conjunction. -/
theorem Meets.both {d : Contract σ ι ℓ} {p : Proc σ ι ℓ ε α} {post' : α → σ → Prop}
    {err' : ε → σ → Prop} {s : σ} (first : p.Meets c post err s) (second : p.Meets d post' err' s) :
    p.Meets (c.both d) (fun a t => post a t ∧ post' a t) (fun e t => err e t ∧ err' e t) s := by
  induction p generalizing s with
  | pure a => exact ⟨first, second⟩
  | throw e => exact ⟨first, second⟩
  | step label effect next ih =>
    intro t moved inv i t' allowed ran
    obtain ⟨inv₁, guar₁, rest₁⟩ := first t moved.1 inv.1 i t' allowed.1 ran
    obtain ⟨inv₂, guar₂, rest₂⟩ := second t moved.2 inv.2 i t' allowed.2 ran
    exact ⟨⟨inv₁, inv₂⟩, ⟨guar₁, guar₂⟩, ih i t rest₁ rest₂⟩

/-- What a procedure ends in by a contract that asks no more is known under this one, too. -/
theorem Meets.observing {d : Contract σ ι ℓ} {p : Proc σ ι ℓ ε α} {post' : α → σ → Prop}
    {err' : ε → σ → Prop} {s : σ} (meets : p.Meets c post err s)
    (relies : ∀ s t, c.rely s t → d.rely s t) (invs : ∀ s, c.inv s → d.inv s)
    (allows : ∀ label i s, c.allowed label i s → d.allowed label i s)
    (seen : p.Meets d post' err' s) :
    p.Meets c (fun a t => post a t ∧ post' a t) (fun e t => err e t ∧ err' e t) s := by
  induction p generalizing s with
  | pure a => exact ⟨meets, seen⟩
  | throw e => exact ⟨meets, seen⟩
  | step label effect next ih =>
    intro t moved inv i t' allowed ran
    obtain ⟨inv', guar, rest⟩ := meets t moved inv i t' allowed ran
    obtain ⟨-, -, rest'⟩ := seen t (relies s t moved) (invs t inv) i t' (allows label i t allowed) ran
    exact ⟨inv', guar, ih i t rest rest'⟩

/-- The invariant holds where a procedure ends. -/
theorem Meets.invariant {p : Proc σ ι ℓ ε α} {s : σ} (meets : p.Meets c post err s)
    (here : c.inv s) :
    p.Meets c (fun a t => post a t ∧ c.inv t) (fun e t => err e t ∧ c.inv t) s := by
  induction p generalizing s with
  | pure a => exact ⟨meets, here⟩
  | throw e => exact ⟨meets, here⟩
  | step label effect next ih =>
    intro t moved inv i t' allowed ran
    obtain ⟨inv', guar, rest⟩ := meets t moved inv i t' allowed ran
    exact ⟨inv', guar, ih i t rest inv'⟩

/-- A loop keeps what each of its turns keeps. -/
theorem meets_each {rows : List β} {body : β → Proc σ ι ℓ ε Unit} {kept : σ → Prop}
    {s : σ} (start : kept s)
    (turn : ∀ b ∈ rows, ∀ s, kept s → (body b).Meets c (fun _ => kept) err s) :
    (each rows body).Meets c (fun _ => kept) err s := by
  induction rows generalizing s with
  | nil => exact start
  | cons b rest ih =>
    simp only [each, meets_bind]
    apply (turn b (List.mem_cons_self ..) s start).imp
    · intro _ t here
      exact ih here fun b member => turn b (List.mem_cons_of_mem _ member)
    · exact fun _ _ h => h

def outcome (post : α → σ → Prop) (err : ε → σ → Prop) : Except ε α × σ → Prop
  | (.ok a, s) => post a s
  | (.error e, s) => err e s

@[simp] theorem outcome_ok {a : α} {s : σ} : outcome post err (.ok a, s) ↔ post a s := Iff.rfl
@[simp] theorem outcome_error {e : ε} {s : σ} :
    outcome post err (.error e, s) ↔ err e s := Iff.rfl

theorem meets_access {label : ℓ} {enabled : σ → Bool} {f : ι → σ → Except ε α × σ} {s : σ} :
    (Proc.access label enabled f : Proc σ ι ℓ ε α).Meets c post err s ↔
      ∀ t, c.rely s t → c.inv t → enabled t = true → ∀ i, c.allowed label i t →
        c.inv (f i t).2 ∧ c.guar label i t (f i t).2 ∧ outcome post err (f i t) := by
  have ended (i : ι) (t : σ) :
      (Proc.ofExcept (f i t).1).Meets c post err (f i t).2 ↔ outcome post err (f i t) := by
    rcases f i t with ⟨_ | _, _⟩ <;> rfl
  simp only [access, meets_step]
  constructor
  · intro h t rely inv ready i allowed
    rw [← ended]
    exact h t rely inv i (f i t).2 allowed (by simp [ready])
  · intro h t rely inv i t' allowed ran
    split at ran
    · rename_i ready
      obtain rfl := Option.some.inj ran
      rw [ended]
      exact h t rely inv ready i allowed
    · contradiction

/-- No access is ever blocked; each leaves the state alone and has one of these labels. -/
def Looks (labels : ℓ → Prop) : Proc σ ι ℓ ε α → Prop
  | .pure _ => True
  | .throw _ => True
  | .step label effect next => labels label ∧
      ∀ i s, effect i s = some s ∧ (next i s).Looks labels

theorem looks_access {labels : ℓ → Prop} {label : ℓ} {f : ι → σ → Except ε α × σ}
    (among : labels label) (same : ∀ i s, (f i s).2 = s) :
    (Proc.access label (fun _ => true) f).Looks labels := by
  refine ⟨among, fun i s => ⟨by simp [same i s], ?_⟩⟩
  dsimp only
  cases (f i s).1 <;> trivial

theorem Looks.bind {labels : ℓ → Prop} {p : Proc σ ι ℓ ε α} {f : α → Proc σ ι ℓ ε β}
    (first : p.Looks labels) (rest : ∀ a, (f a).Looks labels) : (p.bind f).Looks labels := by
  induction p with
  | pure a => exact rest a
  | throw e => trivial
  | step label effect next ih =>
    refine ⟨first.1, fun i s => ?_⟩
    obtain ⟨same, looks⟩ := first.2 i s
    exact ⟨same, ih i s looks⟩

theorem Looks.catching {labels : ℓ → Prop} {p : Proc σ ι ℓ ε α} {handler : ε → Proc σ ι ℓ ε α}
    (body : p.Looks labels) (caught : ∀ e, (handler e).Looks labels) :
    (p.catching handler).Looks labels := by
  induction p with
  | pure a => trivial
  | throw e => exact caught e
  | step label effect next ih =>
    refine ⟨body.1, fun i s => ?_⟩
    obtain ⟨same, looks⟩ := body.2 i s
    exact ⟨same, ih i s looks⟩

/-- What interference keeps, a procedure that only looks keeps. -/
theorem Looks.meets {labels : ℓ → Prop} {p : Proc σ ι ℓ ε α} {s : σ} {kept : σ → Prop}
    (looks : p.Looks labels) (relies : ∀ s t, c.rely s t → kept s → kept t)
    (still : ∀ label i t, labels label → c.guar label i t t) (here : kept s) :
    p.Meets c (fun _ => kept) (fun _ => kept) s := by
  induction p generalizing s with
  | pure a => exact here
  | throw e => exact here
  | step label effect next ih =>
    intro t moved inv i t' _ ran
    obtain ⟨same, looks'⟩ := looks.2 i t
    obtain rfl := Option.some.inj (same.symm.trans ran)
    exact ⟨inv, still label i t looks.1, ih i t looks' (relies s t moved here)⟩

def Leaves (view : σ → β) : Proc σ ι ℓ ε α → Prop
  | .pure _ => True
  | .throw _ => True
  | .step _ effect next => ∀ i s, (∀ s', effect i s = some s' → view s' = view s) ∧
      (next i s).Leaves view

theorem leaves_access {view : σ → β} {label : ℓ} {enabled : σ → Bool}
    {f : ι → σ → Except ε α × σ} (same : ∀ i s, view (f i s).2 = view s) :
    (Proc.access label enabled f).Leaves view := by
  intro i s
  constructor
  · intro s' ran
    dsimp only at ran
    split at ran
    · obtain rfl := Option.some.inj ran
      exact same i s
    · cases ran
  · dsimp only
    cases (f i s).1 <;> trivial

theorem Leaves.bind {view : σ → β} {p : Proc σ ι ℓ ε α} {f : α → Proc σ ι ℓ ε γ}
    (first : p.Leaves view) (rest : ∀ a, (f a).Leaves view) : (p.bind f).Leaves view := by
  induction p with
  | pure a => exact rest a
  | throw e => trivial
  | step label effect next ih => exact fun i s => ⟨(first i s).1, ih i s (first i s).2⟩

theorem Leaves.catching {view : σ → β} {p : Proc σ ι ℓ ε α} {handler : ε → Proc σ ι ℓ ε α}
    (body : p.Leaves view) (caught : ∀ e, (handler e).Leaves view) :
    (p.catching handler).Leaves view := by
  induction p with
  | pure a => trivial
  | throw e => exact caught e
  | step label effect next ih => exact fun i s => ⟨(body i s).1, ih i s (body i s).2⟩

theorem Leaves.attempt {view : σ → β} {p : Proc σ ι ℓ ε α} (body : p.Leaves view) :
    p.attempt.Leaves view := by
  induction p with
  | pure a => trivial
  | throw e => trivial
  | step label effect next ih => exact fun i s => ⟨(body i s).1, ih i s (body i s).2⟩

theorem leaves_ofExcept {view : σ → β} (result : Except ε α) :
    (Proc.ofExcept result : Proc σ ι ℓ ε α).Leaves view := by
  cases result <;> trivial

/-- A part of what is left alone. -/
theorem Leaves.comp {view : σ → β} {p : Proc σ ι ℓ ε α} (leaves : p.Leaves view) (g : β → γ) :
    p.Leaves fun s => g (view s) := by
  induction p with
  | pure a => trivial
  | throw e => trivial
  | step label effect next ih =>
    exact fun i s => ⟨fun s' ran => congrArg g ((leaves i s).1 s' ran), ih i s (leaves i s).2⟩

/-- What interference keeps, and the part that is left alone decides, is kept. -/
theorem Leaves.meets {view : σ → β} {p : Proc σ ι ℓ ε α} {s : σ} {kept : σ → Prop}
    (leaves : p.Leaves view) (relies : ∀ s t, c.rely s t → kept s → kept t)
    (still : ∀ label i s t, view t = view s → c.inv s → c.inv t ∧ c.guar label i s t)
    (own : ∀ s t, view t = view s → kept s → kept t) (here : kept s) :
    p.Meets c (fun _ => kept) (fun _ => kept) s := by
  induction p generalizing s with
  | pure a => exact here
  | throw e => exact here
  | step label effect next ih =>
    intro t moved inv i t' _ ran
    obtain ⟨same, rest⟩ := leaves i t
    obtain ⟨inv', guar⟩ := still label i t t' (same t' ran) inv
    exact ⟨inv', guar, ih i t rest (own t t' (same t' ran) (relies s t moved here))⟩

def Complies (c : Contract σ ι ℓ) (p : Proc σ ι ℓ ε α) : Prop :=
  ∀ s, p.Meets c (fun _ _ => True) (fun _ _ => True) s

theorem complies_throw {error : ε} : (Proc.throw error : Proc σ ι ℓ ε α).Complies c :=
  fun _ => trivial

theorem Complies.bind {p : Proc σ ι ℓ ε α} {f : α → Proc σ ι ℓ ε β} (first : p.Complies c)
    (rest : ∀ a, (f a).Complies c) : (p.bind f).Complies c := by
  intro s
  rw [meets_bind]
  exact (first s).imp (fun a t _ => rest a t) fun _ _ _ => trivial

theorem Complies.catching {p : Proc σ ι ℓ ε α} {handler : ε → Proc σ ι ℓ ε α}
    (body : p.Complies c) (caught : ∀ e, (handler e).Complies c) :
    (p.catching handler).Complies c := by
  intro s
  rw [meets_catching]
  exact (body s).imp (fun _ _ _ => trivial) fun e t _ => caught e t

theorem Complies.attempt {p : Proc σ ι ℓ ε α} (body : p.Complies c) : p.attempt.Complies c := by
  intro s
  rw [meets_attempt]
  exact (body s).imp (fun _ _ _ => trivial) fun _ _ _ => trivial

theorem Complies.finishing {p : Proc σ ι ℓ ε α} {last : Proc σ ι ℓ ε Unit} (body : p.Complies c)
    (ends : last.Complies c) : (p.finishing last).Complies c := by
  intro s
  rw [meets_finishing]
  exact (body s).imp (fun _ t _ => ends t) fun _ t _ => ends t

theorem complies_each {rows : List β} {body : β → Proc σ ι ℓ ε Unit}
    (turn : ∀ row, (body row).Complies c) : (Proc.each rows body).Complies c := by
  intro s
  have start : (fun _ : σ => True) s := trivial
  exact meets_each start fun row _ t _ => turn row t

theorem Leaves.complies {view : σ → β} {p : Proc σ ι ℓ ε α} (leaves : p.Leaves view)
    (still : ∀ label i s t, view t = view s → c.inv s → c.inv t ∧ c.guar label i s t) :
    p.Complies c := by
  intro s
  have start : (fun _ : σ => True) s := trivial
  exact leaves.meets (fun _ _ _ _ => trivial) still (fun _ _ _ _ => trivial) start

/-- How a system lies in a larger one. -/
structure Part (σ ι ℓ ε σ' ι' ℓ' ε' : Type) where
  get : σ' → σ
  set : σ' → σ → σ'
  answer : ι' → ι
  label : ℓ → ℓ'
  error : ε → ε'
  get_set : ∀ s' s, get (set s' s) = s

def zoom (part : Part σ ι ℓ ε σ' ι' ℓ' ε') : Proc σ ι ℓ ε α → Proc σ' ι' ℓ' ε' α
  | .pure a => .pure a
  | .throw e => .throw (part.error e)
  | .step label effect next => .step (part.label label)
      (fun i s => (effect (part.answer i) (part.get s)).map (part.set s))
      (fun i s => (next (part.answer i) (part.get s)).zoom part)

theorem zoom_access {part : Part σ ι ℓ ε σ' ι' ℓ' ε'} {label : ℓ} {enabled : σ → Bool}
    {f : ι → σ → Except ε α × σ} :
    (access label enabled f).zoom part = access (part.label label) (fun s => enabled (part.get s))
      fun i s => ((f (part.answer i) (part.get s)).1.mapError part.error,
        part.set s (f (part.answer i) (part.get s)).2) := by
  rw [access, access, zoom]
  congr 1
  · funext i s
    split <;> rfl
  · funext i s
    cases (f (part.answer i) (part.get s)).1 <;> rfl

/-- A procedure of a part leaves the rest alone. -/
theorem leaves_zoom {part : Part σ ι ℓ ε σ' ι' ℓ' ε'} {view : σ' → β} {p : Proc σ ι ℓ ε α}
    (apart : ∀ s' s, view (part.set s' s) = view s') : (p.zoom part).Leaves view := by
  induction p with
  | pure a => trivial
  | throw e => trivial
  | step label effect next ih =>
    refine fun i s' => ⟨fun t' ran => ?_, ih _ _⟩
    obtain ⟨t, _, rfl⟩ := Option.map_eq_some_iff.mp ran
    exact apart s' t

/-- What a procedure of a part leaves alone there. -/
theorem Leaves.zoom {part : Part σ ι ℓ ε σ' ι' ℓ' ε'} {view : σ → β} {p : Proc σ ι ℓ ε α}
    (leaves : p.Leaves view) : (p.zoom part).Leaves fun s' => view (part.get s') := by
  induction p with
  | pure a => trivial
  | throw e => trivial
  | step label effect next ih =>
    refine fun i s' => ⟨fun t' ran => ?_, ih _ _ (leaves _ _).2⟩
    obtain ⟨t, made, rfl⟩ := Option.map_eq_some_iff.mp ran
    have kept : view t = view (part.get s') := (leaves _ _).1 t made
    simpa only [part.get_set] using kept

/-- A contract of the part is one of the whole, when what is `kept` of the rest allows it. -/
theorem Meets.zoom_throws {part : Part σ ι ℓ ε σ' ι' ℓ' ε'} {d : Contract σ' ι' ℓ'}
    {kept : σ' → Prop} {p : Proc σ ι ℓ ε α} {s : σ'}
    (moves : ∀ s t, d.rely s t → kept s → c.rely (part.get s) (part.get t) ∧ kept t)
    (ready : ∀ label i t, d.inv t → kept t → d.allowed (part.label label) i t →
      c.inv (part.get t) ∧ c.allowed label (part.answer i) (part.get t))
    (makes : ∀ label i t u, d.inv t → kept t → c.inv u →
      c.guar label (part.answer i) (part.get t) u →
        d.inv (part.set t u) ∧ d.guar (part.label label) i t (part.set t u) ∧ kept (part.set t u))
    (here : kept s) (meets : p.Meets c post err (part.get s)) :
    (p.zoom part).Meets d (fun a t => post a (part.get t) ∧ kept t)
      (fun e t => (∃ e', e = part.error e' ∧ err e' (part.get t)) ∧ kept t) s := by
  induction p generalizing s with
  | pure a => exact ⟨meets, here⟩
  | throw e => exact ⟨⟨e, rfl, meets⟩, here⟩
  | step label effect next ih =>
    intro t moved inv i t' allowed ran
    obtain ⟨rely, here⟩ := moves s t moved here
    obtain ⟨inv', allowed'⟩ := ready label i t inv here allowed
    obtain ⟨u, done, rfl⟩ := Option.map_eq_some_iff.mp ran
    obtain ⟨inv', guar, rest⟩ := meets _ rely inv' _ u allowed' done
    obtain ⟨made, guar', here⟩ := makes label i t u inv here inv' guar
    exact ⟨made, guar', ih _ _ here ((part.get_set t u).symm ▸ rest)⟩

/-- The same, whatever is thrown. -/
theorem Meets.zoom {part : Part σ ι ℓ ε σ' ι' ℓ' ε'} {d : Contract σ' ι' ℓ'} {kept : σ' → Prop}
    {p : Proc σ ι ℓ ε α} {s : σ'}
    (moves : ∀ s t, d.rely s t → kept s → c.rely (part.get s) (part.get t) ∧ kept t)
    (ready : ∀ label i t, d.inv t → kept t → d.allowed (part.label label) i t →
      c.inv (part.get t) ∧ c.allowed label (part.answer i) (part.get t))
    (makes : ∀ label i t u, d.inv t → kept t → c.inv u →
      c.guar label (part.answer i) (part.get t) u →
        d.inv (part.set t u) ∧ d.guar (part.label label) i t (part.set t u) ∧ kept (part.set t u))
    (here : kept s) (meets : p.Meets c post err (part.get s)) :
    (p.zoom part).Meets d (fun a t => post a (part.get t) ∧ kept t) (fun _ => kept) s :=
  (Meets.zoom_throws moves ready makes here meets).imp (fun _ _ ended => ended)
    fun _ _ ended => ended.2

/-- A loop whose invariant says which turns were made. -/
theorem meets_each_prefix {rows : List β} {body : β → Proc σ ι ℓ ε Unit}
    {kept : List β → σ → Prop} {made : List β} {s : σ} (start : kept made s)
    (turn : ∀ past b rest, made ++ rows = past ++ b :: rest → ∀ s, kept past s →
      (body b).Meets c (fun _ => kept (past ++ [b])) err s) :
    (each rows body).Meets c (fun _ => kept (made ++ rows)) err s := by
  induction rows generalizing made s with
  | nil => simpa [each] using start
  | cons b rest ih =>
    simp only [each, meets_bind]
    apply (turn made b rest rfl s start).imp
    · intro _ t here
      have whole : made ++ b :: rest = (made ++ [b]) ++ rest := by simp
      rw [whole]
      apply ih here
      intro past b' rest' split
      exact turn past b' rest' (whole.trans split)
    · exact fun _ _ h => h

end Proc

end Bitmonie
