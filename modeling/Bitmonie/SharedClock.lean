import Mathlib.Order.Basic
import Mathlib.Logic.Function.Basic
import Bitmonie.Procedure

/-! States with a clock that everyone reads. Time passes before each statement, and a key
with a time to live is not there any more once its time is over. -/
namespace Bitmonie

/-- What the environment decides at one statement. One that `fails` is not made; one whose
answer is `lost` is made, and its caller does not learn of it. -/
structure Reply (ρ : Type) where
  elapsed : Nat := 0
  fails : Bool := false
  lost : Bool := false
  data : ρ

class Clocked (σ : Type) where
  now : σ → Int
  tick : Nat → σ → σ
  now_tick : ∀ elapsed s, now (tick elapsed s) = now s + elapsed

section Statement
variable {σ ρ ℓ ε α : Type} [Clocked σ] {c : Contract σ (Reply ρ) ℓ} {post : α → σ → Prop}
  {err : ε → σ → Prop} {fault : ε} {label : ℓ} {s : σ}

/-- One atomic command, made after some time; it may throw and move the state. -/
def statement (fault : ε) (label : ℓ) (f : ρ → σ → Except ε α × σ) : Proc σ (Reply ρ) ℓ ε α :=
  .access label (fun _ => true) fun i s =>
    let s := Clocked.tick i.elapsed s
    if i.fails then (.error fault, s)
    else (if i.lost then .error fault else (f i.data s).1, (f i.data s).2)

theorem statement_meets {f : ρ → σ → Except ε α × σ}
    (made : ∀ t, c.rely s t → c.inv t → ∀ i, c.allowed label i t →
      let u := Clocked.tick i.elapsed t
      (i.fails = true → c.inv u ∧ c.guar label i t u ∧ err fault u) ∧
      (i.fails = false → c.inv (f i.data u).2 ∧ c.guar label i t (f i.data u).2 ∧
        (i.lost = true → err fault (f i.data u).2) ∧
        (i.lost = false → Proc.outcome post err (f i.data u)))) :
    (statement fault label f).Meets c post err s := by
  rw [statement, Proc.meets_access]
  intro t moved inv _ i allowed
  obtain ⟨failed, wrote⟩ := made t moved inv i allowed
  cases fails : i.fails with
  | true => exact failed fails
  | false =>
    obtain ⟨inv', guar, unsure, ended⟩ := wrote fails
    refine ⟨inv', guar, ?_⟩
    cases lost : i.lost with
    | true => simpa using unsure lost
    | false => simpa using ended lost

/-- A statement that takes effect and is answered. -/
theorem served_meets {f : ρ → σ → Except ε α × σ}
    (made : ∀ t, c.rely s t → c.inv t → ∀ i, c.allowed label i t →
      let u := Clocked.tick i.elapsed t
      (i.fails = false ∧ i.lost = false) ∧ c.inv (f i.data u).2 ∧
        c.guar label i t (f i.data u).2 ∧ Proc.outcome post err (f i.data u)) :
    (statement fault label f).Meets c post err s := by
  refine statement_meets fun t moved inv i allowed => ?_
  obtain ⟨⟨fails, lost⟩, inv', guar, ended⟩ := made t moved inv i allowed
  refine ⟨fun failed => ?_, fun _ => ⟨inv', guar, fun isLost => ?_, fun _ => ended⟩⟩
  · rw [fails] at failed
    cases failed
  · rw [lost] at isLost
    cases isLost

theorem statement_leaves {view : σ → β} {f : ρ → σ → Except ε α × σ}
    (ticked : ∀ elapsed (s : σ), view (Clocked.tick elapsed s) = view s)
    (same : ∀ reply s, view (f reply s).2 = view s) : (statement fault label f).Leaves view := by
  refine Proc.leaves_access fun i s => ?_
  cases fails : i.fails with
  | true => simp [ticked]
  | false => simp [same, ticked]

end Statement

namespace Expiring

structure Entry (α : Type) where
  value : α
  /-- None on a key that stays. -/
  expiresAt : Option Int := none

abbrev Keys (κ α : Type) := κ → Option (Entry α)

variable {κ α : Type} {keys : Keys κ α} {key other : κ} {value : α} {now later : Int}

def Entry.live (now : Int) (entry : Entry α) : Bool := entry.expiresAt.all fun expiresAt => now < expiresAt

def find (now : Int) (keys : Keys κ α) (key : κ) : Option (Entry α) :=
  (keys key).filter (·.live now)

def get (now : Int) (keys : Keys κ α) (key : κ) : Option α := (find now keys key).map (·.value)

theorem find_eq_some {entry : Entry α} :
    find now keys key = some entry ↔ keys key = some entry ∧ entry.live now = true := by
  simp [find, Option.filter_eq_some_iff]

theorem get_eq_some : get now keys key = some value ↔
    ∃ entry, keys key = some entry ∧ entry.live now = true ∧ entry.value = value := by
  simp only [get, Option.map_eq_some_iff, find_eq_some, and_assoc]

/-- A key that is there now was there before. -/
theorem Entry.live_of_later {entry : Entry α} (le : now ≤ later) (lives : entry.live later = true) :
    entry.live now = true := by
  unfold Entry.live at lives ⊢
  cases expiresAt : entry.expiresAt with
  | none => rfl
  | some time =>
    rw [expiresAt] at lives
    simp only [Option.all_some, decide_eq_true_eq] at lives ⊢
    omega

variable [DecidableEq κ]

/-- `SET key value EX ttl` -/
def set (keys : Keys κ α) (key : κ) (value : α) (expiresAt : Option Int) : Keys κ α :=
  Function.update keys key (some ⟨value, expiresAt⟩)

def del (keys : Keys κ α) (key : κ) : Keys κ α := Function.update keys key none

@[simp] theorem set_self {expiresAt : Option Int} :
    set keys key value expiresAt key = some ⟨value, expiresAt⟩ := by simp [set]

@[simp] theorem set_of_ne {expiresAt : Option Int} (different : other ≠ key) :
    set keys key value expiresAt other = keys other := by simp [set, different]

@[simp] theorem del_self : del keys key key = none := by simp [del]

@[simp] theorem del_of_ne (different : other ≠ key) : del keys key other = keys other := by
  simp [del, different]

/-- `EXPIRE key ttl`; a key that is gone stays gone. -/
def expire (now : Int) (keys : Keys κ α) (key : κ) (expiresAt : Int) : Keys κ α :=
  match find now keys key with
  | none => keys
  | some entry => set keys key entry.value (some expiresAt)

/-- `INCR`. A key that is gone starts again, and stays. -/
def incr (now : Int) (keys : Keys κ Nat) (key : κ) : Keys κ Nat :=
  match find now keys key with
  | none => set keys key 1 none
  | some entry => set keys key (entry.value + 1) entry.expiresAt

theorem expire_of_ne {expiresAt : Int} (different : other ≠ key) :
    expire now keys key expiresAt other = keys other := by
  unfold expire
  cases find now keys key with
  | none => rfl
  | some entry => exact set_of_ne different

theorem incr_of_ne {keys : Keys κ Nat} (different : other ≠ key) :
    incr now keys key other = keys other := by
  unfold incr
  cases find now keys key with
  | none => exact set_of_ne different
  | some entry => exact set_of_ne different

end Expiring

end Bitmonie
