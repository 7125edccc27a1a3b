import Bitmonie.Interleaving
import Bitmonie.IdempotencyInterceptor

/-! Whether the handler of an idempotency key is executed once, when any number of requests that
carry it are under way, handlers take any time and keys run out. -/
namespace Bitmonie.IdempotencyInterceptor
open Expiring

def Phase.isSucceeded : Phase → Bool
  | .succeeded .. => true
  | _ => false

def Phase.isRunning (tid : Nat) : Phase → Bool
  | .running other _ => other = tid
  | _ => false

/-- A marker is not set while a response waits to be stored; and a handler succeeds for the
request that has set the marker last. -/
def undisturbed (label : InterceptorAccess) (i : Reply HandlerReply) (s : Store) : Bool :=
  i.fails || match label with
  | .setMarker key => (find (s.now + i.elapsed) s.keys key).isSome || !(s.phase key).isSucceeded
  | .handle tid key => i.data.response.isNone || (s.phase key).isRunning tid
  | _ => true

/-- The time for which a response is kept. -/
def window : Int := idempotencyTtlSec * 1000

/-- Until its time is over, an execution is followed by replays of its response only. -/
def Agrees (first later : Served) : Prop :=
  first.key = later.key → first.kind = .executed → later.servedAt < first.servedAt + window →
    later.kind = .replayed ∧ later.response = first.response

/-- Each key is executed once in its time, and what is replayed was executed before. -/
structure Once (history : List Served) : Prop where
  agrees : history.Pairwise Agrees
  produced : ∀ later ∈ history, later.kind = .replayed → ∃ first ∈ history, first.kind = .executed ∧
    first.key = later.key ∧ first.response = later.response ∧ first.servedAt ≤ later.servedAt

theorem Once.nil : Once [] := ⟨.nil, by simp⟩

theorem Once.concat {history : List Served} {served : Served} (once : Once history)
    (agrees : ∀ first ∈ history, Agrees first served)
    (produced : served.kind = .replayed → ∃ first ∈ history, first.kind = .executed ∧
      first.key = served.key ∧ first.response = served.response ∧ first.servedAt ≤ served.servedAt) :
    Once (history ++ [served]) := by
  constructor
  · rw [List.pairwise_append]
    refine ⟨once.agrees, List.pairwise_singleton .., fun first member later new => ?_⟩
    obtain rfl := List.mem_singleton.mp new
    exact agrees first member
  · intro later member replayed
    have found : ∃ first ∈ history, first.kind = .executed ∧ first.key = later.key ∧
        first.response = later.response ∧ first.servedAt ≤ later.servedAt := by
      rcases List.mem_append.mp member with old | new
      · exact once.produced later old replayed
      · obtain rfl := List.mem_singleton.mp new
        exact produced replayed
    obtain ⟨first, there, rest⟩ := found
    exact ⟨first, List.mem_append_left _ there, rest⟩

/-- Every execution of the key is over by then. -/
def Past (key : RedisKey) (time : Int) (history : List Served) : Prop :=
  ∀ e ∈ history, e.key = key → e.kind = .executed → e.servedAt + window ≤ time

/-- The last execution of the key; those before it are over by then. -/
structure Latest (key : RedisKey) (last : Served) (history : List Served) : Prop where
  member : last ∈ history
  ofKey : last.key = key
  executed : last.kind = .executed
  others : ∀ e ∈ history, e.key = key → e.kind = .executed → e = last ∨
    e.servedAt + window ≤ last.servedAt

def Stands (key : RedisKey) (s : Store) : Prop :=
  match s.phase key with
  | .idle => s.keys key = none ∧ ∀ e ∈ s.history, e.key = key → e.kind ≠ .executed
  | .running _ since => since ≤ s.now ∧ (∀ entry, s.keys key = some entry → entry.value = .inFlight) ∧
      Past key since s.history
  | .succeeded _ response => (∀ entry, s.keys key = some entry → entry.value = .inFlight) ∧
      ∃ last, Latest key last s.history ∧ last.response = response ∧ last.servedAt ≤ s.now
  | .stored => ∃ last expiresAt, Latest key last s.history ∧ last.servedAt ≤ s.now ∧
      s.keys key = some ⟨.cached last.response, some expiresAt⟩ ∧ last.servedAt + window ≤ expiresAt

structure Guarded (s : Store) : Prop where
  once : Once s.history
  stands : ∀ key, Stands key s

/-- A response that waits to be stored is that of the request that has set the marker. -/
def Waits (tid : Nat) (s t : Store) : Prop :=
  ∀ key response, s.phase key = .succeeded tid response → t.phase key = .succeeded tid response

def executing : Discipline Store (Reply HandlerReply) InterceptorAccess where
  inv := Guarded
  allowed label i s := undisturbed label i s = true
  fresh _ _ := True
  rely := Waits
  guar tid _ _ s t := ∀ other, tid ≠ other → Waits other s t

theorem Waits.refl (tid : Nat) (s : Store) : Waits tid s s := fun _ _ succeeded => succeeded

theorem executing_sound : executing.Sound where
  refl := Waits.refl
  trans _ _ _ _ first second key response succeeded := second key response (first key response succeeded)
  compatible _ j _ _ _ _ different _ guar := guar j different
  fresh _ _ _ _ _ := trivial

section Steps
variable {tid : Nat} {key other : RedisKey} {response : CachedResponse} {s t : Store}

structure SameAt (key : RedisKey) (s t : Store) : Prop where
  phase : t.phase key = s.phase key
  keys : t.keys key = s.keys key
  now : s.now ≤ t.now
  history : ∀ e, e.key = key → e.kind = .executed → (e ∈ t.history ↔ e ∈ s.history)

theorem SameAt.past {time : Int} (same : SameAt key s t) (past : Past key time s.history) :
    Past key time t.history :=
  fun e member ofKey executed => past e ((same.history e ofKey executed).mp member) ofKey executed

theorem SameAt.latest {last : Served} (same : SameAt key s t) (latest : Latest key last s.history) :
    Latest key last t.history where
  member := (same.history last latest.ofKey latest.executed).mpr latest.member
  ofKey := latest.ofKey
  executed := latest.executed
  others e member ofKey executed :=
    latest.others e ((same.history e ofKey executed).mp member) ofKey executed

theorem SameAt.stands (same : SameAt key s t) (stands : Stands key s) : Stands key t := by
  have later := same.now
  unfold Stands at stands ⊢
  rw [same.phase, same.keys]
  cases phase : s.phase key with
  | idle =>
    simp only [phase] at stands ⊢
    refine ⟨stands.1, fun e member ofKey executed => ?_⟩
    exact stands.2 e ((same.history e ofKey executed).mp member) ofKey executed
  | running tid since =>
    simp only [phase] at stands ⊢
    exact ⟨by omega, stands.2.1, same.past stands.2.2⟩
  | succeeded tid response =>
    simp only [phase] at stands ⊢
    obtain ⟨unstored, last, latest, answered, before⟩ := stands
    exact ⟨unstored, last, same.latest latest, answered, by omega⟩
  | stored =>
    simp only [phase] at stands ⊢
    obtain ⟨last, expiresAt, latest, before, cached, lasts⟩ := stands
    exact ⟨last, expiresAt, same.latest latest, by omega, cached, lasts⟩

theorem Guarded.tick (guarded : Guarded s) (elapsed : Nat) :
    Guarded (Clocked.tick elapsed s) ∧ ∀ tid, Waits tid s (Clocked.tick elapsed s) := by
  refine ⟨⟨guarded.once, fun key => ?_⟩, fun tid => .refl tid s⟩
  have later : s.now ≤ s.now + elapsed := by omega
  exact SameAt.stands (s := s) ⟨rfl, rfl, later, fun _ _ _ => Iff.rfl⟩ (guarded.stands key)

/-- Whatever is executed later is so after the time of what stands in the way. -/
theorem Latest.past {last : Served} {time : Int} {history : List Served} (latest : Latest key last history)
    (before : last.servedAt ≤ time) (lasts : last.servedAt + window ≤ time) : Past key time history := by
  intro e member ofKey executed
  rcases latest.others e member ofKey executed with rfl | earlier
  · exact lasts
  · omega

/-- A marker can be set when all that was executed is over, or waits to be stored. -/
theorem Stands.past (stands : Stands key s) (free : find s.now s.keys key = none)
    (stored : (s.phase key).isSucceeded = false) : Past key s.now s.history := by
  unfold Stands at stands
  cases phase : s.phase key with
  | idle =>
    simp only [phase] at stands
    exact fun e member ofKey executed => absurd executed (stands.2 e member ofKey)
  | running tid since =>
    simp only [phase] at stands
    intro e member ofKey executed
    have ended := stands.2.2 e member ofKey executed
    omega
  | succeeded tid response => simp [phase, Phase.isSucceeded] at stored
  | stored =>
    simp only [phase] at stands
    obtain ⟨last, expiresAt, latest, before, cached, lasts⟩ := stands
    have expired : expiresAt ≤ s.now := by
      by_contra live
      have found : find s.now s.keys key = some ⟨.cached last.response, some expiresAt⟩ :=
        find_eq_some.mpr ⟨cached, by simpa [Entry.live] using live⟩
      rw [free] at found
      cases found
    exact latest.past before (by omega)

theorem Guarded.mark (guarded : Guarded s) (free : find s.now s.keys key = none)
    (stored : (s.phase key).isSucceeded = false) (expiresAt : Option Int) :
    let t := { s with
      keys := set s.keys key .inFlight expiresAt
      phase := Function.update s.phase key (.running tid s.now) }
    Guarded t ∧ ∀ other, Waits other s t := by
  refine ⟨⟨guarded.once, fun other => ?_⟩, fun other k response succeeded => ?_⟩
  · by_cases here : other = key
    · subst here
      have past := (guarded.stands other).past free stored
      unfold Stands
      simp only [Function.update_self, set_self]
      refine ⟨le_refl _, fun entry same => ?_, past⟩
      rw [← Option.some.inj same]
    · refine SameAt.stands ⟨?_, set_of_ne here, le_refl _, fun _ _ _ => Iff.rfl⟩ (guarded.stands other)
      exact Function.update_of_ne here ..
  · by_cases here : k = key
    · subst here
      simp [succeeded, Phase.isSucceeded] at stored
    · exact (Function.update_of_ne here ..).trans succeeded

/-- A response can only be read once it is stored. -/
theorem Stands.cached (stands : Stands key s) (found : get s.now s.keys key = some (.cached response)) :
    ∃ last, Latest key last s.history ∧ last.servedAt ≤ s.now ∧ last.response = response := by
  obtain ⟨entry, there, _, value⟩ := get_eq_some.mp found
  unfold Stands at stands
  cases phase : s.phase key with
  | idle =>
    simp only [phase] at stands
    rw [stands.1] at there
    cases there
  | running tid since =>
    simp only [phase] at stands
    cases (stands.2.1 entry there).symm.trans value
  | succeeded tid response =>
    simp only [phase] at stands
    cases (stands.1 entry there).symm.trans value
  | stored =>
    simp only [phase] at stands
    obtain ⟨last, expiresAt, latest, before, cached, _⟩ := stands
    obtain rfl := Option.some.inj (cached.symm.trans there)
    simp only [Stored.cached.injEq] at value
    exact ⟨last, latest, before, value⟩

theorem Guarded.replay (guarded : Guarded s) (key : RedisKey) :
    let t := { s with history := s.history ++ replay key s }
    Guarded t ∧ ∀ other, Waits other s t := by
  refine ⟨?_, fun other => .refl other s⟩
  unfold IdempotencyInterceptor.replay
  split
  · rename_i response found
    obtain ⟨last, latest, before, answered⟩ := (guarded.stands key).cached found
    refine ⟨guarded.once.concat (fun first member same executed inTime => ⟨rfl, ?_⟩) fun _ => ?_, ?_⟩
    · rcases latest.others first member same executed with rfl | earlier
      · exact answered.symm
      · simp only at inTime
        omega
    · exact ⟨last, latest.member, latest.executed, latest.ofKey, answered, before⟩
    · intro other
      refine SameAt.stands (s := s) ⟨rfl, rfl, le_refl _, fun e ofKey executed => ?_⟩
        (guarded.stands other)
      simp only [List.mem_append, List.mem_singleton, or_iff_left_iff_imp]
      rintro rfl
      cases executed
  · simpa using guarded

theorem Guarded.execute {since : Int} (guarded : Guarded s)
    (response : CachedResponse) (running : s.phase key = .running tid since) :
    let t := { s with
      phase := Function.update s.phase key (.succeeded tid response)
      history := s.history ++ [⟨key, .executed, response, s.now⟩] }
    Guarded t ∧ ∀ other, Waits other s t := by
  have stands := guarded.stands key
  unfold Stands at stands
  simp only [running] at stands
  obtain ⟨before, unstored, past⟩ := stands
  refine ⟨⟨guarded.once.concat (fun first member same executed inTime => ?_) fun replayed => ?_,
    fun other => ?_⟩, fun other k response' succeeded => ?_⟩
  · have ended := past first member same executed
    simp only at inTime
    omega
  · cases replayed
  · by_cases here : other = key
    · subst here
      unfold Stands
      simp only [Function.update_self]
      refine ⟨unstored, _, ⟨List.mem_append_right _ (List.mem_singleton_self _), rfl, rfl, ?_⟩, rfl,
        le_refl _⟩
      intro e member ofKey executed
      rcases List.mem_append.mp member with old | new
      · have ended := past e old ofKey executed
        exact .inr (by simp only; omega)
      · exact .inl (List.mem_singleton.mp new)
    · refine SameAt.stands ⟨Function.update_of_ne here .., rfl, le_refl _, fun e ofKey executed => ?_⟩
        (guarded.stands other)
      simp only [List.mem_append, List.mem_singleton, or_iff_left_iff_imp]
      rintro rfl
      exact absurd ofKey.symm here
  · by_cases here : k = key
    · subst here
      cases succeeded.symm.trans running
    · exact (Function.update_of_ne here ..).trans succeeded

theorem Guarded.store (guarded : Guarded s) (succeeded : s.phase key = .succeeded tid response) :
    let t := { s with
      keys := set s.keys key (.cached response) (some (s.now + window))
      phase := Function.update s.phase key .stored }
    Guarded t ∧ ∀ other, tid ≠ other → Waits other s t := by
  have stands := guarded.stands key
  unfold Stands at stands
  simp only [succeeded] at stands
  obtain ⟨_, last, latest, answered, before⟩ := stands
  refine ⟨⟨guarded.once, fun other => ?_⟩, fun other different k response' waiting => ?_⟩
  · by_cases here : other = key
    · subst here
      unfold Stands
      simp only [Function.update_self, set_self]
      exact ⟨last, _, latest, before, by rw [answered], by omega⟩
    · exact SameAt.stands ⟨Function.update_of_ne here .., set_of_ne here, le_refl _,
        fun _ _ _ => Iff.rfl⟩ (guarded.stands other)
  · by_cases here : k = key
    · subst here
      rw [succeeded] at waiting
      simp only [Phase.succeeded.injEq] at waiting
      exact absurd waiting.1 different
    · exact (Function.update_of_ne here ..).trans waiting

end Steps

section Meets
variable {tid : Nat} {key : RedisKey} {response : CachedResponse} {s : Store}

/-- A step that does what it does after some time, or nothing. -/
theorem step_meets {α : Type} {label : InterceptorAccess} {post : α → Store → Prop}
    {f : HandlerReply → Store → Except InterceptorError α × Store}
    (does : ∀ i t u, Waits tid s t → u = Clocked.tick i.elapsed t → Guarded u → i.fails = false →
      undisturbed label i t = true → Guarded (f i.data u).2 ∧
        (∀ other, tid ≠ other → Waits other u (f i.data u).2) ∧
        ∀ a, (f i.data u).1 = .ok a → post a (f i.data u).2) :
    (statement .unavailable label f).Meets (executing.contract tid) post (fun _ _ => True) s := by
  refine statement_meets fun t waits guarded i allowed => ?_
  obtain ⟨ticked, ticks⟩ := guarded.tick i.elapsed
  refine ⟨fun _ => ⟨ticked, fun other _ => ticks other, trivial⟩, fun made => ?_⟩
  obtain ⟨guarded', kept, ends⟩ := does i t _ waits rfl ticked made allowed
  refine ⟨guarded', fun other different => ?_, fun _ => trivial, fun _ => ?_⟩
  · exact executing_sound.trans _ _ _ _ (ticks other) (kept other different)
  · rcases ended : f i.data (Clocked.tick i.elapsed t) with ⟨_ | a, u⟩
    · trivial
    · simpa [ended] using ends a (by rw [ended])

theorem getKey_meets : (getKey key).Meets (executing.contract tid) (fun _ _ => True)
    (fun _ _ => True) s := by
  refine step_meets fun i t u _ _ guarded _ _ => ?_
  obtain ⟨guarded', kept⟩ := guarded.replay key
  exact ⟨guarded', fun other _ => kept other, fun _ _ => trivial⟩

theorem setMarker_meets : (setMarker tid key).Meets (executing.contract tid) (fun _ _ => True)
    (fun _ _ => True) s := by
  refine step_meets fun i t u _ ticked guarded made calm => ?_
  split
  · exact ⟨guarded, fun other _ => .refl other u, fun _ _ => trivial⟩
  rename_i free
  have free : find u.now u.keys key = none := by simpa using free
  have stored : (u.phase key).isSucceeded = false := by
    subst ticked
    have here : find (t.now + i.elapsed) t.keys key = none := free
    have stored : (t.phase key).isSucceeded = false := by
      simpa [undisturbed, made, here] using calm
    exact stored
  obtain ⟨guarded', kept⟩ := guarded.mark free stored _
  exact ⟨guarded', fun other _ => kept other, fun _ _ => trivial⟩

theorem handle_meets : (handle tid key).Meets (executing.contract tid)
    (fun response t => t.phase key = .succeeded tid response) (fun _ _ => True) s := by
  refine step_meets fun i t u _ ticked guarded made calm => ?_
  cases answered : i.data.response with
  | none => exact ⟨guarded, fun other _ => .refl other u, fun _ ended => by cases ended⟩
  | some response =>
    have runs : (u.phase key).isRunning tid = true := by
      subst ticked
      have runs : (t.phase key).isRunning tid = true := by
        simpa [undisturbed, made, answered] using calm
      exact runs
    cases phase : u.phase key with
    | running other since =>
      obtain rfl : other = tid := by simpa [phase, Phase.isRunning] using runs
      obtain ⟨guarded', kept⟩ := guarded.execute response phase
      refine ⟨guarded', fun other _ => kept other, fun a ended => ?_⟩
      obtain rfl := Except.ok.inj ended
      exact Function.update_self ..
    | idle => simp [phase, Phase.isRunning] at runs
    | succeeded other response => simp [phase, Phase.isRunning] at runs
    | stored => simp [phase, Phase.isRunning] at runs

theorem storeResponse_meets (succeeded : s.phase key = .succeeded tid response) :
    (storeResponse key response).Meets (executing.contract tid) (fun _ _ => True)
      (fun _ _ => True) s := by
  refine step_meets fun i t u waits ticked guarded _ _ => ?_
  have still : u.phase key = .succeeded tid response := by
    subst ticked
    exact waits key response succeeded
  obtain ⟨guarded', kept⟩ := guarded.store still
  exact ⟨guarded', kept, fun _ _ => trivial⟩

theorem intercept_meets {request : Request} : (intercept tid request).Meets (executing.contract tid)
    (fun _ _ => True) (fun _ _ => True) s := by
  unfold intercept
  cases redisKey request with
  | none =>
    refine step_meets fun i t u _ _ guarded _ _ => ?_
    cases i.data.response <;> exact ⟨guarded, fun other _ => .refl other u, fun _ _ => trivial⟩
  | some key =>
    refine getKey_meets.seq fun existing t _ => ?_
    cases existing with
    | some stored => cases stored <;> trivial
    | none =>
      refine setMarker_meets.seq fun wasSet u _ => ?_
      cases wasSet with
      | false => trivial
      | true =>
        refine handle_meets.seq fun response v succeeded => ?_
        rw [Proc.meets_bind, Proc.meets_catching]
        exact (storeResponse_meets succeeded).imp (fun _ _ _ => trivial) fun _ _ _ => trivial

end Meets

structure Initial (s : Store) : Prop where
  keys : ∀ key, s.keys key = none
  phase : ∀ key, s.phase key = .idle
  history : s.history = []

theorem Initial.guarded {s : Store} (initial : Initial s) : Guarded s := by
  refine ⟨initial.history ▸ .nil, fun key => ?_⟩
  unfold Stands
  simp only [initial.phase key]
  exact ⟨initial.keys key, by simp [initial.history]⟩

/-- In a run that nothing disturbs, a key is executed once in its time, and what is replayed is
the response of that execution. -/
theorem key_executed_once {s₀ : Store}
    {trace : List (Nat × Event Store (Reply HandlerReply) InterceptorAccess)}
    {c : Config Store (Reply HandlerReply) InterceptorAccess InterceptorError CachedResponse}
    (initial : Initial s₀) (run : Runs intercept s₀ trace c)
    (calm : ∀ e ∈ trace, undisturbed e.2.label e.2.answer e.2.before = true) :
    Once c.shared.history := by
  have held : executing.Holds (fun _ _ _ => True) (fun _ _ _ => True) trace c :=
    run.holds executing_sound (fun _ _ _ _ _ h => h) (fun _ _ _ _ _ h => h) initial.guarded
      (fun _ => trivial) (fun _ _ _ _ _ => intercept_meets) calm
  exact held.inv.once

def opened : Store where
  now := 0

theorem opened_initial : Initial opened := ⟨fun _ => rfl, fun _ => rfl, rfl⟩

def checkout : Request where
  method := "POST"
  idempotencyKey := some "key"
  userId := some 0

def after (seconds : Nat) : Reply HandlerReply := { elapsed := seconds * 1000, data := {} }

def answers (seconds : Nat) (body : String) : Reply HandlerReply :=
  { elapsed := seconds * 1000, data := ⟨some ⟨201, body⟩⟩ }

def storedInTime : List (Choice Request (Reply HandlerReply)) :=
  [.start checkout, .run 0 (after 0), .run 0 (after 0), .run 0 (answers 30 "first"), .run 0 (after 1),
    .start checkout, .run 1 (after 3600)]

theorem key_executed_once_sample : ∃ trace c, Runs intercept opened trace c ∧
    c.shared.history.map (·.kind) = [.executed, .replayed] ∧ Once c.shared.history := by
  obtain ⟨trace, c, run, checked⟩ := exists_run intercept opened storedInTime
    (fun trace c => trace.all (fun e => undisturbed e.2.label e.2.answer e.2.before) &&
      c.shared.history.map (·.kind) = [.executed, .replayed]) (by decide +kernel)
  simp only [Bool.and_eq_true, List.all_eq_true, decide_eq_true_eq] at checked
  exact ⟨trace, c, run, checked.2, key_executed_once opened_initial run checked.1⟩

def handledTooLong : List (Choice Request (Reply HandlerReply)) :=
  [.start checkout, .run 0 (after 0), .run 0 (after 0), .start checkout, .run 1 (after 61),
    .run 1 (after 0), .run 0 (answers 1 "first"), .run 1 (answers 1 "second")]

theorem key_executed_twice : ∃ trace c, Runs intercept opened trace c ∧ ¬ Once c.shared.history := by
  obtain ⟨trace, c, run, checked⟩ := exists_run intercept opened handledTooLong
    (fun _ c => c.shared.history = [⟨⟨0, "key"⟩, .executed, ⟨201, "first"⟩, 62000⟩,
      ⟨⟨0, "key"⟩, .executed, ⟨201, "second"⟩, 63000⟩]) (by decide +kernel)
  refine ⟨trace, c, run, fun once => ?_⟩
  have agrees := once.agrees
  rw [of_decide_eq_true checked, List.pairwise_pair] at agrees
  simp [Agrees, window, idempotencyTtlSec] at agrees

end Bitmonie.IdempotencyInterceptor
