import Mathlib.Data.List.Infix
import Bitmonie.TransactionPin

/-! How many wrong PINs are compared between two lockouts, when any number of calls are under
way for a user. -/
namespace Bitmonie.PinGuessing
open AuthService TransactionPinService StepUpService

inductive Operation where
  | requestSetOtp (userId : Nat)
  | requestChangeOtp (userId : Nat)
  | requestDisableOtp (userId : Nat)
  | setPin (userId : Nat) (dto : SetTransactionPinDto)
  | changePin (userId : Nat) (dto : ChangeTransactionPinDto)
  | disablePin (userId : Nat) (dto : DisableTransactionPinDto)
  | verifyPinOrThrow (userId : Nat) (transactionPin : String)
  | verifyTransactionFactor (userId : Nat) (factor : TransactionFactor)

def procedure (argon2 : Argon2) (tid : Nat) : Operation → AuthAction Unit
  | .requestSetOtp userId => requestSetOtp userId
  | .requestChangeOtp userId => requestChangeOtp userId
  | .requestDisableOtp userId => requestDisableOtp userId
  | .setPin userId dto => setPin argon2 tid userId dto
  | .changePin userId dto => changePin argon2 tid userId dto
  | .disablePin userId dto => disablePin argon2 tid userId dto
  | .verifyPinOrThrow userId transactionPin => verifyPinOrThrow argon2 tid userId transactionPin
  | .verifyTransactionFactor userId factor => verifyTransactionFactor argon2 tid userId factor

/-- A correct PIN, a lockout or a new PIN ends a period of guesses. -/
def ends (userId : Nat) : FactorEvent → Bool
  | .compared user _ correct _ => user = userId && correct
  | .locked user | .pinSet user => user = userId
  | .totpVerified .. => false

def isWrong (userId : Nat) : FactorEvent → Bool
  | .compared user _ correct _ => user = userId && !correct
  | _ => false

def guess (userId : Nat) (guesses : Nat) (event : FactorEvent) : Nat :=
  if ends userId event then 0 else if isWrong userId event then guesses + 1 else guesses

def openGuesses (userId : Nat) (events : List FactorEvent) : Nat := events.foldl (guess userId) 0

@[simp] theorem openGuesses_append (userId : Nat) (events : List FactorEvent)
    (event : FactorEvent) : openGuesses userId (events ++ [event]) =
      guess userId (openGuesses userId events) event := by
  simp [openGuesses]

theorem foldl_guess {userId : Nat} {segment : List FactorEvent} (guesses : Nat)
    (lasts : ∀ event ∈ segment, ends userId event = false) :
    segment.foldl (guess userId) guesses = guesses + segment.countP (isWrong userId) := by
  induction segment generalizing guesses with
  | nil => rfl
  | cons event rest ih =>
    have here := lasts event (List.mem_cons_self ..)
    rw [List.foldl_cons, ih _ fun other member => lasts other (List.mem_cons_of_mem _ member),
      List.countP_cons, guess, here]
    cases isWrong userId event <;> simp
    omega

/-- The wrong PINs of a part without an end are still open after it. -/
theorem countP_le_openGuesses {userId : Nat} {past segment : List FactorEvent}
    (lasts : ∀ event ∈ segment, ends userId event = false) :
    segment.countP (isWrong userId) ≤ openGuesses userId (past ++ segment) := by
  rw [openGuesses, List.foldl_append, foldl_guess _ lasts]
  omega

/-- A PIN is compared while no other comparison for the user awaits its write and the row has
the PIN, the counter and the lock that were read; and the counter is written. -/
def exclusive (label : AuthAccess) (i : Reply AuthReply) (s : AuthStore) : Bool :=
  match label with
  | .comparePin userId read => isLocked (s.now + i.elapsed) read || (s.comparing userId = none &&
      (s.users[userId]?).any fun user => user.transactionPinHash = read.transactionPinHash &&
        user.transactionPinFailedAttempts = read.transactionPinFailedAttempts &&
        user.transactionPinLockedUntil = read.transactionPinLockedUntil)
  | .writeAttempts _ => !i.fails
  | _ => true

structure Bounded (s : AuthStore) : Prop where
  counters : ∀ (userId : Nat) (user : User), s.users[userId]? = some user →
    user.transactionPinFailedAttempts < transactionPinMaxAttempts
  /-- The counter has every guess of the period. -/
  counted : ∀ (userId : Nat) (user : User), s.users[userId]? = some user → user.transactionPinHash ≠ none →
    s.comparing userId = none →
      openGuesses userId s.factorEvents ≤ user.transactionPinFailedAttempts
  bounded : ∀ userId past, past <+: s.factorEvents →
    openGuesses userId past ≤ transactionPinMaxAttempts
  unbarred : ∀ userId tid correct barred, .compared userId tid correct barred ∈ s.factorEvents →
    barred = false

def Keeps (tid : Nat) (s t : AuthStore) : Prop :=
  ∀ userId, s.comparing userId = some tid → t.comparing userId = some tid ∧
    openGuesses userId t.factorEvents ≤ openGuesses userId s.factorEvents

def guessing : Discipline AuthStore (Reply AuthReply) AuthAccess where
  inv := Bounded
  allowed label i s := exclusive label i s = true
  fresh _ _ := True
  rely := Keeps
  guar tid _ _ s t := ∀ other, other ≠ tid → Keeps other s t

theorem Keeps.trans {tid : Nat} {r s t : AuthStore} (first : Keeps tid r s)
    (second : Keeps tid s t) : Keeps tid r t := by
  intro userId held
  obtain ⟨held', fewer⟩ := first userId held
  obtain ⟨held'', fewer'⟩ := second userId held'
  exact ⟨held'', fewer'.trans fewer⟩

theorem guessing_sound : guessing.Sound where
  refl _ _ _ held := ⟨held, Nat.le_refl _⟩
  trans _ _ _ _ := Keeps.trans
  compatible _ _ _ _ _ _ different _ guar := guar _ (Ne.symm different)
  fresh _ _ _ _ _ := trivial

def view (s : AuthStore) : List User × List FactorEvent × (Nat → Option Nat) :=
  (s.users, s.factorEvents, s.comparing)

section Steps
variable {s t : AuthStore} {userId tid : Nat} {event : FactorEvent}

theorem keeps_of_view (same : view t = view s) : Keeps tid s t := by
  simp only [view, Prod.mk.injEq] at same
  intro userId held
  rw [same.2.1, same.2.2]
  exact ⟨held, Nat.le_refl _⟩

theorem Bounded.of_view (bounded : Bounded s) (same : view t = view s) : Bounded t := by
  simp only [view, Prod.mk.injEq] at same
  obtain ⟨users, events, comparing⟩ := same
  constructor
  · rw [users]
    exact bounded.counters
  · rw [users, events, comparing]
    exact bounded.counted
  · rw [events]
    exact bounded.bounded
  · rw [events]
    exact bounded.unbarred

/-- Each part of a longer list was there before, but for the whole. -/
theorem bounded_append (bounded : Bounded s)
    (last : ∀ userId, guess userId (openGuesses userId s.factorEvents) event ≤
      transactionPinMaxAttempts) (userId : Nat) (past : List FactorEvent)
    (start : past <+: s.factorEvents ++ [event]) :
    openGuesses userId past ≤ transactionPinMaxAttempts := by
  rcases List.prefix_concat_iff.mp start with rfl | start
  · rw [openGuesses_append]
    exact last userId
  · exact bounded.bounded userId past start

end Steps

section Contracts
variable {argon2 : Argon2} {s : AuthStore} {userId tid : Nat}

/-- The guess of this procedure is counted by `guesses`. -/
def Pending (tid userId guesses : Nat) (s : AuthStore) : Prop :=
  s.comparing userId = some tid ∧ openGuesses userId s.factorEvents ≤ guesses

theorem Pending.mono {guesses : Nat} {t : AuthStore} (pending : Pending tid userId guesses s)
    (moved : Keeps tid s t) : Pending tid userId guesses t := by
  obtain ⟨held, fewer⟩ := moved userId pending.1
  exact ⟨held, fewer.trans pending.2⟩

abbrev Counts {α : Type} (tid : Nat) (p : AuthAction α) : Prop := p.Complies (guessing.contract tid)

/-- A procedure that leaves users and guesses alone. -/
theorem counts_leaves {α : Type} {p : AuthAction α} (leaves : p.Leaves view) : Counts tid p :=
  leaves.complies fun _ _ _ _ same bounded =>
    ⟨Bounded.of_view bounded same, fun _ _ => keeps_of_view same⟩

theorem unlocked_of_filter {now : Int} {user : User}
    (none_ : user.transactionPinLockedUntil.filter (now < ·) = none) : isLocked now user = false := by
  unfold isLocked
  cases until_ : user.transactionPinLockedUntil with
  | none => rfl
  | some unlocksAt => simpa [until_] using none_

/-- A comparison that had the row to itself. -/
theorem Bounded.compare {t : AuthStore} {user row : User} (correct : Bool) (bounded : Bounded t)
    (found : t.users[userId]? = some row) (has : row.transactionPinHash ≠ none)
    (free : t.comparing userId = none)
    (countRead : row.transactionPinFailedAttempts = user.transactionPinFailedAttempts) :
    let v := { t with
      factorEvents := t.factorEvents ++ [.compared userId tid correct false]
      comparing := if writesAfter correct user then Function.update t.comparing userId (some tid)
        else t.comparing }
    Bounded v ∧ (∀ other, other ≠ tid → Keeps other t v) ∧
      (writesAfter correct user = true → Pending tid userId
        (if correct then 0 else user.transactionPinFailedAttempts + 1) v) := by
  intro v
  have room := bounded.counters userId row found
  have counted := bounded.counted userId row found has free
  have here : openGuesses userId v.factorEvents ≤
      if correct then 0 else user.transactionPinFailedAttempts + 1 := by
    cases correct <;> simp [v, guess, ends, isWrong]
    omega
  have elsewhere (other : Nat) (different : other ≠ userId) :
      openGuesses other v.factorEvents = openGuesses other t.factorEvents ∧
        v.comparing other = t.comparing other := by
    refine ⟨?_, ?_⟩
    · simp [v, guess, ends, isWrong, Ne.symm different]
    · dsimp only [v]
      split
      · rw [Function.update_of_ne different]
      · rfl
  refine ⟨⟨bounded.counters, fun other user' found' has' free' => ?_, ?_, ?_⟩, ?_, fun writes => ?_⟩
  · by_cases same : other = userId
    · subst same
      -- Without a write the PIN was right.
      have right : correct = true := by
        cases correct with
        | true => rfl
        | false => simp [v, writesAfter] at free'
      rw [right] at here
      exact here.trans (Nat.zero_le _)
    · rw [(elsewhere other same).1]
      exact bounded.counted other user' found' has' ((elsewhere other same).2 ▸ free')
  · refine bounded_append bounded fun other => ?_
    rw [← openGuesses_append]
    by_cases same : other = userId
    · subst same
      refine here.trans ?_
      split <;> omega
    · have := bounded.bounded other t.factorEvents List.prefix_rfl
      rw [← (elsewhere other same).1] at this
      exact this
  · intro other tid' correct' barred member
    rcases List.mem_append.mp member with old | new
    · exact bounded.unbarred other tid' correct' barred old
    · cases List.mem_singleton.mp new
      rfl
  · intro other different holder held
    have apart : holder ≠ userId := by
      rintro rfl
      rw [free] at held
      cases held
    rw [(elsewhere holder apart).1, (elsewhere holder apart).2]
    exact ⟨held, Nat.le_refl _⟩
  · exact ⟨by simp [v, writes], here⟩

theorem comparePin_meets {user : User} {hash pin : String}
    (has : user.transactionPinHash = some hash) :
    (comparePin argon2 tid userId user hash pin).Meets (guessing.contract tid)
      (fun verdict t => writesAfter verdict.1 user = true → Pending tid userId
        (if verdict.1 then 0 else user.transactionPinFailedAttempts + 1) t)
      (fun _ _ => True) s := by
  rw [comparePin, Proc.meets_access]
  intro t _ bounded _ i allowed
  have ticked : Bounded (Clocked.tick i.elapsed t) := Bounded.of_view bounded rfl
  dsimp only
  cases locked : user.transactionPinLockedUntil.filter ((Clocked.tick i.elapsed t).now < ·) with
  | some unlocksAt => exact ⟨ticked, fun _ _ => keeps_of_view rfl, trivial⟩
  | none =>
    have unlocked : isLocked (t.now + i.elapsed) user = false := unlocked_of_filter locked
    have exclusive := allowed
    simp only [guessing, Discipline.contract, PinGuessing.exclusive, unlocked, Bool.false_or,
      Bool.and_eq_true, decide_eq_true_eq, Option.any_eq_true] at exclusive
    obtain ⟨free, row, found, ⟨pinRead, countRead⟩, lockRead⟩ := exclusive
    have unbarred : ((Clocked.tick i.elapsed t).users[userId]?).any
        (isLocked (Clocked.tick i.elapsed t).now) = false := by
      change (t.users[userId]?).any (isLocked (t.now + i.elapsed)) = false
      rw [found, Option.any_some, isLocked, lockRead]
      exact unlocked
    have has' : row.transactionPinHash ≠ none := by simp [pinRead, has]
    have compared := @Bounded.compare userId tid (Clocked.tick i.elapsed t) user row
      (argon2.verify hash pin) ticked found has' free countRead
    simp only [unbarred]
    exact ⟨compared.1, compared.2.1, compared.2.2⟩

def isComparison : FactorEvent → Bool
  | .compared .. => true
  | _ => false

def Moves (s t : AuthStore) : Prop :=
  t.factorEvents = s.factorEvents ∨
    ∃ event, isComparison event = false ∧ t.factorEvents = s.factorEvents ++ [event]

theorem Moves.guesses {t : AuthStore} (moves : Moves s t) (other : Nat) :
    openGuesses other t.factorEvents ≤ openGuesses other s.factorEvents := by
  rcases moves with same | ⟨event, other_, appended⟩
  · rw [same]
  · rw [appended, openGuesses_append, guess]
    have right : isWrong other event = false := by
      cases event with
      | compared => cases other_
      | _ => rfl
    rw [right]
    split
    · exact Nat.zero_le _
    · simp

theorem Moves.bounded {t : AuthStore} (moves : Moves s t) (bounded : Bounded s) (past : List FactorEvent)
    (start : past <+: t.factorEvents) : openGuesses userId past ≤ transactionPinMaxAttempts := by
  have whole (user : Nat) := (moves.guesses user).trans (bounded.bounded user _ List.prefix_rfl)
  rcases moves with same | ⟨event, _, appended⟩
  · exact bounded.bounded userId past (same ▸ start)
  · rw [appended] at start
    simp only [appended, openGuesses_append] at whole
    exact bounded_append bounded whole userId past start

theorem Moves.unbarred {t : AuthStore} {correct barred : Bool} (moves : Moves s t) (bounded : Bounded s)
    (member : .compared userId tid correct barred ∈ t.factorEvents) : barred = false := by
  rcases moves with same | ⟨event, other_, appended⟩
  · exact bounded.unbarred userId tid correct barred (same ▸ member)
  · rw [appended] at member
    rcases List.mem_append.mp member with old | new
    · exact bounded.unbarred userId tid correct barred old
    · obtain rfl := List.mem_singleton.mp new
      cases other_

theorem Bounded.moved {t : AuthStore} (bounded : Bounded s) (moves : Moves s t)
    (users : t.users = s.users) (comparing : t.comparing = s.comparing) : Bounded t where
  counters := by
    rw [users]
    exact bounded.counters
  counted other user found has free := by
    rw [users] at found
    rw [comparing] at free
    exact (moves.guesses other).trans (bounded.counted other user found has free)
  bounded _ past start := moves.bounded bounded past start
  unbarred _ _ _ _ member := moves.unbarred bounded member

theorem Bounded.update {t : AuthStore} {new : User} (bounded : Bounded s) (moves : Moves s t)
    (users : t.users = s.users.set userId new)
    (room : new.transactionPinFailedAttempts < transactionPinMaxAttempts)
    (counted : new.transactionPinHash ≠ none → t.comparing userId = none →
      openGuesses userId t.factorEvents ≤ new.transactionPinFailedAttempts)
    (comparing : ∀ other, other ≠ userId → t.comparing other = s.comparing other) : Bounded t where
  counters other user found := by
    rw [users] at found
    rcases getElem?_set_cases found with ⟨rfl, rfl⟩ | ⟨_, found⟩
    · exact room
    · exact bounded.counters other user found
  counted other user found has free := by
    rw [users] at found
    rcases getElem?_set_cases found with ⟨rfl, rfl⟩ | ⟨different, found⟩
    · exact counted has free
    · rw [comparing other different] at free
      exact (moves.guesses other).trans (bounded.counted other user found has free)
  bounded _ past start := moves.bounded bounded past start
  unbarred _ _ _ _ member := moves.unbarred bounded member

/-- What a command does once its time has passed. -/
theorem command_meets {α : Type} {fault : AuthError} {label : AuthAccess}
    {f : AuthReply → AuthStore → Except AuthError α × AuthStore} {kept : AuthStore → Prop}
    (here : kept s) (stays : ∀ s t, Keeps tid s t → kept s → kept t)
    (does : ∀ reply t, Bounded t → kept t → Bounded (f reply t).2 ∧
      ∀ other, other ≠ tid → Keeps other t (f reply t).2) :
    (statement fault label f).Meets (guessing.contract tid) (fun _ _ => True) (fun _ _ => True) s := by
  refine statement_meets fun t moved bounded i _ => ?_
  have ticked : Bounded (Clocked.tick i.elapsed t) := Bounded.of_view bounded rfl
  have waits (other : Nat) : Keeps other t (Clocked.tick i.elapsed t) := keeps_of_view rfl
  refine ⟨fun _ => ⟨ticked, fun other _ => waits other, trivial⟩, fun _ => ?_⟩
  obtain ⟨bounded', keeps⟩ := does i.data _ ticked (stays _ _ ((moved : Keeps tid s t).trans (waits tid)) here)
  refine ⟨bounded', fun other different => (waits other).trans (keeps other different),
    fun _ => trivial, fun _ => ?_⟩
  rcases f i.data (Clocked.tick i.elapsed t) with ⟨_ | _, _⟩ <;> trivial

theorem writeAttempts_meets {guesses attempts : Nat} {lockedUntil : Option Int}
    (pending : Pending tid userId guesses s) (room : attempts < transactionPinMaxAttempts)
    (enough : lockedUntil = none → guesses ≤ attempts) :
    (writeAttempts tid userId attempts lockedUntil).Meets (guessing.contract tid)
      (fun _ _ => True) (fun _ _ => True) s := by
  refine command_meets pending (fun _ _ moved pending => pending.mono moved) fun _ t bounded pending => ?_
  obtain ⟨held, fewer⟩ := pending
  cases found : t.users[userId]? with
  | none => exact ⟨bounded, fun _ _ => keeps_of_view rfl⟩
  | some user =>
    dsimp only
    rw [if_pos held]
    have apart (other : Nat) (different : other ≠ userId) :
        Function.update t.comparing userId none other = t.comparing other :=
      Function.update_of_ne different ..
    have moves : Moves t { t with
        users := t.users.set userId { user with
          transactionPinFailedAttempts := attempts
          transactionPinLockedUntil := lockedUntil }
        factorEvents :=
          if lockedUntil.isSome then t.factorEvents ++ [.locked userId] else t.factorEvents
        comparing := Function.update t.comparing userId none } := by
      cases lockedUntil with
      | none => exact .inl rfl
      | some unlocksAt => exact .inr ⟨.locked userId, rfl, rfl⟩
    refine ⟨bounded.update moves rfl room (fun _ _ => ?_) apart, fun other different holder held' => ?_⟩
    · cases lockedUntil with
      | none => exact fewer.trans (enough rfl)
      | some unlocksAt => simp [guess, ends]
    · -- The guess that is counted now is of this procedure.
      have elsewhere : holder ≠ userId := by
        rintro rfl
        rw [held] at held'
        exact different (Option.some.inj held').symm
      exact ⟨(apart holder elsewhere).trans held', moves.guesses holder⟩

theorem counts_writePin {hashed : Option (Nat → String)} : Counts tid (writePin userId hashed) := by
  intro s
  have start : (fun _ : AuthStore => True) s := trivial
  refine command_meets start (fun _ _ _ _ => trivial) fun i t bounded _ => ?_
  dsimp only
  generalize hashed.map (· i.random) = hash
  cases found : t.users[userId]? with
  | none => exact ⟨bounded, fun _ _ => keeps_of_view rfl⟩
  | some user =>
    have moves : Moves t { t with
        users := t.users.set userId { user with
          transactionPinHash := hash
          transactionPinSetAt := hash.map fun _ => t.now
          transactionPinFailedAttempts := 0
          transactionPinLockedUntil := none }
        factorEvents := if hash.isSome then t.factorEvents ++ [.pinSet userId] else t.factorEvents } := by
      cases hash with
      | none => exact .inl rfl
      | some hash => exact .inr ⟨.pinSet userId, rfl, rfl⟩
    refine ⟨bounded.update moves rfl (Nat.succ_pos 4) (fun has _ => ?_) fun _ _ => rfl,
      fun _ _ holder held => ⟨held, moves.guesses holder⟩⟩
    cases hash with
    | none => exact absurd rfl has
    | some hash => simp [guess, ends]

theorem findUser_leaves : (findUser userId).Leaves view := by
  refine statement_leaves (fun _ _ => rfl) fun _ s => ?_
  cases s.users[userId]? <;> rfl

theorem counts_findUser : Counts tid (findUser userId) := counts_leaves findUser_leaves

theorem counts_verifyTotpForUser {totpCode : String} :
    Counts tid (verifyTotpForUser tid userId totpCode) := by
  refine counts_findUser.bind fun user => ?_
  split
  · exact Proc.complies_throw
  intro s
  rw [Proc.meets_access]
  intro t _ bounded _ i _
  have ticked : Bounded (Clocked.tick i.elapsed t) := Bounded.of_view bounded rfl
  dsimp only
  split
  · have moves : Moves t { Clocked.tick i.elapsed t with
        factorEvents := t.factorEvents ++ [.totpVerified userId tid] } := .inr ⟨_, rfl, rfl⟩
    exact ⟨Bounded.moved bounded moves rfl rfl,
      fun _ _ holder held => ⟨held, moves.guesses holder⟩, trivial⟩
  · exact ⟨ticked, fun _ _ => keeps_of_view rfl, trivial⟩

/-- The counter that is written has the guess of this call and all before it. -/
theorem counts_verifyCurrentPinOrThrow {pin : String} :
    Counts tid (verifyCurrentPinOrThrow argon2 tid userId pin) := by
  refine counts_findUser.bind fun user => ?_
  cases has : user.transactionPinHash with
  | none => exact Proc.complies_throw
  | some hash =>
    intro s
    dsimp only
    refine (comparePin_meets has).seq ?_
    intro verdict t pending
    obtain ⟨ok, now⟩ := verdict
    cases ok with
    | true =>
      dsimp only
      rw [if_pos rfl]
      split
      · rename_i writes
        exact writeAttempts_meets (pending writes) (Nat.succ_pos 4) fun _ => Nat.le_refl 0
      · trivial
    | false =>
      have pending := pending rfl
      dsimp only
      rw [if_neg Bool.false_ne_true]
      split
      · have lifted (impossible : some (now + transactionPinLockoutSec * 1000) = none) :
            user.transactionPinFailedAttempts + 1 ≤ 0 := by cases impossible
        exact (writeAttempts_meets pending (Nat.succ_pos 4) lifted).seq fun _ _ _ => trivial
      · rename_i room
        exact (writeAttempts_meets pending (Nat.lt_of_not_le room) fun _ => Nat.le_refl _).seq
          fun _ _ _ => trivial

theorem statement_leaves {α : Type} {fault : AuthError} {label : AuthAccess}
    {f : AuthReply → AuthStore → Except AuthError α × AuthStore}
    (same : ∀ reply t, view (f reply t).2 = view t) : (statement fault label f).Leaves view :=
  Bitmonie.statement_leaves (fun _ _ => rfl) same

theorem sendOtp_leaves {key : OtpKey} : (sendOtp key).Leaves view := by
  refine Proc.Leaves.bind (statement_leaves fun _ _ => rfl) fun _ => ?_
  refine Proc.Leaves.bind (statement_leaves fun _ _ => rfl) fun _ => ?_
  exact statement_leaves fun _ _ => rfl

theorem counts_sendTransactionPinOtp {purpose : UserScopedPurpose} :
    Counts tid (sendTransactionPinOtp userId purpose) :=
  counts_leaves (findUser_leaves.bind fun _ => sendOtp_leaves)

theorem consumeOtp_leaves {key : OtpKey} {otp : String} : (consumeOtp tid key otp).Leaves view := by
  refine Proc.Leaves.bind (statement_leaves fun _ _ => rfl) fun attempts => ?_
  split
  · trivial
  refine Proc.Leaves.bind (statement_leaves fun _ _ => rfl) fun stored => ?_
  cases stored with
  | none => trivial
  | some code =>
    refine Proc.Leaves.bind (statement_leaves fun _ _ => rfl) fun _ => ?_
    refine Proc.Leaves.bind (statement_leaves fun _ _ => rfl) fun _ => ?_
    refine Proc.Leaves.bind (Proc.leaves_access fun _ _ => rfl) fun _ => ?_
    refine Proc.Leaves.bind (statement_leaves fun _ _ => rfl) fun _ => ?_
    refine Proc.Leaves.bind (statement_leaves fun _ _ => rfl) fun _ => ?_
    exact Proc.leaves_access fun _ _ => rfl

theorem counts_consumeTransactionPinOtp {purpose : UserScopedPurpose} {otp : String} :
    Counts tid (consumeTransactionPinOtp tid userId purpose otp) :=
  counts_leaves consumeOtp_leaves

theorem counts_assertHasAnyFactorConfigured : Counts tid (assertHasAnyFactorConfigured userId) := by
  refine counts_findUser.bind fun user => ?_
  split <;> exact fun _ => trivial

theorem counts_procedure {operation : Operation} : Counts tid (procedure argon2 tid operation) := by
  cases operation with
  | requestSetOtp userId =>
    refine counts_findUser.bind fun user => ?_
    split
    · exact Proc.complies_throw
    · exact counts_sendTransactionPinOtp
  | requestChangeOtp userId =>
    refine counts_findUser.bind fun user => ?_
    split
    · exact Proc.complies_throw
    · exact counts_sendTransactionPinOtp
  | requestDisableOtp userId =>
    refine counts_findUser.bind fun user => ?_
    split
    · exact Proc.complies_throw
    · exact counts_sendTransactionPinOtp
  | setPin userId dto =>
    refine counts_findUser.bind fun user => ?_
    split
    · exact Proc.complies_throw
    · exact counts_consumeTransactionPinOtp.bind fun _ => counts_writePin
  | changePin userId dto =>
    exact counts_verifyCurrentPinOrThrow.bind fun _ =>
      counts_consumeTransactionPinOtp.bind fun _ => counts_writePin
  | disablePin userId dto =>
    refine Proc.Complies.bind ?_ fun _ => counts_consumeTransactionPinOtp.bind fun _ => counts_writePin
    split
    · exact counts_verifyCurrentPinOrThrow
    · exact counts_verifyTotpForUser
    · exact Proc.complies_throw
  | verifyPinOrThrow userId transactionPin => exact counts_verifyCurrentPinOrThrow
  | verifyTransactionFactor userId factor =>
    refine counts_assertHasAnyFactorConfigured.bind fun _ => ?_
    split
    · exact counts_verifyCurrentPinOrThrow
    · exact counts_verifyTotpForUser
    · exact Proc.complies_throw

end Contracts

structure Unguessed (s : AuthStore) : Prop where
  counters : ∀ (userId : Nat) (user : User), s.users[userId]? = some user →
    user.transactionPinFailedAttempts < transactionPinMaxAttempts
  factorEvents : s.factorEvents = []

theorem Unguessed.bounded {s : AuthStore} (unguessed : Unguessed s) : Bounded s where
  counters := unguessed.counters
  counted _ _ _ _ _ := by simp [unguessed.factorEvents, openGuesses]
  bounded _ past start := by
    rw [unguessed.factorEvents, List.prefix_nil] at start
    simp [start, openGuesses]
  unbarred _ _ _ _ member := by simp [unguessed.factorEvents] at member

/-- Between two lockouts at most as many wrong PINs are compared as are allowed, and none while
the PIN is locked, in every run whose comparisons have the row to themselves. -/
theorem guesses_bounded {argon2 : Argon2} {start : AuthStore} (unguessed : Unguessed start)
    {trace : List (Nat × Event AuthStore (Reply AuthReply) AuthAccess)}
    {c : Config AuthStore (Reply AuthReply) AuthAccess AuthError Unit}
    (run : Runs (procedure argon2) start trace c)
    (alone : ∀ e ∈ trace, exclusive e.2.label e.2.answer e.2.before = true) (userId : Nat) :
    (∀ past segment rest, c.shared.factorEvents = past ++ segment ++ rest →
      (∀ event ∈ segment, ends userId event = false) →
        segment.countP (isWrong userId) ≤ transactionPinMaxAttempts) ∧
    ∀ tid correct barred, .compared userId tid correct barred ∈ c.shared.factorEvents →
      barred = false := by
  have held : guessing.Holds (fun _ _ _ => True) (fun _ _ _ => True) trace c :=
    run.holds guessing_sound (fun _ _ _ _ _ _ => trivial) (fun _ _ _ _ _ _ => trivial)
      unguessed.bounded (fun _ => trivial) (fun _ _ s _ _ => counts_procedure s) alone
  have bounded : Bounded c.shared := held.inv
  constructor
  · intro past segment rest split lasts
    have start : past ++ segment <+: c.shared.factorEvents := ⟨rest, split.symm⟩
    exact (countP_le_openGuesses lasts).trans (bounded.bounded userId _ start)
  · exact bounded.unbarred userId

def enrolled : AuthStore :=
  { now := 0, users := [{ email := "ada@example.com", transactionPinHash := some "2580" }] }

theorem enrolled_unguessed : Unguessed enrolled where
  counters userId user found := by
    have member := List.mem_of_getElem? found
    rw [List.mem_singleton.mp member]
    exact Nat.succ_pos 4
  factorEvents := rfl

def wrongPin : Choice Operation (Reply AuthReply) := .start (.verifyPinOrThrow 0 "0000")

def accesses (tids : List Nat) : List (Choice Operation (Reply AuthReply)) :=
  tids.map fun tid => .run tid { data := {} }

def inTurn (tid : Nat) : List (Choice Operation (Reply AuthReply)) :=
  wrongPin :: accesses (List.replicate 3 tid)

theorem guesses_bounded_sample : ∃ trace c, Runs (procedure .plain) enrolled trace c ∧
    .locked 0 ∈ c.shared.factorEvents ∧
    (c.shared.factorEvents.take 5).countP (isWrong 0) ≤ transactionPinMaxAttempts := by
  obtain ⟨trace, c, run, checked⟩ := exists_run (procedure .plain) enrolled ((List.range 5).flatMap inTurn)
    (fun trace c => trace.all (fun e => exclusive e.2.label e.2.answer e.2.before) &&
      decide (.locked 0 ∈ c.shared.factorEvents) &&
      (c.shared.factorEvents.take 5).all fun event => !ends 0 event) (by decide +kernel)
  simp only [Bool.and_eq_true, List.all_eq_true, decide_eq_true_eq, Bool.not_eq_true'] at checked
  obtain ⟨⟨alone, locked⟩, lasts⟩ := checked
  exact ⟨trace, c, run, locked, (guesses_bounded enrolled_unguessed run alone 0).1 []
    (c.shared.factorEvents.take 5) (c.shared.factorEvents.drop 5)
    (List.take_append_drop 5 _).symm lasts⟩

/-- Six calls read the row before one of them writes it; later two read the last attempt. -/
def allAtOnce : List (Choice Operation (Reply AuthReply)) :=
  let first := List.range 6
  List.replicate 6 wrongPin ++ accesses (first ++ first ++ first) ++
    [6, 7, 8].flatMap inTurn ++ [wrongPin, wrongPin] ++ accesses [9, 10, 9, 9, 10]

/-- Six wrong PINs without a lockout, and one that is compared during the lockout. -/
theorem guesses_unbounded : ∃ trace c, Runs (procedure .plain) enrolled trace c ∧
    (c.shared.factorEvents.take 6).countP (isWrong 0) = 6 ∧
    (∀ event ∈ c.shared.factorEvents.take 6, ends 0 event = false) ∧
    .compared 0 10 false true ∈ c.shared.factorEvents := by
  obtain ⟨trace, c, run, checked⟩ := exists_run (procedure .plain) enrolled allAtOnce
    (fun _ c => decide ((c.shared.factorEvents.take 6).countP (isWrong 0) = 6) &&
      (c.shared.factorEvents.take 6).all (fun event => !ends 0 event) &&
      decide (.compared 0 10 false true ∈ c.shared.factorEvents)) (by decide +kernel)
  simp only [Bool.and_eq_true, List.all_eq_true, decide_eq_true_eq, Bool.not_eq_true'] at checked
  obtain ⟨⟨six, lasts⟩, barred⟩ := checked
  exact ⟨trace, c, run, six, lasts, barred⟩

end Bitmonie.PinGuessing
