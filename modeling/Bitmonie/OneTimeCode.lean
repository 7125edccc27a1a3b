import Mathlib.Data.List.Nodup
import Mathlib.Data.List.Perm.Subperm
import Bitmonie.AuthStore

/-! How often a code is compared and accepted. Each command to Redis is a step of its own,
and any number of calls are under way. -/
namespace Bitmonie.OneTimeCode
open Expiring AuthService

inductive Operation where
  | sendEmailOtp (purpose : EmailScopedPurpose) (email : String)
  | sendReleaseAddressChangeOtp (userId loanId : Nat)
  | sendTransactionPinOtp (userId : Nat) (purpose : UserScopedPurpose)
  | consumeEmailOtp (purpose : EmailScopedPurpose) (email otp : String)
  | consumeReleaseAddressChangeOtp (userId loanId : Nat) (otp : String)
  | consumeTransactionPinOtp (userId : Nat) (purpose : UserScopedPurpose) (otp : String)

def procedure (tid : Nat) : Operation → AuthAction Unit
  | .sendEmailOtp purpose email => sendEmailOtp purpose email
  | .sendReleaseAddressChangeOtp userId loanId => sendReleaseAddressChangeOtp userId loanId
  | .sendTransactionPinOtp userId purpose => sendTransactionPinOtp userId purpose
  | .consumeEmailOtp purpose email otp => consumeEmailOtp tid purpose email otp
  | .consumeReleaseAddressChangeOtp userId loanId otp =>
    consumeReleaseAddressChangeOtp tid userId loanId otp
  | .consumeTransactionPinOtp userId purpose otp => consumeTransactionPinOtp tid userId purpose otp

structure Unsent (s : AuthStore) : Prop where
  codes : ∀ key, s.codes key = none
  otpEvents : s.otpEvents = []

def count (kind : OtpEventKind) (issue : Nat) (events : List OtpEvent) : Nat :=
  events.countP fun event => event.kind = kind ∧ event.issue = issue

/-- When each event has its own one of an earlier kind, there are no more of them. -/
theorem count_le_of_matched {events : List OtpEvent} {earlier later : OtpEventKind}
    (distinct : events.Nodup) (matched : ∀ event ∈ events, event.kind = later →
      { event with kind := earlier } ∈ events) (issue : Nat) :
    count later issue events ≤ count earlier issue events := by
  let ofKind (kind : OtpEventKind) :=
    events.filter fun event => event.kind = kind ∧ event.issue = issue
  have sizes (kind : OtpEventKind) : count kind issue events = (ofKind kind).length :=
    List.countP_eq_length_filter ..
  have inside : (ofKind later).map (fun event => { event with kind := earlier }) ⊆ ofKind earlier := by
    intro event member
    obtain ⟨original, there, rfl⟩ := List.mem_map.mp member
    obtain ⟨listed, holds⟩ := List.mem_filter.mp there
    simp only [decide_eq_true_eq] at holds
    refine List.mem_filter.mpr ⟨matched original listed holds.1, ?_⟩
    simp [holds.2]
  have apart : ((ofKind later).map fun event => { event with kind := earlier }).Nodup := by
    refine List.Nodup.map_on (fun event member other member' same => ?_) (distinct.filter _)
    have kind := (List.mem_filter.mp member).2
    have kind' := (List.mem_filter.mp member').2
    simp only [decide_eq_true_eq] at kind kind'
    cases event
    cases other
    simp_all
  rw [sizes, sizes, ← List.length_map]
  exact (List.subperm_of_subset apart inside).length_le

theorem count_append (kind : OtpEventKind) (issue : Nat) (events : List OtpEvent)
    (event : OtpEvent) : count kind issue (events ++ [event]) =
      count kind issue events + if event.kind = kind ∧ event.issue = issue then 1 else 0 := by
  simp [count, List.countP_append, List.countP_singleton]

theorem count_eq_zero {kind : OtpEventKind} {issue : Nat} {events : List OtpEvent} :
    count kind issue events = 0 ↔ ∀ event ∈ events, event.kind = kind → event.issue ≠ issue := by
  simp [count, List.countP_eq_zero]

/-- Without an end the counter stays. -/
def outlives (counter code : Option Int) : Bool :=
  counter.all fun counterEnds => code.any fun codeEnds => codeEnds ≤ counterEnds

/-- An attempt is counted while the code that was read is there, below the maximum, and on a
counter that does not go before the code; a code that is accepted is still there to be removed;
and no counter is removed that has counted an attempt at the code which is there. -/
def undisturbed (label : AuthAccess) (i : Reply AuthReply) (s : AuthStore) : Bool :=
  let now := s.now + i.elapsed
  i.fails || match label with
  | .incrAttempts key issue => (find now s.codes key).any fun code => code.value.issue = issue &&
      (find now s.attempts key).all fun counter =>
        counter.value < otpMaxAttempts && outlives counter.expiresAt code.expiresAt
  | .delCode key issue => (find now s.codes key).any fun code => code.value.issue = issue
  | .delAttempts key => (find now s.codes key).all fun code =>
      count .attempted code.value.issue s.otpEvents = 0
  | _ => true

structure Ledger (issued : Nat) (events : List OtpEvent) : Prop where
  issued : ∀ event ∈ events, event.issue < issued
  attempted : ∀ issue, count .attempted issue events ≤ otpMaxAttempts
  removed : ∀ issue, count .removed issue events ≤ 1
  distinct : events.Nodup
  compared : ∀ event ∈ events, event.kind = .compared → { event with kind := .attempted } ∈ events
  accepted : ∀ event ∈ events, event.kind = .accepted → { event with kind := .removed } ∈ events

theorem Ledger.append {issued : Nat} {events : List OtpEvent} {event : OtpEvent}
    (ledger : Ledger issued events) (below : event.issue < issued) (new : event ∉ events)
    (room : event.kind = .attempted → count .attempted event.issue events < otpMaxAttempts)
    (first : event.kind = .removed → count .removed event.issue events = 0)
    (compared : event.kind = .compared → { event with kind := .attempted } ∈ events)
    (accepted : event.kind = .accepted → { event with kind := .removed } ∈ events) :
    Ledger issued (events ++ [event]) := by
  refine ⟨fun other member => ?_, fun issue => ?_, fun issue => ?_, ?_, fun other member kind => ?_,
    fun other member kind => ?_⟩
  · rcases List.mem_append.mp member with old | added
    · exact ledger.issued other old
    · exact List.mem_singleton.mp added ▸ below
  · have before := ledger.attempted issue
    rw [count_append]
    split
    · rename_i here
      have := here.2 ▸ room here.1
      omega
    · exact before
  · have before := ledger.removed issue
    rw [count_append]
    split
    · rename_i here
      have := here.2 ▸ first here.1
      omega
    · exact before
  · exact List.nodup_append.mpr ⟨ledger.distinct, List.nodup_singleton _,
      fun old member other added equal => new (List.mem_singleton.mp added ▸ equal ▸ member)⟩
  · rcases List.mem_append.mp member with old | added
    · exact List.mem_append_left _ (ledger.compared other old kind)
    · obtain rfl := List.mem_singleton.mp added
      exact List.mem_append_left _ (compared kind)
  · rcases List.mem_append.mp member with old | added
    · exact List.mem_append_left _ (ledger.accepted other old kind)
    · obtain rfl := List.mem_singleton.mp added
      exact List.mem_append_left _ (accepted kind)

structure Counted (s : AuthStore) : Prop where
  issued : ∀ key code, s.codes key = some code → code.value.issue < s.issued
  lasts : ∀ key code, s.codes key = some code →
    ∃ ends, code.expiresAt = some ends ∧ ends ≤ s.now + otpTtlSec * 1000
  apart : ∀ key other code code', s.codes key = some code → s.codes other = some code' →
    code.value.issue = code'.value.issue → key = other
  ledger : Ledger s.issued s.otpEvents
  /-- Attempts at a code that is there are on a counter that stays as long. -/
  counter : ∀ key code, find s.now s.codes key = some code →
    count .attempted code.value.issue s.otpEvents = 0 ∨ ∃ counter, s.attempts key = some counter ∧
      count .attempted code.value.issue s.otpEvents ≤ counter.value ∧
      outlives counter.expiresAt code.expiresAt = true
  removed : ∀ event ∈ s.otpEvents, event.kind = .removed →
    ∀ key code, s.codes key = some code → code.value.issue ≠ event.issue

def mine (tid : Nat) (s : AuthStore) : List OtpEvent := s.otpEvents.filter fun event => event.tid = tid

def counting : Discipline AuthStore (Reply AuthReply) AuthAccess where
  inv := Counted
  allowed label i s := undisturbed label i s = true
  fresh tid s := mine tid s = []
  rely tid s t := mine tid t = mine tid s
  guar tid _ _ s t := ∀ other, other ≠ tid → mine other t = mine other s

theorem counting_sound : counting.Sound where
  refl _ _ := rfl
  trans _ _ _ _ first second := second.trans first
  compatible _ _ _ _ _ _ different _ guar := guar _ (Ne.symm different)
  fresh _ _ _ same none := same.trans none

section Counted
variable {s : AuthStore} {key : OtpKey} {issue tid : Nat}

theorem Counted.tick (counted : Counted s) (elapsed : Nat) : Counted (Clocked.tick elapsed s) := by
  have later : s.now ≤ (Clocked.tick elapsed s).now :=
    Int.le_add_of_nonneg_right (Int.natCast_nonneg elapsed)
  refine { counted with lasts := fun key code found => ?_, counter := fun key code found => ?_ }
  · obtain ⟨ends, same, le⟩ := counted.lasts key code found
    exact ⟨ends, same, by omega⟩
  · obtain ⟨there, lives⟩ := find_eq_some.mp found
    exact counted.counter key code (find_eq_some.mpr ⟨there, code.live_of_later later lives⟩)

/-- A new code has a new number, and nothing was done with it. -/
theorem Counted.setCode (counted : Counted s) (hash : OtpHash) :
    Counted { s with
      codes := set s.codes key ⟨hash, s.issued⟩ (some (s.now + otpTtlSec * 1000))
      issued := s.issued + 1 } := by
  have stored (other : OtpKey) (code : Entry StoredOtp)
      (found : set s.codes key ⟨hash, s.issued⟩ (some (s.now + otpTtlSec * 1000)) other = some code) :
      (other = key ∧ code = ⟨⟨hash, s.issued⟩, some (s.now + otpTtlSec * 1000)⟩) ∨
        (other ≠ key ∧ s.codes other = some code) := by
    by_cases same : other = key
    · subst same
      exact .inl ⟨rfl, (Option.some.inj (set_self.symm.trans found)).symm⟩
    · exact .inr ⟨same, (set_of_ne same).symm.trans found⟩
  have unused : count .attempted s.issued s.otpEvents = 0 :=
    count_eq_zero.mpr fun event member _ => Nat.ne_of_lt (counted.ledger.issued event member)
  refine { counted with
    issued := fun other code found => ?_
    lasts := fun other code found => ?_
    apart := fun other another code code' found found' same => ?_
    ledger := { counted.ledger with
      issued := fun event member => Nat.lt_succ_of_lt (counted.ledger.issued event member) }
    counter := fun other code found => ?_
    removed := fun event member kind other code found => ?_ }
  · rcases stored other code found with ⟨_, rfl⟩ | ⟨_, old⟩
    · exact Nat.lt_succ_self _
    · exact Nat.lt_succ_of_lt (counted.issued other code old)
  · rcases stored other code found with ⟨_, rfl⟩ | ⟨_, old⟩
    · exact ⟨_, rfl, Int.le_refl _⟩
    · exact counted.lasts other code old
  · rcases stored other code found with ⟨rfl, rfl⟩ | ⟨_, old⟩ <;>
      rcases stored another code' found' with ⟨rfl, rfl⟩ | ⟨_, old'⟩
    · rfl
    · exact absurd same.symm (Nat.ne_of_lt (counted.issued another code' old'))
    · exact absurd same (Nat.ne_of_lt (counted.issued other code old))
    · exact counted.apart other another code code' old old' same
  · obtain ⟨there, lives⟩ := find_eq_some.mp found
    rcases stored other code there with ⟨_, rfl⟩ | ⟨_, old⟩
    · exact .inl unused
    · exact counted.counter other code (find_eq_some.mpr ⟨old, lives⟩)
  · rcases stored other code found with ⟨_, rfl⟩ | ⟨_, old⟩
    · exact Nat.ne_of_gt (counted.ledger.issued event member)
    · exact counted.removed event member kind other code old

/-- The counter goes, and the code that is there was not attempted. -/
theorem Counted.delAttempts (counted : Counted s)
    (unused : ∀ code, find s.now s.codes key = some code →
      count .attempted code.value.issue s.otpEvents = 0) :
    Counted { s with attempts := del s.attempts key } := by
  refine { counted with counter := fun other code found => ?_ }
  by_cases same : other = key
  · subst same
    exact .inl (unused code found)
  · refine (counted.counter other code found).imp_right ?_
    rintro ⟨counter, there, enough⟩
    exact ⟨counter, (del_of_ne same).trans there, enough⟩

/-- The counter starts its time to live again. -/
theorem Counted.expireAttempts (counted : Counted s) :
    Counted { s with attempts := expire s.now s.attempts key (s.now + otpTtlSec * 1000) } := by
  refine { counted with counter := fun other code found => ?_ }
  refine (counted.counter other code found).imp_right ?_
  rintro ⟨counter, there, enough, longer⟩
  by_cases same : other = key
  · subst same
    cases live : find s.now s.attempts other with
    | none => exact ⟨counter, by simp [expire, live, there], enough, longer⟩
    | some entry =>
      obtain ⟨there', _⟩ := find_eq_some.mp live
      obtain rfl := Option.some.inj (there.symm.trans there')
      refine ⟨⟨counter.value, some (s.now + otpTtlSec * 1000)⟩, by simp [expire, live], enough, ?_⟩
      obtain ⟨ends, ends_eq, le⟩ := counted.lasts other code (find_eq_some.mp found).1
      simp [outlives, ends_eq, le]
  · exact ⟨counter, (expire_of_ne same).trans there, enough, longer⟩

/-- A counter that stays as long as a code that is there is there. -/
theorem live_of_outlives {code : Entry StoredOtp} {counter : Entry Nat}
    (found : find s.now s.codes key = some code) (there : s.attempts key = some counter)
    (longer : outlives counter.expiresAt code.expiresAt = true) :
    find s.now s.attempts key = some counter := by
  refine find_eq_some.mpr ⟨there, ?_⟩
  have lives := (find_eq_some.mp found).2
  unfold outlives at longer
  unfold Entry.live at lives ⊢
  cases ends : counter.expiresAt with
  | none => rfl
  | some counterEnds =>
    cases codeEnds : code.expiresAt with
    | none => simp [ends, codeEnds] at longer
    | some codeEnd =>
      simp only [ends, codeEnds, Option.all_some, Option.any_some, decide_eq_true_eq] at longer lives ⊢
      omega

/-- An attempt is counted, and there was room for it. -/
theorem Counted.incrAttempts (counted : Counted s) {code : Entry StoredOtp}
    (found : find s.now s.codes key = some code) (same : code.value.issue = issue)
    (room : ∀ counter, find s.now s.attempts key = some counter →
      counter.value < otpMaxAttempts ∧ outlives counter.expiresAt code.expiresAt = true)
    (new : (⟨.attempted, key, issue, tid⟩ : OtpEvent) ∉ s.otpEvents) :
    Counted (noted .attempted key issue tid { s with attempts := incr s.now s.attempts key }) := by
  have there := (find_eq_some.mp found).1
  have zero_lt : 0 < otpMaxAttempts := by decide
  -- The counter has room for one more, and it goes on with what it has counted.
  obtain ⟨counter, stored, enough, below, longer⟩ : ∃ counter,
      incr s.now s.attempts key key = some counter ∧
        count .attempted issue s.otpEvents + 1 ≤ counter.value ∧ counter.value ≤ otpMaxAttempts ∧
        outlives counter.expiresAt code.expiresAt = true := by
    cases live : find s.now s.attempts key with
    | none =>
      refine ⟨⟨1, none⟩, by simp [incr, live], ?_, zero_lt, rfl⟩
      rcases counted.counter key code found with none_ | ⟨counter, at_, _, longer⟩
      · rw [← same, none_]
      · rw [live_of_outlives found at_ longer] at live
        cases live
    | some counter =>
      obtain ⟨below, longer⟩ := room counter live
      refine ⟨⟨counter.value + 1, counter.expiresAt⟩, by simp [incr, live], ?_, below, longer⟩
      rcases counted.counter key code found with none_ | ⟨counter', at_, enough, _⟩
      · simp [← same, none_]
      · obtain rfl := Option.some.inj (at_.symm.trans (find_eq_some.mp live).1)
        rw [← same]
        exact Nat.succ_le_succ enough
  have attempts (other : Nat) : count .attempted other (s.otpEvents ++ [⟨.attempted, key, issue, tid⟩]) =
      count .attempted other s.otpEvents + if issue = other then 1 else 0 := by
    simp [count_append]
  refine { counted with
    ledger := ?_
    counter := fun other code' found' => ?_
    removed := fun event member kind => ?_ }
  · refine counted.ledger.append (same ▸ counted.issued key code there) new (fun _ => ?_) ?_ ?_ ?_
    · exact enough.trans below
    · exact fun kind => by cases kind
    · exact fun kind => by cases kind
    · exact fun kind => by cases kind
  · dsimp only [noted] at found' ⊢
    rw [attempts]
    by_cases here : other = key
    · subst here
      obtain rfl := Option.some.inj (found.symm.trans found')
      rw [if_pos same.symm, same]
      exact .inr ⟨counter, stored, enough, longer⟩
    · have elsewhere : issue ≠ code'.value.issue := by
        intro equal
        exact here (counted.apart other key code' code (find_eq_some.mp found').1 there
          (equal.symm.trans same.symm))
      rw [if_neg elsewhere, add_zero, incr_of_ne here]
      exact counted.counter other code' found'
  · rcases List.mem_append.mp member with old | added
    · exact counted.removed event old kind
    · obtain rfl := List.mem_singleton.mp added
      cases kind

/-- A code that is removed was there, and it does not come back. -/
theorem Counted.delCode (counted : Counted s) {code : Entry StoredOtp}
    (found : find s.now s.codes key = some code) (same : code.value.issue = issue)
    (new : (⟨.removed, key, issue, tid⟩ : OtpEvent) ∉ s.otpEvents) :
    Counted (noted .removed key issue tid { s with codes := del s.codes key }) := by
  have there := (find_eq_some.mp found).1
  have stored (other : OtpKey) (code' : Entry StoredOtp) (found' : del s.codes key other = some code') :
      other ≠ key ∧ s.codes other = some code' := by
    by_cases here : other = key
    · subst here
      cases del_self.symm.trans found'
    · exact ⟨here, (del_of_ne here).symm.trans found'⟩
  refine ⟨fun other code' found' => ?_, fun other code' found' => ?_,
    fun other another code' code'' found' found'' => ?_, ?_, fun other code' found' => ?_,
    fun event member kind other code' found' => ?_⟩
  · exact counted.issued other code' (stored other code' found').2
  · exact counted.lasts other code' (stored other code' found').2
  · exact counted.apart other another code' code'' (stored other code' found').2
      (stored another code'' found'').2
  · refine counted.ledger.append (same ▸ counted.issued key code there) new ?_ (fun _ => ?_) ?_ ?_
    · exact fun kind => by cases kind
    · refine count_eq_zero.mpr fun event member kind => ?_
      have := counted.removed event member kind key code there
      exact fun equal => this (same.trans equal.symm)
    · exact fun kind => by cases kind
    · exact fun kind => by cases kind
  · obtain ⟨at_, lives⟩ := find_eq_some.mp found'
    have attempts : count .attempted code'.value.issue
        (s.otpEvents ++ [⟨.removed, key, issue, tid⟩]) =
          count .attempted code'.value.issue s.otpEvents := by
      simp [count_append]
    dsimp only [noted]
    rw [attempts]
    exact counted.counter other code' (find_eq_some.mpr ⟨(stored other code' at_).2, lives⟩)
  · obtain ⟨apart, old⟩ := stored other code' found'
    rcases List.mem_append.mp member with past | added
    · exact counted.removed event past kind other code' old
    · obtain rfl := List.mem_singleton.mp added
      exact fun equal => apart (counted.apart other key code' code old there (equal.trans same.symm))

/-- An event that follows from an earlier one. -/
theorem Counted.note {kind earlier : OtpEventKind} (counted : Counted s)
    (follows : (kind = .compared ∧ earlier = .attempted) ∨ (kind = .accepted ∧ earlier = .removed))
    (done : (⟨earlier, key, issue, tid⟩ : OtpEvent) ∈ s.otpEvents)
    (new : (⟨kind, key, issue, tid⟩ : OtpEvent) ∉ s.otpEvents) :
    Counted (noted kind key issue tid s) := by
  have below : issue < s.issued := counted.ledger.issued _ done
  have attempts (other : Nat) : count .attempted other (s.otpEvents ++ [⟨kind, key, issue, tid⟩]) =
      count .attempted other s.otpEvents := by
    rcases follows with ⟨rfl, _⟩ | ⟨rfl, _⟩ <;> simp [count_append]
  refine { counted with
    ledger := ?_
    counter := fun other code found => ?_
    removed := fun event member removed => ?_ }
  · refine counted.ledger.append below new ?_ ?_ ?_ ?_
    · rintro rfl
      rcases follows with ⟨impossible, _⟩ | ⟨impossible, _⟩ <;> cases impossible
    · rintro rfl
      rcases follows with ⟨impossible, _⟩ | ⟨impossible, _⟩ <;> cases impossible
    · rintro rfl
      rcases follows with ⟨_, rfl⟩ | ⟨impossible, _⟩
      · exact done
      · cases impossible
    · rintro rfl
      rcases follows with ⟨impossible, _⟩ | ⟨_, rfl⟩
      · cases impossible
      · exact done
  · dsimp only [noted] at found ⊢
    rw [attempts]
    exact counted.counter other code found
  · rcases List.mem_append.mp member with old | added
    · exact counted.removed event old removed
    · obtain rfl := List.mem_singleton.mp added
      rcases follows with ⟨rfl, _⟩ | ⟨rfl, _⟩ <;> cases removed

end Counted

section Contracts
variable {s : AuthStore} {tid : Nat} {events : List OtpEvent} {key : OtpKey} {issue : Nat}

theorem mine_noted (kind : OtpEventKind) (other : Nat) :
    mine other (noted kind key issue tid s) =
      mine other s ++ if tid = other then [⟨kind, key, issue, tid⟩] else [] := by
  simp only [mine, noted, List.filter_append, List.filter_singleton, cond_eq_ite,
    decide_eq_true_eq]

/-- An event of this procedure that it has not noted yet is new. -/
theorem new_of_mine {event : OtpEvent} (own : event.tid = tid) (here : mine tid s = events)
    (absent : event ∉ events) : event ∉ s.otpEvents := by
  intro member
  exact absent (here ▸ List.mem_filter.mpr ⟨member, by simpa using own⟩)

theorem mem_of_mine {event : OtpEvent} (here : mine tid s = events) (member : event ∈ events) :
    event ∈ s.otpEvents := by
  rw [← here] at member
  exact (List.mem_filter.mp member).1

/-- A command that notes nothing. -/
theorem command_meets {α : Type} {fault : AuthError} {label : AuthAccess}
    {f : AuthReply → AuthStore → Except AuthError α × AuthStore} (here : mine tid s = events)
    (keeps : ∀ i t, undisturbed label i t = true → i.fails = false →
      Counted (Clocked.tick i.elapsed t) → Counted (f i.data (Clocked.tick i.elapsed t)).2)
    (same : ∀ reply t, (f reply t).2.otpEvents = t.otpEvents) :
    (statement fault label f).Meets (counting.contract tid) (fun _ t => mine tid t = events)
      (fun _ _ => True) s := by
  refine statement_meets fun t moved counted i allowed => ?_
  have here : mine tid t = events := Eq.trans moved here
  have ticked := Counted.tick counted i.elapsed
  refine ⟨fun _ => ⟨ticked, fun _ _ => rfl, trivial⟩, fun made => ?_⟩
  have unchanged (other : Nat) :
      mine other (f i.data (Clocked.tick i.elapsed t)).2 = mine other t := by
    simp only [mine, same]
    rfl
  refine ⟨keeps i t allowed made ticked, fun other _ => unchanged other, fun _ => trivial, fun _ => ?_⟩
  have after := (unchanged tid).trans here
  revert after
  rcases f i.data (Clocked.tick i.elapsed t) with ⟨_ | _, _⟩
  · exact fun _ => trivial
  · exact fun after => after

/-- A command that notes an event. -/
theorem noting_meets {fault : AuthError} {label : AuthAccess} {kind : OtpEventKind}
    (f : AuthStore → AuthStore) (here : mine tid s = events)
    (absent : (⟨kind, key, issue, tid⟩ : OtpEvent) ∉ events)
    (same : ∀ t, (f t).otpEvents = t.otpEvents)
    (keeps : ∀ i t, undisturbed label i t = true → i.fails = false →
      Counted (Clocked.tick i.elapsed t) → mine tid t = events →
      (⟨kind, key, issue, tid⟩ : OtpEvent) ∉ t.otpEvents →
      Counted (noted kind key issue tid (f (Clocked.tick i.elapsed t)))) :
    (statement fault label fun _ t => (.ok (), noted kind key issue tid (f t))).Meets
      (counting.contract tid) (fun _ t => mine tid t = events ++ [⟨kind, key, issue, tid⟩])
      (fun _ _ => True) s := by
  refine statement_meets fun t moved counted i allowed => ?_
  have here : mine tid t = events := Eq.trans moved here
  have ticked := Counted.tick counted i.elapsed
  refine ⟨fun _ => ⟨ticked, fun _ _ => rfl, trivial⟩, fun made => ?_⟩
  have before (other : Nat) : mine other (f (Clocked.tick i.elapsed t)) = mine other t := by
    simp only [mine, same]
    rfl
  refine ⟨keeps i t allowed made ticked here (new_of_mine rfl here absent), fun other different => ?_,
    fun _ => trivial, fun _ => ?_⟩
  · rw [mine_noted, if_neg (Ne.symm different), List.append_nil, before]
  · show mine tid (noted kind key issue tid _) = _
    rw [mine_noted, if_pos rfl, before, here]

theorem delAttempts_meets (here : mine tid s = events) : (delAttempts key).Meets
    (counting.contract tid) (fun _ t => mine tid t = events) (fun _ _ => True) s := by
  apply command_meets here _ fun _ _ => rfl
  intro i t allowed made counted
  refine counted.delAttempts fun code found => ?_
  simp only [undisturbed, made, Bool.false_or] at allowed
  have found' : find (t.now + i.elapsed) t.codes key = some code := found
  change count .attempted code.value.issue t.otpEvents = 0
  simpa [found'] using allowed

theorem sendOtp_meets (here : mine tid s = events) : (sendOtp key).Meets (counting.contract tid)
    (fun _ t => mine tid t = events) (fun _ _ => True) s := by
  have stored : (setCode key).Meets (counting.contract tid) (fun _ t => mine tid t = events)
      (fun _ _ => True) s :=
    command_meets here (fun _ _ _ _ counted => counted.setCode _) fun _ _ => rfl
  have mailed (t : AuthStore) (here : mine tid t = events) : emailOtp.Meets
      (counting.contract tid) (fun _ t => mine tid t = events) (fun _ _ => True) t :=
    command_meets here (fun _ _ _ _ counted => counted) fun _ _ => rfl
  rw [sendOtp]
  refine stored.seq fun _ t here => ?_
  exact (delAttempts_meets here).seq fun _ u here => mailed u here

theorem findUser_meets {userId : Nat} (here : mine tid s = events) : (findUser userId).Meets
    (counting.contract tid) (fun _ t => mine tid t = events) (fun _ _ => True) s := by
  apply command_meets here
  · intro i t _ _ counted
    cases found : t.users[userId]? <;> simpa [Clocked.tick, found] using counted
  · intro _ t
    cases t.users[userId]? <;> rfl

theorem sendScopedOtp_meets {purpose : UserScopedPurpose} {userId : Nat} {resourceId : Option Nat}
    (here : mine tid s = events) : (sendScopedOtp purpose userId resourceId).Meets
      (counting.contract tid) (fun _ t => mine tid t = events) (fun _ _ => True) s := by
  exact (findUser_meets here).seq fun _ _ here => sendOtp_meets here

theorem incrAttempts_meets (here : mine tid s = []) : (incrAttempts tid key issue).Meets
    (counting.contract tid) (fun _ t => mine tid t = [⟨.attempted, key, issue, tid⟩])
    (fun _ _ => True) s := by
  apply noting_meets (fun t => { t with attempts := incr t.now t.attempts key }) here (by simp)
    fun _ => rfl
  intro i t allowed made counted _ new
  simp only [undisturbed, made, Bool.false_or, Option.any_eq_true, Bool.and_eq_true,
    decide_eq_true_eq, Option.all_eq_true] at allowed
  obtain ⟨code, found, same, room⟩ := allowed
  exact counted.incrAttempts found same room new

/-- What a call notes between two commands. -/
theorem note_meets {label : AuthAccess} {kind earlier : OtpEventKind} {ended : Except AuthError Unit}
    (here : mine tid s = events) (absent : (⟨kind, key, issue, tid⟩ : OtpEvent) ∉ events)
    (follows : (kind = .compared ∧ earlier = .attempted) ∨ (kind = .accepted ∧ earlier = .removed))
    (done : (⟨earlier, key, issue, tid⟩ : OtpEvent) ∈ events) :
    (Proc.access label (fun _ => true) fun i s =>
      (ended, noted kind key issue tid (Clocked.tick i.elapsed s))).Meets (counting.contract tid)
      (fun _ t => mine tid t = events ++ [⟨kind, key, issue, tid⟩]) (fun _ _ => True) s := by
  rw [Proc.meets_access]
  intro t moved counted _ i _
  have here : mine tid t = events := Eq.trans moved here
  have ticked := Counted.tick counted i.elapsed
  refine ⟨ticked.note follows (mem_of_mine here done) (new_of_mine rfl here absent),
    fun other different => ?_, ?_⟩
  · exact (mine_noted _ _).trans (by rw [if_neg (Ne.symm different), List.append_nil]; rfl)
  · cases ended with
    | error e => trivial
    | ok _ => exact (mine_noted _ _).trans (by rw [if_pos rfl, ← here]; rfl)

theorem delCode_meets (here : mine tid s =
      [⟨.attempted, key, issue, tid⟩, ⟨.compared, key, issue, tid⟩]) :
    (delCode tid key issue).Meets (counting.contract tid)
      (fun _ t => mine tid t = [⟨.attempted, key, issue, tid⟩, ⟨.compared, key, issue, tid⟩,
        ⟨.removed, key, issue, tid⟩]) (fun _ _ => True) s := by
  apply noting_meets (fun t => { t with codes := del t.codes key }) here (by simp) fun _ => rfl
  intro i t allowed made counted _ new
  simp only [undisturbed, made, Bool.false_or, Option.any_eq_true, decide_eq_true_eq] at allowed
  obtain ⟨code, found, same⟩ := allowed
  exact counted.delCode found same new

theorem consumeOtp_meets {otp : String} (here : mine tid s = []) :
    (consumeOtp tid key otp).Meets (counting.contract tid) (fun _ _ => True) (fun _ _ => True) s := by
  have read (t : AuthStore) (here : mine tid t = []) : (getAttempts key).Meets (counting.contract tid)
      (fun _ t => mine tid t = []) (fun _ _ => True) t :=
    command_meets here (fun _ _ _ _ counted => counted) fun _ _ => rfl
  have stored (t : AuthStore) (here : mine tid t = []) : (getCode key).Meets (counting.contract tid)
      (fun _ t => mine tid t = []) (fun _ _ => True) t :=
    command_meets here (fun _ _ _ _ counted => counted) fun _ _ => rfl
  have timed {events : List OtpEvent} (t : AuthStore) (here : mine tid t = events) :
      (expireAttempts key).Meets (counting.contract tid) (fun _ t => mine tid t = events)
        (fun _ _ => True) t :=
    command_meets here (fun _ _ _ _ counted => counted.expireAttempts) fun _ _ => rfl
  rw [consumeOtp]
  refine (read s here).seq ?_
  intro attempts t here
  split
  · trivial
  refine (stored t here).seq ?_
  intro stored u here
  cases stored with
  | none => trivial
  | some code =>
    dsimp only
    refine (incrAttempts_meets here).seq ?_
    intro _ u here
    refine (timed u here).seq ?_
    intro _ u here
    refine (note_meets here (by simp) (.inl ⟨rfl, rfl⟩) (by simp)).seq ?_
    intro _ u here
    refine (delCode_meets here).seq ?_
    intro _ u here
    refine (delAttempts_meets here).seq ?_
    intro _ u here
    exact (note_meets here (by simp) (.inr ⟨rfl, rfl⟩) (by simp)).imp (fun _ _ _ => trivial)
      fun _ _ _ => trivial

theorem procedure_meets {operation : Operation} (here : mine tid s = []) :
    (procedure tid operation).Meets (counting.contract tid) (fun _ _ => True) (fun _ _ => True) s := by
  cases operation with
  | sendEmailOtp purpose email =>
    exact (sendOtp_meets here).imp (fun _ _ _ => trivial) fun _ _ _ => trivial
  | sendReleaseAddressChangeOtp userId loanId =>
    exact (sendScopedOtp_meets here).imp (fun _ _ _ => trivial) fun _ _ _ => trivial
  | sendTransactionPinOtp userId purpose =>
    exact (sendScopedOtp_meets here).imp (fun _ _ _ => trivial) fun _ _ _ => trivial
  | consumeEmailOtp purpose email otp => exact consumeOtp_meets here
  | consumeReleaseAddressChangeOtp userId loanId otp => exact consumeOtp_meets here
  | consumeTransactionPinOtp userId purpose otp => exact consumeOtp_meets here

end Contracts

theorem Unsent.counted {s : AuthStore} (unsent : Unsent s) : Counted s := by
  have none (key : OtpKey) (code : Entry StoredOtp) : s.codes key ≠ some code := by
    simp [unsent.codes key]
  refine ⟨fun key code found => absurd found (none key code),
    fun key code found => absurd found (none key code),
    fun key _ code _ found => absurd found (none key code), ?_,
    fun key code found => absurd (find_eq_some.mp found).1 (none key code), ?_⟩
  · rw [unsent.otpEvents]
    constructor <;> simp [count]
  · simp [unsent.otpEvents]

/-- Each code is compared with at most as many guesses as are allowed, and accepted once at
most, in every run that no command disturbs. -/
theorem one_time_codes {start : AuthStore} (unsent : Unsent start)
    {trace : List (Nat × Event AuthStore (Reply AuthReply) AuthAccess)}
    {c : Config AuthStore (Reply AuthReply) AuthAccess AuthError Unit}
    (run : Runs procedure start trace c)
    (calm : ∀ e ∈ trace, undisturbed e.2.label e.2.answer e.2.before = true) (issue : Nat) :
    count .compared issue c.shared.otpEvents ≤ otpMaxAttempts ∧
      count .accepted issue c.shared.otpEvents ≤ 1 := by
  have held : counting.Holds (fun _ _ _ => True) (fun _ _ _ => True) trace c :=
    run.holds counting_sound (fun _ _ _ _ _ _ => trivial) (fun _ _ _ _ _ _ => trivial)
      unsent.counted (fun tid => by simp [counting, mine, unsent.otpEvents])
      (fun _ _ _ _ here => procedure_meets here) calm
  have ledger := held.inv.ledger
  exact ⟨(count_le_of_matched ledger.distinct ledger.compared issue).trans (ledger.attempted issue),
    (count_le_of_matched ledger.distinct ledger.accepted issue).trans (ledger.removed issue)⟩

def commands (tid number : Nat) : List (Choice Operation (Reply AuthReply)) :=
  List.replicate number (.run tid { data := { random := 123456 } })

def sentCode : List (Choice Operation (Reply AuthReply)) :=
  .start (.sendEmailOtp .login "ada@example.com") :: commands 0 3

def guess (otp : String) : Choice Operation (Reply AuthReply) :=
  .start (.consumeEmailOtp .login "ada@example.com" otp)

def oneByOne : List (Choice Operation (Reply AuthReply)) :=
  sentCode ++ guess "000000" :: commands 1 5 ++ guess "123456" :: commands 2 8

/-- Six calls read the code before one of them counts its attempt. -/
def allAtOnce : List (Choice Operation (Reply AuthReply)) :=
  sentCode ++ [guess "000001", guess "000002", guess "000003", guess "000004", guess "123456",
      guess "123456"] ++
    (List.range 6).flatMap (fun k => commands (k + 1) 2) ++
    (List.range 6).flatMap (fun k => commands (k + 1) 3) ++
    (List.range 2).flatMap fun k => commands (k + 5) 3

theorem one_time_codes_sample : ∃ trace c, Runs procedure { now := 0 } trace c ∧
    count .accepted 0 c.shared.otpEvents = 1 ∧
    count .compared 0 c.shared.otpEvents ≤ otpMaxAttempts := by
  obtain ⟨trace, c, run, checked⟩ := exists_run procedure { now := 0 } oneByOne
    (fun trace c => trace.all (fun e => undisturbed e.2.label e.2.answer e.2.before) &&
      decide (count .accepted 0 c.shared.otpEvents = 1)) (by decide +kernel)
  simp only [Bool.and_eq_true, List.all_eq_true, decide_eq_true_eq] at checked
  exact ⟨trace, c, run, checked.2, (one_time_codes ⟨fun _ => rfl, rfl⟩ run checked.1 0).1⟩

/-- Six guesses at one code, and two calls that accept it. -/
theorem code_accepted_twice : ∃ trace c, Runs procedure { now := 0 } trace c ∧
    count .compared 0 c.shared.otpEvents = 6 ∧ count .accepted 0 c.shared.otpEvents = 2 := by
  obtain ⟨trace, c, run, checked⟩ := exists_run procedure { now := 0 } allAtOnce
    (fun _ c => decide (count .compared 0 c.shared.otpEvents = 6) &&
      decide (count .accepted 0 c.shared.otpEvents = 2)) (by decide +kernel)
  simp only [Bool.and_eq_true, decide_eq_true_eq] at checked
  exact ⟨trace, c, run, checked⟩

end Bitmonie.OneTimeCode
