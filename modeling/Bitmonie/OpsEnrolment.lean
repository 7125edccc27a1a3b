import Bitmonie.Interleaving
import Bitmonie.OpsAuth

/-! Whether an enrolment lasts, when any number of tokens are outstanding and any number of
calls are under way. -/
namespace Bitmonie.OpsAuth
open Expiring

/-- A secret is stored for a user who is not enrolled; and a user is enrolled with the secret
that the call has verified a code for. -/
def undisturbed (label : OpsAccess) (i : Reply OpsReply) (s : OpsStore) : Bool :=
  i.fails || match label with
  | .storeSecret opsUserId => (s.opsUsers[opsUserId]?).all fun user => !user.totpEnabled
  | .enable opsUserId secret => (s.opsUsers[opsUserId]?).all fun user => user.totpSecret = some secret
  | _ => true

def Enrolled (opsUserId : Nat) (secret : Option String) (s : OpsStore) : Prop :=
  ∃ user, s.opsUsers[opsUserId]? = some user ∧ user.totpEnabled = true ∧ user.totpSecret = secret

theorem enrolled_iff {opsUserId : Nat} {secret : Option String} {s : OpsStore} :
    ((s.opsUsers[opsUserId]?).any fun user => user.totpEnabled && user.totpSecret = secret) = true ↔
      Enrolled opsUserId secret s := by
  simp [Enrolled, Option.any_eq_true]

instance (opsUserId : Nat) (secret : Option String) (s : OpsStore) :
    Decidable (Enrolled opsUserId secret s) := decidable_of_iff _ enrolled_iff

def Stays (s t : OpsStore) : Prop :=
  ∀ opsUserId secret, Enrolled opsUserId secret s → Enrolled opsUserId secret t

theorem Stays.refl (s : OpsStore) : Stays s s := fun _ _ enrolled => enrolled

theorem Stays.trans {r s t : OpsStore} (first : Stays r s) (second : Stays s t) : Stays r t :=
  fun opsUserId secret enrolled => second opsUserId secret (first opsUserId secret enrolled)

/-- What a session was granted on is a code for the secret that its user is enrolled with. -/
def Granted (libraries : Libraries) (s : OpsStore) : Prop :=
  ∀ session ∈ s.sessions, Enrolled session.opsUserId (some session.grantedOn.secret) s ∧
    libraries.totpVerify session.grantedOn.secret session.grantedOn.totpCode
      session.grantedOn.verifiedAt = true

def lasting (libraries : Libraries) : Discipline OpsStore (Reply OpsReply) OpsAccess where
  inv := Granted libraries
  allowed label i s := undisturbed label i s = true
  fresh _ _ := True
  rely _ := Stays
  guar _ _ _ := Stays

theorem lasting_sound (libraries : Libraries) : (lasting libraries).Sound where
  refl _ := Stays.refl
  trans _ _ _ _ := Stays.trans
  compatible _ _ _ _ _ _ _ _ guar := guar
  fresh _ _ _ _ _ := trivial

section Steps
variable {libraries : Libraries} {tid opsUserId : Nat} {s t : OpsStore}

theorem Granted.stays (granted : Granted libraries s) (stays : Stays s t)
    (same : t.sessions = s.sessions) : Granted libraries t := by
  intro session member
  rw [same] at member
  obtain ⟨enrolled, right⟩ := granted session member
  exact ⟨stays _ _ enrolled, right⟩

def view (s : OpsStore) : List OpsUser × List OpsSession := (s.opsUsers, s.sessions)

theorem stays_of_users (same : t.opsUsers = s.opsUsers) : Stays s t := by
  rintro opsUserId secret ⟨user, found, enrolled⟩
  exact ⟨user, same ▸ found, enrolled⟩

theorem Granted.tick (granted : Granted libraries s) (elapsed : Nat) :
    Granted libraries (Clocked.tick elapsed s) ∧ Stays s (Clocked.tick elapsed s) :=
  ⟨granted.stays (stays_of_users rfl) rfl, stays_of_users rfl⟩

theorem leaves_complies {α : Type} {p : OpsAction α} (leaves : p.Leaves view) :
    p.Complies ((lasting libraries).contract tid) := by
  refine leaves.complies fun _ _ s t same granted => ?_
  obtain ⟨users, sessions⟩ := Prod.mk.inj same
  exact ⟨granted.stays (stays_of_users users) sessions, stays_of_users users⟩

/-- An update of a row that is enrolled with the same secret afterwards, if it was before. -/
theorem stays_of_update {user new : OpsUser} (found : s.opsUsers[opsUserId]? = some user)
    (lasts : user.totpEnabled = true → new.totpEnabled = true ∧ new.totpSecret = user.totpSecret) :
    Stays s { s with opsUsers := s.opsUsers.set opsUserId new } := by
  rintro other secret ⟨row, there, enabled, holds⟩
  by_cases same : other = opsUserId
  · subst same
    obtain rfl := Option.some.inj (found.symm.trans there)
    obtain ⟨enabled', kept⟩ := lasts enabled
    exact ⟨new, getElem?_set_of_eq found, enabled', kept.trans holds⟩
  · exact ⟨row, (List.getElem?_set_ne (Ne.symm same)).trans there, enabled, holds⟩

/-- The update of a row in a run that nothing disturbs. -/
theorem updateUser_meets {α : Type} {label : OpsAccess} {data : OpsReply → Int → OpsUser → α × OpsUser}
    {post : OpsStore → Prop}
    (does : ∀ i t user, undisturbed label i t = true → i.fails = false →
      t.opsUsers[opsUserId]? = some user → let new := (data i.data (t.now + i.elapsed) user).2
      (user.totpEnabled = true → new.totpEnabled = true ∧ new.totpSecret = user.totpSecret) ∧
        ∀ u : OpsStore, u.opsUsers[opsUserId]? = some new → post u) :
    (updateUser label opsUserId data).Meets ((lasting libraries).contract tid) (fun _ => post)
      (fun _ _ => True) s := by
  refine statement_meets fun t _ granted i allowed => ?_
  obtain ⟨ticked, ticks⟩ := Granted.tick granted i.elapsed
  refine ⟨fun _ => ⟨ticked, ticks, trivial⟩, fun made => ?_⟩
  have users : (Clocked.tick i.elapsed t).opsUsers = t.opsUsers := rfl
  rw [users]
  cases found : t.opsUsers[opsUserId]? with
  | none => exact ⟨ticked, ticks, fun _ => trivial, fun _ => trivial⟩
  | some user =>
    obtain ⟨lasts, ends⟩ := does i t user allowed made found
    have stays := stays_of_update (s := Clocked.tick i.elapsed t) found lasts
    exact ⟨ticked.stays stays rfl, ticks.trans stays, fun _ => trivial,
      fun _ => ends _ (getElem?_set_of_eq found)⟩

/-- The session is granted to a user who is enrolled with the secret of the code. -/
theorem createSession_meets {client : Client} {grantedOn : VerifiedCode}
    (enrolled : Enrolled opsUserId (some grantedOn.secret) s)
    (right : libraries.totpVerify grantedOn.secret grantedOn.totpCode grantedOn.verifiedAt = true) :
    (createSession opsUserId client grantedOn).Meets ((lasting libraries).contract tid)
      (fun _ _ => True) (fun _ _ => True) s := by
  refine statement_meets fun t moved granted i _ => ?_
  obtain ⟨ticked, ticks⟩ := Granted.tick granted i.elapsed
  have enrolled := ticks _ _ (moved _ _ enrolled)
  refine ⟨fun _ => ⟨ticked, ticks, trivial⟩, fun _ => ?_⟩
  generalize Clocked.tick i.elapsed t = u at ticked ticks enrolled
  dsimp only
  split
  · exact ⟨ticked, ticks, fun _ => trivial, fun _ => trivial⟩
  split
  · exact ⟨ticked, ticks, fun _ => trivial, fun _ => trivial⟩
  refine ⟨fun session member => ?_, ticks.trans (stays_of_users rfl), fun _ => trivial, fun _ => trivial⟩
  rcases List.mem_append.mp member with old | new
  · exact ticked session old
  · obtain rfl := List.mem_singleton.mp new
    exact ⟨enrolled, right⟩

theorem getKey_leaves {key : OpsKey} : (getKey key).Leaves view :=
  statement_leaves (fun _ _ => rfl) fun _ _ => rfl

theorem delKey_leaves {key : OpsKey} : (delKey key).Leaves view :=
  statement_leaves (fun _ _ => rfl) fun _ _ => rfl

theorem setToken_leaves {key : String → OpsKey} {ttlSec : Int} :
    (setToken key opsUserId ttlSec).Leaves view :=
  statement_leaves (fun _ _ => rfl) fun _ _ => rfl

theorem login_leaves {libraries : Libraries} {email password : String} :
    (login libraries email password).Leaves view := by
  refine Proc.Leaves.bind (statement_leaves (fun _ _ => rfl) fun _ _ => rfl) fun found => ?_
  cases found with
  | none => trivial
  | some row =>
    dsimp only
    split
    · trivial
    split
    · trivial
    split
    · exact setToken_leaves.bind fun _ => trivial
    · exact setToken_leaves.bind fun _ => trivial

theorem resolveEnrolment_leaves {enrolmentToken : String} :
    (resolveEnrolment enrolmentToken).Leaves view := by
  refine getKey_leaves.bind fun redeemed => ?_
  cases redeemed with
  | none => trivial
  | some opsUserId =>
    refine Proc.Leaves.bind (statement_leaves (fun _ _ => rfl) fun _ _ => rfl) fun found => ?_
    cases found with
    | none => trivial
    | some opsUser =>
      dsimp only
      split <;> trivial

/-- What nobody undoes, a procedure that leaves users and sessions alone does not undo. -/
theorem leaves_keeps {α : Type} {p : OpsAction α} {kept : OpsStore → Prop} (leaves : p.Leaves view)
    (stays : ∀ s t, Stays s t → kept s → kept t) (here : kept s) :
    p.Meets ((lasting libraries).contract tid) (fun _ => kept) (fun _ _ => True) s := by
  have complies : p.Complies ((lasting libraries).contract tid) := leaves_complies leaves
  exact ((complies s).frame stays (fun _ _ => stays) here).imp (fun _ _ ended => ended.2)
    fun _ _ _ => trivial

/-- The code is right for the secret that was read. -/
theorem verifyTotp_meets {secret totpCode : String} {kept : OpsStore → Prop}
    (stays : ∀ s t, Stays s t → kept s → kept t) (here : kept s) :
    (verifyTotp libraries opsUserId secret totpCode).Meets ((lasting libraries).contract tid)
      (fun code t => kept t ∧ code.secret = secret ∧
        libraries.totpVerify code.secret code.totpCode code.verifiedAt = true) (fun _ _ => True) s := by
  rw [verifyTotp, Proc.meets_access]
  intro t moved granted _ i _
  obtain ⟨ticked, ticks⟩ := Granted.tick granted i.elapsed
  dsimp only
  split
  · rename_i right
    exact ⟨ticked, ticks, stays t _ ticks (stays s t moved here), rfl, right⟩
  · exact ⟨ticked, ticks, trivial⟩

theorem findUser_meets : (findUser opsUserId).Meets ((lasting libraries).contract tid)
    (fun found t => ∀ user, found = some user → user.totpEnabled = true →
      Enrolled opsUserId user.totpSecret t) (fun _ _ => True) s := by
  refine statement_meets fun t _ granted i _ => ?_
  obtain ⟨ticked, ticks⟩ := Granted.tick granted i.elapsed
  refine ⟨fun _ => ⟨ticked, ticks, trivial⟩, fun _ => ⟨ticked, ticks, fun _ => trivial, fun _ => ?_⟩⟩
  exact fun user found enabled => ⟨user, found, enabled, rfl⟩

theorem enrolledSecret_some {user : OpsUser} {secret : String}
    (stored : enrolledSecret user = some secret) : user.totpSecret = some secret :=
  (Option.filter_eq_some_iff.mp stored).1

theorem verifyTwoFactor_meets {challengeId totpCode : String} {client : Client} :
    (verifyTwoFactor libraries challengeId totpCode client).Complies
      ((lasting libraries).contract tid) := by
  refine Proc.Complies.bind (leaves_complies getKey_leaves) fun redeemed => ?_
  cases redeemed with
  | none => exact Proc.complies_throw
  | some opsUserId =>
    intro s
    dsimp only
    refine findUser_meets.seq ?_
    intro found t enrolled
    cases found with
    | none => trivial
    | some opsUser =>
      dsimp only
      split
      · trivial
      · rename_i secret stored
        split at stored
        · rename_i enabled
          have enrolled := enrolled opsUser rfl enabled
          rw [enrolledSecret_some stored] at enrolled
          split
          · trivial
          refine (verifyTotp_meets (fun _ _ stays => stays opsUserId (some secret)) enrolled).seq ?_
          rintro code u ⟨enrolled, rfl, right⟩
          refine (leaves_keeps delKey_leaves (fun _ _ stays => stays _ _) enrolled).seq ?_
          intro _ u enrolled
          refine (createSession_meets enrolled right).seq ?_
          intro token u _
          have logged := @updateUser_meets libraries tid opsUserId u _ (.lastLogin opsUserId)
            (fun _ now opsUser => ((), { opsUser with lastLoginAt := some now })) (fun _ => True)
            fun _ _ _ _ _ _ => ⟨fun enabled => ⟨enabled, rfl⟩, fun _ _ => trivial⟩
          exact logged.seq fun _ _ _ => trivial
        · cases stored

theorem startEnrolment_meets {enrolmentToken : String} :
    (startEnrolment libraries enrolmentToken).Complies ((lasting libraries).contract tid) := by
  refine Proc.Complies.bind (leaves_complies resolveEnrolment_leaves) fun resolved s => ?_
  refine updateUser_meets fun i t user allowed made found => ⟨fun enabled => ?_, fun _ _ => trivial⟩
  -- Nobody who is enrolled gets a new secret.
  simp [undisturbed, made, found, enabled] at allowed

theorem confirmEnrolment_meets {enrolmentToken totpCode : String} {client : Client} :
    (confirmEnrolment libraries enrolmentToken totpCode client).Complies
      ((lasting libraries).contract tid) := by
  refine Proc.Complies.bind (leaves_complies resolveEnrolment_leaves) fun resolved => ?_
  obtain ⟨opsUserId, opsUser⟩ := resolved
  dsimp only
  cases enrolledSecret opsUser with
  | none => exact Proc.complies_throw
  | some secret =>
    intro s
    have always : (fun _ : OpsStore => True) s := trivial
    dsimp only
    refine (verifyTotp_meets (fun _ _ _ _ => trivial) always).seq ?_
    rintro code t ⟨_, rfl, right⟩
    refine (leaves_complies delKey_leaves t).seq ?_
    intro _ t _
    have enables : (updateUser (.enable opsUserId code.secret) opsUserId fun _ now row =>
        ((), { row with totpEnabled := true, lastLoginAt := some now })).Meets
        ((lasting libraries).contract tid) (fun _ => Enrolled opsUserId (some code.secret))
        (fun _ _ => True) t := by
      refine updateUser_meets fun i t user allowed made found => ⟨fun _ => ⟨rfl, rfl⟩, ?_⟩
      have stored : user.totpSecret = some code.secret := by
        simpa [undisturbed, made, found] using allowed
      exact fun u there => ⟨_, there, rfl, stored⟩
    exact enables.seq fun _ u enrolled => createSession_meets enrolled right

theorem procedure_meets {operation : Operation} :
    (procedure libraries tid operation).Complies ((lasting libraries).contract tid) := by
  have ends {α : Type} {p : OpsAction α} (complies : p.Complies ((lasting libraries).contract tid)) :
      (p.bind fun _ => .pure ()).Complies ((lasting libraries).contract tid) :=
    complies.bind fun _ _ => trivial
  cases operation with
  | login email password => exact ends (leaves_complies login_leaves)
  | verifyTwoFactor challengeId totpCode client => exact ends verifyTwoFactor_meets
  | startEnrolment enrolmentToken => exact ends startEnrolment_meets
  | confirmEnrolment enrolmentToken totpCode client => exact ends confirmEnrolment_meets

end Steps

/-- A user who is enrolled stays so with that secret, and each session was granted on a code
that is valid for it, in every run that nothing disturbs. -/
theorem enrolment_lasts {libraries : Libraries} {start : OpsStore} (granted : Granted libraries start)
    {trace : List (Nat × Event OpsStore (Reply OpsReply) OpsAccess)}
    {c : Config OpsStore (Reply OpsReply) OpsAccess OpsError Unit}
    (run : Runs (procedure libraries) start trace c)
    (calm : ∀ e ∈ trace, undisturbed e.2.label e.2.answer e.2.before = true) :
    (∀ e ∈ trace, Stays e.2.before e.2.after) ∧ Granted libraries c.shared := by
  have held : (lasting libraries).Holds (fun _ _ _ => True) (fun _ _ _ => True) trace c :=
    run.holds (lasting_sound libraries) (fun _ _ _ _ _ _ => trivial) (fun _ _ _ _ _ _ => trivial)
      granted (fun _ => trivial) (fun _ _ s _ _ => procedure_meets s) calm
  exact ⟨fun e member => (held.events e member).2.2, held.inv⟩

def firstSecret : String := "JBSWY3DPEHPK3PXP"
def secondSecret : String := "GEZDGNBVGY3TQOJQ"

/-- A password is its own hash; the codes are those of the first half minute. -/
def authenticator : Libraries where
  passwordVerify hash password := hash = password
  totpVerify secret totpCode at_ := 0 ≤ at_ && at_ < 30000 &&
    [(firstSecret, "282760"), (secondSecret, "891490")].contains (secret, totpCode)
  generateURI issuer label secret := "otpauth://totp/" ++ issuer ++ ":" ++ label ++ "?secret=" ++ secret
  toDataURL text := "data:image/png;base64," ++ text

def provisioned : OpsStore :=
  { now := 0, opsUsers := [{ email := "ops@example.com", passwordHash := "correct horse" }] }

def signIn : Choice Operation (Reply OpsReply) := .start (.login "ops@example.com" "correct horse")

def accesses (tid number : Nat) (random : String) : List (Choice Operation (Reply OpsReply)) :=
  List.replicate number (.run tid { data := { random } })

/-- The first login enrols, the second one is challenged. -/
def enrolThenVerify : List (Choice Operation (Reply OpsReply)) :=
  signIn :: accesses 0 2 "token" ++
    .start (.startEnrolment "token") :: accesses 1 3 firstSecret ++
    .start (.confirmEnrolment "token" "282760" {}) :: accesses 2 6 "session" ++
    signIn :: accesses 3 2 "challenge" ++
    .start (.verifyTwoFactor "challenge" "282760" {}) :: accesses 4 6 "later session"

theorem enrolment_lasts_sample : ∃ trace c, Runs (procedure authenticator) provisioned trace c ∧
    c.shared.sessions.length = 2 ∧ Granted authenticator c.shared := by
  obtain ⟨trace, c, run, checked⟩ := exists_run (procedure authenticator) provisioned enrolThenVerify
    (fun trace c => trace.all (fun e => undisturbed e.2.label e.2.answer e.2.before) &&
      decide (c.shared.sessions.length = 2)) (by decide +kernel)
  simp only [Bool.and_eq_true, List.all_eq_true, decide_eq_true_eq] at checked
  have granted : Granted authenticator provisioned := fun session member => by cases member
  exact ⟨trace, c, run, checked.2, (enrolment_lasts granted run checked.1).2⟩

/-- Two tokens are issued before the enrolment; the one that is left enrols again. -/
def enrolTwice : List (Choice Operation (Reply OpsReply)) :=
  signIn :: accesses 0 2 "token" ++ signIn :: accesses 1 2 "other token" ++
    .start (.startEnrolment "token") :: accesses 2 3 firstSecret ++
    .start (.confirmEnrolment "token" "282760" {}) :: accesses 3 6 "session" ++
    .start (.startEnrolment "other token") :: accesses 4 3 secondSecret ++
    .start (.confirmEnrolment "other token" "891490" {}) :: accesses 5 6 "other session"

theorem enrolment_replaced : ∃ trace c, Runs (procedure authenticator) provisioned trace c ∧
    (∃ e ∈ trace, Enrolled 0 (some firstSecret) e.2.before ∧ ¬ Enrolled 0 (some firstSecret) e.2.after) ∧
    ∃ session ∈ c.shared.sessions, session.grantedOn.secret = secondSecret := by
  obtain ⟨trace, c, run, checked⟩ := exists_run (procedure authenticator) provisioned enrolTwice
    (fun trace c => trace.any (fun e => decide (Enrolled 0 (some firstSecret) e.2.before ∧
        ¬ Enrolled 0 (some firstSecret) e.2.after)) &&
      c.shared.sessions.any fun session => decide (session.grantedOn.secret = secondSecret))
    (by decide +kernel)
  simp only [Bool.and_eq_true, List.any_eq_true, decide_eq_true_eq] at checked
  exact ⟨trace, c, run, checked.1, checked.2⟩

end Bitmonie.OpsAuth
