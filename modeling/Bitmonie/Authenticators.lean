import Bitmonie.Histories
import Bitmonie.SessionSafety

/-! The authenticators of customers, with any number of calls under way: which call may write
one, and how long one that is on stays as it is. -/
namespace Bitmonie.Sessions
open AuthService TransactionPinService

abbrev PortalEvent := Event Portal (Reply PortalReply) PortalAccess

def totpOf (userId : Nat) (s : Portal) : Option (Bool × Option String) :=
  (s.auth.users[userId]?).map fun user => (user.totpEnabled, user.totpSecret)

def FoundTotp (userId : Nat) (totp : Bool × Option String) : List PortalEvent → Prop :=
  Has fun e => e.label = .auth (.readUser userId) ∧ totpOf userId e.before = some totp

def CodeVerified (userId : Nat) (secret : String) : List PortalEvent → Prop :=
  Has fun e => e.answer.data.valid = true ∧
    ∃ totpCode, e.label = .auth (.verifyTotp userId secret totpCode)

def FoundSession (session : Session) : List PortalEvent → Prop :=
  Has fun e => e.label = .readSession session.tokenHash ∧ session ∈ e.before.sessions

def FoundOpen (session : Session) : List PortalEvent → Prop :=
  Has fun e => e.label = .checkExpiry ∧ Clocked.now e.after ≤ session.expiresAt

/-- The call came with a session of the user, which was open, and an account that was active. -/
def SignedIn (userId : Nat) (past : List PortalEvent) : Prop := ∃ session : Session,
  session.userId = userId ∧ FoundSession session past ∧ FoundOpen session past ∧
  Has (fun e => e.label = .readUser ∧ (e.before.flags userId).isActive = true) past

/-- What a write of an authenticator does, and what its call has done before. -/
inductive Write (userId : Nat) (past : List PortalEvent) (s t : Portal) : Prop
  | setup (old : Option String) (secret : String) : FoundTotp userId (false, old) past →
      totpOf userId t = some (false, some secret) → Write userId past s t
  | confirm (secret : String) (stored : Option String) : FoundTotp userId (false, some secret) past →
      CodeVerified userId secret past → (totpOf userId s).map Prod.snd = some stored →
      totpOf userId t = some (true, stored) → Write userId past s t
  | disable (secret : String) : FoundTotp userId (true, some secret) past →
      CodeVerified userId secret past → totpOf userId t = some (false, none) → Write userId past s t

def KeepsTotp (s t : Portal) : Prop := ∀ userId, totpOf userId t = totpOf userId s ∨
  totpOf userId s = none ∧ totpOf userId t = some (false, none)

def Changes (past : List PortalEvent) (e : PortalEvent) : Prop :=
  KeepsTotp e.before e.after ∨ ∃ userId, e.label = .writeTotp userId ∧ SignedIn userId past ∧
    (∀ other, other ≠ userId → totpOf other e.after = totpOf other e.before) ∧
      Write userId past e.before e.after

def keeping : Contract Portal (Reply PortalReply) PortalAccess :=
  ⟨fun _ => True, fun _ _ _ => True, fun _ _ => True, fun _ _ => KeepsTotp⟩

section Keeping
variable {α : Type} {tid : Nat} {toLowerCase : String → String}

theorem keepsTotp_of_users {s t : Portal} (same : t.auth.users = s.auth.users) : KeepsTotp s t :=
  fun userId => .inl (by simp only [totpOf, same])

theorem leaves_keeps {p : PortalAction α} (leaves : p.Leaves fun s => s.auth.users) :
    p.Complies keeping :=
  leaves.complies fun _ _ _ _ same _ => ⟨trivial, keepsTotp_of_users same⟩

theorem command_keeps {label : PortalAccess} {f : PortalReply → Portal → Except PortalError α × Portal}
    (same : ∀ reply s, (f reply s).2.auth.users = s.auth.users) : (command label f).Complies keeping :=
  leaves_keeps (statement_leaves (fun _ _ => rfl) same)

theorem onAuth_keeps {p : AuthAction α} (leaves : p.Leaves AuthStore.users) :
    (onAuth p).Complies keeping := by
  have zoomed : (p.zoom authPart).Leaves fun s => (authPart.get s).users := leaves.zoom
  exact leaves_keeps zoomed

theorem addUser_keeps (email : String) (s : Portal) : KeepsTotp s (addUser email s) := by
  intro userId
  rcases Nat.lt_trichotomy userId s.auth.users.length with old | rfl | beyond
  · left
    simp [totpOf, addUser, List.getElem?_append_left old]
  · right
    simp [totpOf, addUser]
  · left
    have old : s.auth.users[userId]? = none := List.getElem?_eq_none beyond.le
    have new : (s.auth.users ++ [({ email := email } : User)])[userId]? = none :=
      List.getElem?_eq_none (by simpa using Nat.succ_le_of_lt beyond)
    rw [totpOf, totpOf, addUser, old, new]

theorem createUser_keeps (email : String) : (createUser email).Complies keeping := by
  intro s
  rw [createUser, command]
  refine statement_meets fun t _ _ i _ => ?_
  have ticks : KeepsTotp t (Clocked.tick i.elapsed t) := keepsTotp_of_users rfl
  refine ⟨fun _ => ⟨trivial, ticks, trivial⟩, fun _ => ?_⟩
  split
  · exact ⟨trivial, ticks, fun _ => trivial, fun _ => trivial⟩
  · exact ⟨trivial, addUser_keeps email _, fun _ => trivial, fun _ => trivial⟩

theorem sendOtp_keeps (key : OtpKey) : (onAuth (sendOtp key)).Complies keeping := by
  refine onAuth_keeps ?_
  have plain {f : AuthReply → AuthStore → Except AuthError Unit × AuthStore} {label : AuthAccess}
      (same : ∀ reply s, (f reply s).2.users = s.users) :
      (statement .unavailable label f).Leaves AuthStore.users := statement_leaves (fun _ _ => rfl) same
  exact (plain fun _ _ => rfl).bind fun _ => (plain fun _ _ => rfl).bind fun _ => plain fun _ _ => rfl

theorem keeping_upheld : Upheld keeping where
  findUserByEmail _ := command_keeps fun _ _ => rfl
  createUser := createUser_keeps
  sendOtp := sendOtp_keeps
  findSession _ := command_keeps fun _ _ => rfl
  checkExpiry session := leaves_keeps (Proc.leaves_access fun _ _ => rfl)
  findUserById _ := command_keeps fun _ _ => rfl
  destroy _ := command_keeps fun _ _ => rfl
  destroyAll _ := command_keeps fun _ _ => rfl
  findUser userId := onAuth_keeps (statement_leaves (fun _ _ => rfl) fun _ s => by
    cases s.users[userId]? <;> rfl)
  totpVerify _ _ _ := leaves_keeps (Proc.leaves_access fun _ _ => rfl)

theorem consumeOtp_keeps (key : OtpKey) (otp : String) :
    (onAuth (consumeOtp tid key otp)).Complies keeping := by
  refine onAuth_keeps ?_
  have plain {α : Type} {f : AuthReply → AuthStore → Except AuthError α × AuthStore} {label : AuthAccess}
      (same : ∀ reply s, (f reply s).2.users = s.users) :
      (statement .unavailable label f).Leaves AuthStore.users := statement_leaves (fun _ _ => rfl) same
  refine (plain fun _ _ => rfl).bind fun attempts => ?_
  split
  · trivial
  refine (plain fun _ _ => rfl).bind fun stored => ?_
  cases stored with
  | none => trivial
  | some code =>
    refine (plain fun _ _ => rfl).bind fun _ => (plain fun _ _ => rfl).bind fun _ => ?_
    refine (Proc.leaves_access fun _ _ => rfl).bind fun _ => (plain fun _ _ => rfl).bind fun _ => ?_
    exact (plain fun _ _ => rfl).bind fun _ => Proc.leaves_access fun _ _ => rfl

theorem verifyEmail_keeps (email otp : String) :
    (verifyEmail toLowerCase tid email otp).Complies keeping := by
  refine (keeping_upheld.findUserByEmail _).bind fun found => ?_
  cases found with
  | none => exact Proc.complies_throw
  | some row =>
    dsimp only
    split
    · exact Proc.complies_throw
    · refine (consumeOtp_keeps _ _).bind fun _ => command_keeps fun _ s => ?_
      split <;> rfl

theorem verifyLoginOtp_keeps (email otp : String) (client : Client) :
    (verifyLoginOtp toLowerCase tid email otp client).Complies keeping := by
  refine (keeping_upheld.findUserByEmail _).bind fun found => ?_
  cases found with
  | none => exact Proc.complies_throw
  | some row =>
    dsimp only
    split
    · exact Proc.complies_throw
    · refine (consumeOtp_keeps _ _).bind fun _ => command_keeps fun _ s => ?_
      dsimp only
      split
      · rfl
      split
      · rfl
      split <;> rfl

end Keeping

section Writing
variable {past : List PortalEvent} {userId : Nat}

/-- A call that keeps authenticators, with any past. -/
theorem keeps_along {α : Type} {p : PortalAction α} (complies : p.Complies keeping) :
    p.Along Changes (fun _ _ => True) past :=
  complies.along fun _ _ _ _ _ keeps => .inl keeps

/-- A command that only reads, and what it has found. -/
theorem reads_along {α : Type} {label : PortalAccess} {f : Portal → α}
    (still : ∀ elapsed s, f (Clocked.tick elapsed s) = f s) :
    (command label fun _ s => (.ok (f s), s)).Along Changes
      (fun past a => Has (fun e => e.label = label ∧ f e.before = a) past) past := by
  refine along_statement (fun _ _ => .inl (keepsTotp_of_users rfl)) fun i s => ?_
  refine ⟨.inl (keepsTotp_of_users rfl), fun a ended => Has.last ⟨rfl, ?_⟩⟩
  exact (still i.elapsed s).symm.trans (Except.ok.inj ended)

theorem canActivate_along {request : Request} :
    (canActivate request).Along Changes (fun past userId => SignedIn userId past) past := by
  rw [canActivate]
  cases submitted (extractToken request) with
  | none => trivial
  | some token =>
    refine (reads_along fun _ _ => rfl).seq fun past found read => ?_
    cases found with
    | none => trivial
    | some session =>
      have listed : FoundSession session past := by
        obtain ⟨e, member, label, found⟩ := read
        have same : session.tokenHash = SessionService.hashToken token := by
          simpa using List.find?_some found
        exact ⟨e, member, same ▸ label, List.mem_of_find?_eq_some found⟩
      have checks : (checkExpiry session).Along Changes (fun past _ => FoundOpen session past) past := by
        refine Proc.along_access fun i s => ⟨.inl (keepsTotp_of_users rfl), fun _ ended => ?_⟩
        refine Has.last ⟨rfl, ?_⟩
        by_contra late
        have late : session.expiresAt < (Clocked.tick i.elapsed s).auth.now := not_le.mp late
        simp [late] at ended
      refine (checks.carry (FoundSession session) listed fun _ _ has => has.later _).seq
        fun past _ seen => ?_
      have reads : (findUserById session.userId).Along Changes _ past := reads_along fun _ _ => rfl
      refine (reads.carry (fun past => FoundOpen session past ∧ FoundSession session past) seen
        fun _ _ seen => ⟨seen.1.later _, seen.2.later _⟩).seq fun past user seen => ?_
      cases user with
      | none => trivial
      | some flags =>
        dsimp only
        split
        · trivial
        rename_i active
        obtain ⟨⟨e, member, label, found⟩, unexpired, listed⟩ := seen
        refine ⟨session, rfl, listed, unexpired, e, member, label, ?_⟩
        obtain ⟨row, -, rfl⟩ := Option.map_eq_some_iff.mp found
        simpa using active

theorem SignedIn.later (signedIn : SignedIn userId past) (e : PortalEvent) :
    SignedIn userId (past ++ [e]) := by
  obtain ⟨session, owner, listed, expiry, active⟩ := signedIn
  exact ⟨session, owner, listed.later e, expiry.later e, active.later e⟩

theorem onAuth_statement {α : Type} {label : AuthAccess}
    {f : AuthReply → AuthStore → Except AuthError α × AuthStore} :
    onAuth (statement .unavailable label f) = command (.auth label) fun reply s =>
      ((f ⟨reply.random, reply.valid⟩ s.auth).1.mapError .auth,
        { s with auth := (f ⟨reply.random, reply.valid⟩ s.auth).2 }) := by
  rw [onAuth, statement, Proc.zoom_access, command, statement]
  congr 1
  funext i s
  obtain ⟨elapsed, fails, lost, data⟩ := i
  cases fails <;> cases lost <;> rfl

/-- A read shows the authenticator as it is then. -/
theorem findUser_along : (onAuth (findUser userId)).Along Changes
    (fun past user => FoundTotp userId (user.totpEnabled, user.totpSecret) past) past := by
  rw [findUser, onAuth_statement]
  refine along_statement (fun _ _ => .inl (keepsTotp_of_users rfl)) fun i s => ?_
  have ticked : (Clocked.tick i.elapsed s).auth.users = s.auth.users := rfl
  rw [ticked]
  cases found : s.auth.users[userId]? with
  | none => exact ⟨.inl (keepsTotp_of_users rfl), nofun⟩
  | some row =>
    refine ⟨.inl (keepsTotp_of_users rfl), fun user ended => Has.last ⟨rfl, ?_⟩⟩
    obtain rfl : row = user := Except.ok.inj ended
    simp [totpOf, found]

theorem totpVerify_along {secret totpCode : String} :
    (totpVerify userId secret totpCode).Along Changes
      (fun past _ => CodeVerified userId secret past) past := by
  refine Proc.along_access fun i s => ⟨.inl (keepsTotp_of_users rfl), fun _ ended => ?_⟩
  refine Has.last ⟨?_, totpCode, rfl⟩
  by_contra wrong
  simp [wrong] at ended

/-- A write by a call with this past. -/
theorem updateTotp_along {α : Type} {data : PortalReply → User → α × User}
    (signedIn : SignedIn userId past)
    (writes : ∀ reply s t user, s.auth.users[userId]? = some user →
      totpOf userId t = some ((data reply user).2.totpEnabled, (data reply user).2.totpSecret) →
        Write userId past s t) :
    (updateTotp userId data).Along Changes (fun _ _ => True) past := by
  rw [updateTotp, command]
  refine along_statement (fun _ _ => .inl (keepsTotp_of_users rfl)) fun i s => ?_
  refine ⟨?_, fun _ _ => trivial⟩
  have ticked : (Clocked.tick i.elapsed s).auth.users = s.auth.users := rfl
  rw [ticked]
  cases found : s.auth.users[userId]? with
  | none => exact .inl (keepsTotp_of_users ticked)
  | some user =>
    have bound : userId < s.auth.users.length := (List.getElem?_eq_some_iff.mp found).1
    refine .inr ⟨userId, rfl, signedIn, fun other different => ?_, writes i.data _ _ user found ?_⟩
    · simp [totpOf, List.getElem?_set_ne different.symm]
    · simp [totpOf, bound]

theorem submitted_eq {text : Option String} {value : String}
    (given : submitted text = some value) : text = some value :=
  (Option.filter_eq_some_iff.mp given).1

theorem setup2fa_along (signedIn : SignedIn userId past) :
    (setup2fa userId).Along Changes (fun _ _ => True) past := by
  refine (findUser_along.carry (SignedIn userId) signedIn fun _ _ kept => kept.later _).seq
    fun past user seen => ?_
  obtain ⟨found, signedIn⟩ := seen
  split
  · trivial
  · rename_i off
    refine updateTotp_along signedIn fun reply s t row _ wrote => ?_
    refine .setup user.totpSecret reply.token ?_ wrote
    simpa [off] using found

/-- Once a code for the secret that was read is verified, a write follows. -/
theorem verified_along {α : Type} {secret totpCode : String} {totp : Bool × Option String}
    {data : PortalReply → User → α × User} (signedIn : SignedIn userId past)
    (found : FoundTotp userId totp past)
    (writes : ∀ past, FoundTotp userId totp past → CodeVerified userId secret past →
      ∀ reply s t user, s.auth.users[userId]? = some user →
        totpOf userId t = some ((data reply user).2.totpEnabled, (data reply user).2.totpSecret) →
          Write userId past s t) :
    ((totpVerify userId secret totpCode).bind fun _ => updateTotp userId data).Along Changes
      (fun _ _ => True) past := by
  refine (totpVerify_along.carry (fun past => SignedIn userId past ∧ FoundTotp userId totp past)
    ⟨signedIn, found⟩ fun _ _ kept => ⟨kept.1.later _, kept.2.later _⟩).seq
      fun past _ seen => ?_
  obtain ⟨verified, signedIn, found⟩ := seen
  exact updateTotp_along signedIn (writes past found verified)

theorem confirm2fa_along {totpCode : String} (signedIn : SignedIn userId past) :
    (confirm2fa userId totpCode).Along Changes (fun _ _ => True) past := by
  refine (findUser_along.carry (SignedIn userId) signedIn fun _ _ kept => kept.later _).seq
    fun past user seen => ?_
  obtain ⟨found, signedIn⟩ := seen
  split
  · trivial
  rename_i off
  cases given : submitted user.totpSecret with
  | none => trivial
  | some secret =>
    have found : FoundTotp userId (false, some secret) past := by
      simpa [off, submitted_eq given] using found
    refine verified_along signedIn found fun past found verified _ s t row listed wrote => ?_
    exact .confirm secret row.totpSecret found verified (by simp [totpOf, listed]) wrote

theorem disable2fa_along {totpCode : String} (signedIn : SignedIn userId past) :
    (disable2fa userId totpCode).Along Changes (fun _ _ => True) past := by
  refine (findUser_along.carry (SignedIn userId) signedIn fun _ _ kept => kept.later _).seq
    fun past user seen => ?_
  obtain ⟨found, signedIn⟩ := seen
  cases given : (if user.totpEnabled then submitted user.totpSecret else none) with
  | none => trivial
  | some secret =>
    have on : user.totpEnabled = true ∧ submitted user.totpSecret = some secret := by
      simpa using given
    have found : FoundTotp userId (true, some secret) past := by
      simpa [on.1, submitted_eq on.2] using found
    exact verified_along signedIn found fun past found verified _ s t row listed wrote =>
      .disable secret found verified wrote

theorem procedure_along {toLowerCase : String → String} (tid : Nat) (operation : Operation) :
    (procedure toLowerCase tid operation).Along Changes (fun _ _ => True) [] := by
  cases operation with
  | verifyEmail email otp => exact keeps_along (verifyEmail_keeps email otp)
  | verifyLoginOtp email otp client =>
    exact (keeps_along (verifyLoginOtp_keeps email otp client)).seq fun _ _ _ => trivial
  | setup2fa request =>
    refine canActivate_along.seq fun past userId signedIn => ?_
    exact (setup2fa_along signedIn).seq fun _ _ _ => trivial
  | confirm2fa request totpCode =>
    exact canActivate_along.seq fun past userId signedIn => confirm2fa_along signedIn
  | disable2fa request totpCode =>
    exact canActivate_along.seq fun past userId signedIn => disable2fa_along signedIn
  | _ => exact keeps_along (keeping_upheld.procedure rfl rfl)

end Writing

section Runs
variable {toLowerCase : String → String} {start : Portal} {trace past rest : Trace}
  {c : PortalConfig} {e : Nat × PortalEvent} {userId : Nat}

/-- Whatever changes an authenticator is a write of the user's own, with an open session. It
stores a new secret, if the call found it off; it switches on what is stored then, if the call
found it off and verified a code for the secret that it found; or it clears it, if the call
found it on and verified a code for that secret. -/
theorem authenticator_changes (run : Runs (procedure toLowerCase) start trace c)
    (split : trace = past ++ e :: rest) : Changes (own e.1 past) e.2 :=
  run.along procedure_along split

/-- A write of an authenticator finds it as its call had read it. -/
def rereads (past : Trace) (e : Nat × PortalEvent) : Bool :=
  match e.2.label with
  | .writeTotp userId => (own e.1 past).all fun read =>
      read.label ≠ .auth (.readUser userId) || totpOf userId read.before = totpOf userId e.2.before
  | _ => true

def Undisturbed (trace : Trace) : Prop := Throughout rereads [] trace = true

instance (trace : Trace) : Decidable (Undisturbed trace) := inferInstanceAs (Decidable (_ = _))

theorem Undisturbed.found {totp : Bool × Option String} (undisturbed : Undisturbed trace)
    (split : trace = past ++ e :: rest) (label : e.2.label = .writeTotp userId)
    (found : FoundTotp userId totp (own e.1 past)) : totpOf userId e.2.before = some totp := by
  subst split
  have same : rereads past e = true := Throughout.at undisturbed
  simp only [rereads, label, List.all_eq_true, Bool.or_eq_true, decide_eq_true_eq] at same
  obtain ⟨read, member, reads, before⟩ := found
  rcases same read member with other | same
  · exact absurd reads other
  · exact same ▸ before

/-- A write of an authenticator that switches it on. -/
theorem switched_on (undisturbed : Undisturbed trace) (split : trace = past ++ e :: rest)
    {stored : Option String} (changes : Changes (own e.1 past) e.2)
    (before : totpOf userId e.2.before ≠ some (true, stored))
    (after : totpOf userId e.2.after = some (true, stored)) :
    e.2.label = .writeTotp userId ∧ SignedIn userId (own e.1 past) ∧
      ∃ secret, stored = some secret ∧ CodeVerified userId secret (own e.1 past) := by
  rcases changes with keeps | ⟨writer, label, signedIn, others, write⟩
  · rcases keeps userId with same | ⟨-, off⟩
    · exact absurd (same ▸ after) before
    · simp [off] at after
  · have own_ : userId = writer := by
      by_contra other
      exact before (others userId other ▸ after)
    subst own_
    cases write with
    | setup old secret found off => simp [off] at after
    | confirm secret kept found verified row on =>
      refine ⟨label, signedIn, secret, ?_, verified⟩
      have same := undisturbed.found split label found
      simp only [same, Option.map_some, Option.some.injEq] at row
      simp only [on, Option.some.injEq, Prod.mk.injEq, true_and] at after
      rw [← after, ← row]
    | disable secret found verified off => simp [off] at after

/-- What an access does to an authenticator that is on. -/
theorem switched_off (undisturbed : Undisturbed trace) (split : trace = past ++ e :: rest)
    {secret : String} (changes : Changes (own e.1 past) e.2)
    (before : totpOf userId e.2.before = some (true, some secret)) :
    totpOf userId e.2.after = totpOf userId e.2.before ∨
      e.2.label = .writeTotp userId ∧ SignedIn userId (own e.1 past) ∧
        CodeVerified userId secret (own e.1 past) ∧ totpOf userId e.2.after = some (false, none) := by
  rcases changes with keeps | ⟨writer, label, signedIn, others, write⟩
  · rcases keeps userId with same | ⟨absent, -⟩
    · exact .inl same
    · simp [absent] at before
  · by_cases own_ : userId = writer
    · subst own_
      have seen (totp : Bool × Option String) (found : FoundTotp userId totp (own e.1 past)) :
          totp = (true, some secret) := by
        have same := undisturbed.found split label found
        exact Option.some.inj (same.symm.trans before)
      cases write with
      | setup old other found => cases seen _ found
      | confirm other kept found => cases seen _ found
      | disable other found verified off =>
        obtain ⟨-, rfl⟩ := seen _ found
        exact .inr ⟨label, signedIn, verified, off⟩
    · exact .inl (others userId own_)

/-- As long as each write finds what its call had read, an authenticator that is on was
switched on by its user, who had shown a code for exactly its secret; it has not changed since,
and the only access that changes it is its user's, who has shown another code for it. -/
theorem authenticator_lasts (run : Runs (procedure toLowerCase) start trace c)
    (off : ∀ userId stored, totpOf userId start ≠ some (true, stored))
    (undisturbed : Undisturbed trace) (split : trace = past ++ e :: rest) {stored : Option String}
    (on : totpOf userId e.2.before = some (true, stored)) :
    ∃ secret, stored = some secret ∧
      (∃ first made since, past = first ++ made :: since ∧ made.2.label = .writeTotp userId ∧
        SignedIn userId (own made.1 first) ∧ CodeVerified userId secret (own made.1 first) ∧
        ∀ e' ∈ since, totpOf userId e'.2.before = some (true, some secret) ∧
          totpOf userId e'.2.after = some (true, some secret)) ∧
      (totpOf userId e.2.after = totpOf userId e.2.before ∨
        e.2.label = .writeTotp userId ∧ SignedIn userId (own e.1 past) ∧
          CodeVerified userId secret (own e.1 past) ∧
            totpOf userId e.2.after = some (false, none)) := by
  obtain ⟨first, made, since, rfl, before, after, kept⟩ :=
    run.became (fun s => totpOf userId s = some (true, stored)) (off userId stored) split on
  have whole : trace = first ++ made :: (since ++ e :: rest) := by simp [split]
  have changed : Changes (own made.1 first) made.2 := run.along procedure_along whole
  obtain ⟨label, signedIn, secret, rfl, verified⟩ :=
    switched_on undisturbed whole changed before after
  have changes : Changes (own e.1 (first ++ made :: since)) e.2 := run.along procedure_along split
  exact ⟨secret, rfl, ⟨first, made, since, rfl, label, signedIn, verified, kept⟩,
    switched_off undisturbed split changes on⟩

end Runs

def visitor : Portal where
  auth := { now := 0, users := [{ email := "ada@example.com" }] }
  sessions := [⟨0, ⟨"token"⟩, 86400000, none, none, 0⟩]

def enrolment : List (Choice Operation (Reply PortalReply)) :=
  .start (.setup2fa (asked "token")) :: accesses 0 5 "JBSWY3DP" ++
    .start (.confirm2fa (asked "token") "123456") ::
      List.replicate 6 (.run 1 { data := { valid := true } }) ++
    .start (.disable2fa (asked "token") "654321") ::
      List.replicate 6 (.run 2 { data := { valid := true } })

theorem visitor_off (userId : Nat) (stored : Option String) :
    totpOf userId visitor ≠ some (true, stored) := by
  cases userId <;> simp [totpOf, visitor]

theorem authenticator_changes_enrolment : ∃ (trace past rest : Trace) (c : PortalConfig)
    (e : Nat × PortalEvent), Runs (procedure id) visitor trace c ∧ trace = past ++ e :: rest ∧
      totpOf 0 e.2.before ≠ totpOf 0 e.2.after ∧ Changes (own e.1 past) e.2 := by
  obtain ⟨trace, c, run, checked⟩ := exists_run (procedure id) visitor enrolment
    (fun trace _ => trace.any fun e => decide (totpOf 0 e.2.before ≠ totpOf 0 e.2.after))
    (by decide +kernel)
  simp only [decide_eq_true_eq, List.any_eq_true] at checked
  obtain ⟨e, member, changed⟩ := checked
  obtain ⟨past, rest, split⟩ := List.append_of_mem member
  exact ⟨trace, past, rest, c, e, run, split, changed, authenticator_changes run split⟩

theorem authenticator_lasts_disabled : ∃ (trace past rest : Trace) (c : PortalConfig)
    (e : Nat × PortalEvent) (secret : String),
    Runs (procedure id) visitor trace c ∧ trace = past ++ e :: rest ∧
      e.2.label = .writeTotp 0 ∧
      (∃ first made since, past = first ++ made :: since ∧ made.2.label = .writeTotp 0 ∧
        SignedIn 0 (own made.1 first) ∧ CodeVerified 0 secret (own made.1 first) ∧
        ∀ e' ∈ since, totpOf 0 e'.2.before = some (true, some secret) ∧
          totpOf 0 e'.2.after = some (true, some secret)) ∧
      (totpOf 0 e.2.after = totpOf 0 e.2.before ∨
        e.2.label = .writeTotp 0 ∧ SignedIn 0 (own e.1 past) ∧
          CodeVerified 0 secret (own e.1 past) ∧ totpOf 0 e.2.after = some (false, none)) := by
  obtain ⟨trace, c, run, checked⟩ := exists_run (procedure id) visitor enrolment
    (fun trace _ => decide (Undisturbed trace) && trace.any fun e =>
      decide (e.2.label = .writeTotp 0 ∧ totpOf 0 e.2.before = some (true, some "JBSWY3DP")))
    (by decide +kernel)
  simp only [Bool.and_eq_true, decide_eq_true_eq, List.any_eq_true] at checked
  obtain ⟨undisturbed, e, member, label, on⟩ := checked
  obtain ⟨past, rest, split⟩ := List.append_of_mem member
  obtain ⟨secret, -, lasts⟩ := authenticator_lasts run visitor_off undisturbed split on
  exact ⟨trace, past, rest, c, e, secret, run, split, label, lasts⟩

end Bitmonie.Sessions
