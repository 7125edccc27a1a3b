import Bitmonie.OneTimeCode
import Bitmonie.Sessions

/-! Where sessions come from and when they end, with any number of calls under way. -/
namespace Bitmonie.Sessions
open AuthService TransactionPinService OneTimeCode

structure Upheld (d : Contract Portal (Reply PortalReply) PortalAccess) : Prop where
  findUserByEmail : ∀ email, (findUserByEmail email).Complies d
  createUser : ∀ email, (createUser email).Complies d
  sendOtp : ∀ key, (onAuth (sendOtp key)).Complies d
  findSession : ∀ tokenHash, (findSession tokenHash).Complies d
  checkExpiry : ∀ session, (checkExpiry session).Complies d
  findUserById : ∀ userId, (findUserById userId).Complies d
  destroy : ∀ tokenHash, (SessionService.destroy tokenHash).Complies d
  destroyAll : ∀ userId, (SessionService.destroyAll userId).Complies d
  findUser : ∀ userId, (onAuth (findUser userId)).Complies d
  totpVerify : ∀ userId secret totpCode, (totpVerify userId secret totpCode).Complies d

structure UpheldTotp (d : Contract Portal (Reply PortalReply) PortalAccess) : Prop
    extends Upheld d where
  updateTotp : ∀ {α : Type} userId (data : PortalReply → User → α × User),
    (∀ reply user, (data reply user).2.email = user.email) → (updateTotp userId data).Complies d

def Operation.submits : Operation → Bool
  | .verifyEmail _ _ => true
  | .verifyLoginOtp _ _ _ => true
  | _ => false

def Operation.enrols : Operation → Bool
  | .setup2fa _ => true
  | .confirm2fa _ _ => true
  | .disable2fa _ _ => true
  | _ => false

section Calls
variable {d : Contract Portal (Reply PortalReply) PortalAccess} {toLowerCase : String → String}
  {tid userId : Nat} {email totpCode : String}

theorem Upheld.canActivate (upheld : Upheld d) {request : Request} :
    (canActivate request).Complies d := by
  rw [Sessions.canActivate]
  cases submitted (extractToken request) with
  | none => exact Proc.complies_throw
  | some token =>
    refine (upheld.findSession _).bind fun found => ?_
    cases found with
    | none => exact Proc.complies_throw
    | some session =>
      refine (upheld.checkExpiry session).bind fun _ => (upheld.findUserById _).bind fun user => ?_
      cases user with
      | none => exact Proc.complies_throw
      | some flags =>
        dsimp only
        split <;> exact fun _ => trivial

theorem Upheld.signup (upheld : Upheld d) : (signup toLowerCase email).Complies d := by
  refine (upheld.findUserByEmail _).bind fun existing => ?_
  cases existing with
  | none => exact (upheld.createUser _).bind fun _ => upheld.sendOtp _
  | some row =>
    dsimp only
    split
    · exact Proc.complies_throw
    · exact upheld.sendOtp _

theorem Upheld.resendVerificationEmail (upheld : Upheld d) :
    (resendVerificationEmail toLowerCase email).Complies d := by
  refine (upheld.findUserByEmail _).bind fun user => ?_
  cases user with
  | none => exact fun _ => trivial
  | some row =>
    dsimp only
    split
    · exact fun _ => trivial
    · exact upheld.sendOtp _

theorem Upheld.requestLoginOtp (upheld : Upheld d) : (requestLoginOtp toLowerCase email).Complies d := by
  refine (upheld.findUserByEmail _).bind fun user => ?_
  cases user with
  | none => exact Proc.complies_throw
  | some row =>
    dsimp only
    split
    · exact Proc.complies_throw
    · exact upheld.sendOtp _

theorem UpheldTotp.setup2fa (upheld : UpheldTotp d) : (setup2fa userId).Complies d := by
  refine (upheld.findUser userId).bind fun user => ?_
  split
  · exact Proc.complies_throw
  · exact upheld.updateTotp _ _ fun _ _ => rfl

theorem UpheldTotp.confirm2fa (upheld : UpheldTotp d) : (confirm2fa userId totpCode).Complies d := by
  refine (upheld.findUser userId).bind fun user => ?_
  split
  · exact Proc.complies_throw
  cases submitted user.totpSecret with
  | none => exact Proc.complies_throw
  | some secret =>
    exact (upheld.totpVerify _ _ _).bind fun _ => upheld.updateTotp _ _ fun _ _ => rfl

theorem UpheldTotp.disable2fa (upheld : UpheldTotp d) : (disable2fa userId totpCode).Complies d := by
  refine (upheld.findUser userId).bind fun user => ?_
  cases (if user.totpEnabled then submitted user.totpSecret else none) with
  | none => exact Proc.complies_throw
  | some secret =>
    exact (upheld.totpVerify _ _ _).bind fun _ => upheld.updateTotp _ _ fun _ _ => rfl

theorem Upheld.procedure (upheld : Upheld d) {operation : Operation}
    (other : operation.submits = false) (plain : operation.enrols = false) :
    (procedure toLowerCase tid operation).Complies d := by
  cases operation with
  | signup email => exact upheld.signup
  | verifyEmail email otp => cases other
  | resendVerificationEmail email => exact upheld.resendVerificationEmail
  | requestLoginOtp email => exact upheld.requestLoginOtp
  | verifyLoginOtp email otp client => cases other
  | guarded request => exact upheld.canActivate.bind fun _ _ => trivial
  | logout request => exact upheld.canActivate.bind fun _ => upheld.destroy _
  | logoutAll request => exact upheld.canActivate.bind fun userId => upheld.destroyAll userId
  | setup2fa request => cases plain
  | confirm2fa request totpCode => cases plain
  | disable2fa request totpCode => cases plain

theorem UpheldTotp.procedure (upheld : UpheldTotp d) {operation : Operation}
    (other : operation.submits = false) : (procedure toLowerCase tid operation).Complies d := by
  cases operation with
  | setup2fa request =>
    refine upheld.canActivate.bind fun userId => ?_
    exact upheld.setup2fa.bind fun _ _ => trivial
  | confirm2fa request totpCode => exact upheld.canActivate.bind fun _ => upheld.confirm2fa
  | disable2fa request totpCode => exact upheld.canActivate.bind fun _ => upheld.disable2fa
  | _ => exact upheld.toUpheld.procedure other rfl

end Calls

def Noted (s t : AuthStore) : Prop := s.otpEvents ⊆ t.otpEvents ∧ t.users = s.users

def noting : Contract AuthStore (Reply AuthReply) AuthAccess where
  inv _ := True
  allowed _ _ _ := True
  rely s t := s.otpEvents ⊆ t.otpEvents
  guar _ _ := Noted

section Codes
variable {s : AuthStore} {tid issue : Nat} {key : OtpKey}

theorem noted_tick (elapsed : Nat) : Noted s (Clocked.tick elapsed s) := ⟨List.Subset.refl _, rfl⟩

theorem statement_notes {α : Type} {fault : AuthError} {label : AuthAccess}
    {f : AuthReply → AuthStore → Except AuthError α × AuthStore}
    (keeps : ∀ reply s, Noted s (f reply s).2) : (statement fault label f).Complies noting := by
  intro s
  refine statement_meets fun t _ _ i _ => ?_
  have kept : Noted (Clocked.tick i.elapsed t) (f i.data (Clocked.tick i.elapsed t)).2 := keeps _ _
  refine ⟨fun _ => ⟨trivial, noted_tick _, trivial⟩, fun _ => ⟨trivial, kept, fun _ => trivial,
    fun _ => ?_⟩⟩
  rcases f i.data (Clocked.tick i.elapsed t) with ⟨_ | _, _⟩ <;> trivial

theorem sendOtp_notes : (sendOtp key).Complies noting := by
  have plain (label : AuthAccess) (f : AuthReply → AuthStore → Except AuthError Unit × AuthStore)
      (keeps : ∀ reply s, Noted s (f reply s).2) :
      (statement .unavailable label f).Complies noting := statement_notes keeps
  refine (plain _ _ fun _ _ => ⟨List.Subset.refl _, rfl⟩).bind fun _ => ?_
  refine (plain _ _ fun _ _ => ⟨List.Subset.refl _, rfl⟩).bind fun _ => ?_
  exact plain _ _ fun _ _ => ⟨List.Subset.refl _, rfl⟩

theorem findUser_notes {userId : Nat} : (findUser userId).Complies noting := by
  refine statement_notes fun _ s => ?_
  cases s.users[userId]? <;> exact ⟨List.Subset.refl _, rfl⟩

theorem noted_noted {kind : OtpEventKind} {t : AuthStore} (same : t.otpEvents = s.otpEvents)
    (users : t.users = s.users) : Noted s (noted kind key issue tid t) := by
  constructor
  · simp [noted, same]
  · exact users

/-- A call that returns has noted that it accepted a code of the key. -/
theorem consumeOtp_accepts {otp : String} : (consumeOtp tid key otp).Meets noting
    (fun _ t => ∃ issue, (⟨.accepted, key, issue, tid⟩ : OtpEvent) ∈ t.otpEvents)
    (fun _ _ => True) s := by
  have looks {α : Type} (label : AuthAccess) (f : AuthReply → AuthStore → Except AuthError α × AuthStore)
      (same : ∀ reply s, (f reply s).2.otpEvents = s.otpEvents ∧ (f reply s).2.users = s.users) :
      (statement .unavailable label f).Complies noting :=
    statement_notes fun reply s => ⟨by rw [(same reply s).1]; exact List.Subset.refl _,
      (same reply s).2⟩
  rw [consumeOtp]
  refine (looks _ _ (fun _ _ => ⟨rfl, rfl⟩) s).seq fun attempts t _ => ?_
  split
  · trivial
  refine (looks _ _ (fun _ _ => ⟨rfl, rfl⟩) t).seq fun stored t _ => ?_
  cases stored with
  | none => trivial
  | some code =>
    dsimp only
    refine (statement_notes (fun _ _ => noted_noted rfl rfl) t).seq fun _ t _ => ?_
    refine (looks _ _ (fun _ _ => ⟨rfl, rfl⟩) t).seq fun _ t _ => ?_
    have compared : (compareCode tid key code otp).Complies noting := by
      intro s
      rw [compareCode, Proc.meets_access]
      intro t _ _ _ i _
      refine ⟨trivial, noted_noted rfl rfl, ?_⟩
      split <;> trivial
    refine (compared t).seq fun _ t _ => ?_
    refine (statement_notes (fun _ _ => noted_noted rfl rfl) t).seq fun _ t _ => ?_
    refine (looks _ _ (fun _ _ => ⟨rfl, rfl⟩) t).seq fun _ t _ => ?_
    rw [acceptCode, Proc.meets_access]
    intro t _ _ _ i _
    exact ⟨trivial, noted_noted rfl rfl, code.issue, by simp [noted]⟩

end Codes

def emailOf (s : Portal) (userId : Nat) : Option String := (s.auth.users[userId]?).map (·.email)

def Verified (userId : Nat) (email : String) (s : Portal) : Prop :=
  emailOf s userId = some email ∧ (s.flags userId).emailVerified = true

/-- The call has accepted a code that was mailed to the address. -/
def Accepted (tid : Nat) (purpose : EmailScopedPurpose) (email : String) (s : Portal) : Prop :=
  ∃ issue, (⟨.accepted, .emailOtpKey purpose email, issue, tid⟩ : OtpEvent) ∈ s.auth.otpEvents

/-- Nobody loses an address, its verification or a code that was accepted. -/
structure Grows (s t : Portal) : Prop where
  events : s.auth.otpEvents ⊆ t.auth.otpEvents
  emails : ∀ userId email, emailOf s userId = some email → emailOf t userId = some email
  verified : ∀ userId email, Verified userId email s → Verified userId email t

/-- Each session was made by its own call, on a code that was mailed to its user. -/
structure Accounted (s : Portal) : Prop where
  rows : s.sessions ⊆ s.minted
  hashes : (s.sessions.map (·.tokenHash)).Nodup
  calls : (s.minted.map (·.mintedBy)).Nodup
  emails : (s.auth.users.map (·.email)).Nodup
  minted : ∀ session ∈ s.minted, ∃ email, Verified session.userId email s ∧
    Accepted session.mintedBy .login email s
  verified : ∀ userId email, Verified userId email s → ∃ tid, Accepted tid .verify email s

/-- What one access of a call may do to the sessions. -/
structure Moves (tid : Nat) (label : PortalAccess) (i : Reply PortalReply) (s t : Portal) : Prop where
  grows : Grows s t
  others : ∀ session ∈ t.minted, session.mintedBy ≠ tid → session ∈ s.minted
  made : ∀ session ∈ t.sessions, session ∉ s.sessions → label = .createSession session.userId ∧
    session.mintedBy = tid ∧ session.expiresAt = Clocked.now t + sessionTtlSec * 1000
  ended : ∀ tokenHash, label = .deleteSession tokenHash → i.fails = false →
    ∀ session ∈ t.sessions, session.tokenHash ≠ tokenHash
  endedAll : ∀ userId, label = .deleteSessions userId → i.fails = false →
    ∀ session ∈ t.sessions, session.userId ≠ userId

def NoneMade (tid : Nat) (s : Portal) : Prop := ∀ session ∈ s.minted, session.mintedBy ≠ tid

def minting : Discipline Portal (Reply PortalReply) PortalAccess where
  inv := Accounted
  allowed _ _ _ := True
  fresh := NoneMade
  rely tid s t := Grows s t ∧ ∀ session ∈ t.minted, session.mintedBy = tid → session ∈ s.minted
  guar tid := Moves tid

section Steps
variable {s t : Portal} {tid userId : Nat} {email : String} {label : PortalAccess}
  {i : Reply PortalReply} {kept : Portal → Prop}

theorem Grows.trans {r : Portal} (first : Grows r s) (second : Grows s t) : Grows r t where
  events _ member := second.events (first.events member)
  emails userId email found := second.emails userId email (first.emails userId email found)
  verified userId email found := second.verified userId email (first.verified userId email found)

theorem minting_sound : minting.Sound where
  refl _ _ := ⟨⟨List.Subset.refl _, fun _ _ found => found, fun _ _ found => found⟩,
    fun _ member _ => member⟩
  trans _ _ _ _ first second := ⟨first.1.trans second.1,
    fun session member own => first.2 session (second.2 session member own) own⟩
  compatible _ _ _ _ _ _ different _ moves := ⟨moves.grows,
    fun session member own => moves.others session member (own ▸ different.symm)⟩
  fresh _ _ _ rely none session member own := none session (rely.2 session member own) own

theorem Accepted.grows {purpose : EmailScopedPurpose} (accepted : Accepted tid purpose email s)
    (events : s.auth.otpEvents ⊆ t.auth.otpEvents) : Accepted tid purpose email t :=
  accepted.imp fun _ member => events member

def rowsView (s : Portal) : List String × (Nat → AccountFlags) × List Session × List Session :=
  (s.auth.users.map (·.email), s.flags, s.sessions, s.minted)

theorem emailOf_eq_getElem? : emailOf s userId = (s.auth.users.map (·.email))[userId]? := by
  simp [emailOf]

theorem grows_of_view (same : rowsView t = rowsView s)
    (events : s.auth.otpEvents ⊆ t.auth.otpEvents) : Grows s t := by
  simp only [rowsView, Prod.mk.injEq] at same
  obtain ⟨users, flags, -, -⟩ := same
  have emails (userId : Nat) : emailOf t userId = emailOf s userId := by
    rw [emailOf_eq_getElem?, emailOf_eq_getElem?, users]
  refine ⟨events, fun userId email found => (emails userId).trans found, fun userId email found => ?_⟩
  exact ⟨(emails userId).trans found.1, flags ▸ found.2⟩

theorem Accounted.of_view (accounted : Accounted s) (same : rowsView t = rowsView s)
    (events : s.auth.otpEvents ⊆ t.auth.otpEvents) : Accounted t := by
  have back : ∀ userId email, Verified userId email t → Verified userId email s := by
    simp only [rowsView, Prod.mk.injEq] at same
    intro userId email found
    refine ⟨?_, same.2.1 ▸ found.2⟩
    rw [emailOf_eq_getElem?, ← same.1, ← emailOf_eq_getElem?]
    exact found.1
  have grows := grows_of_view same events
  simp only [rowsView, Prod.mk.injEq] at same
  obtain ⟨users, flags, sessions, minted⟩ := same
  refine ⟨by rw [sessions, minted]; exact accounted.rows, by rw [sessions]; exact accounted.hashes,
    by rw [minted]; exact accounted.calls, by rw [users]; exact accounted.emails, ?_, ?_⟩
  · intro session member
    obtain ⟨email, verified, accepted⟩ := accounted.minted session (minted ▸ member)
    exact ⟨email, grows.verified _ _ verified, accepted.grows events⟩
  · intro userId email verified
    obtain ⟨other, accepted⟩ := accounted.verified userId email (back userId email verified)
    exact ⟨other, accepted.grows events⟩

/-- A step that is not about sessions. -/
theorem moves_of_grows (grows : Grows s t) (sessions : t.sessions = s.sessions)
    (minted : t.minted = s.minted) (one : ∀ tokenHash, label ≠ .deleteSession tokenHash)
    (all : ∀ userId, label ≠ .deleteSessions userId) : Moves tid label i s t where
  grows := grows
  others _ member _ := minted ▸ member
  made _ member absent := absurd (sessions ▸ member) absent
  ended tokenHash same := absurd same (one tokenHash)
  endedAll userId same := absurd same (all userId)

/-- The statement was not made. -/
theorem moves_tick (elapsed : Nat) (failed : i.fails = true) :
    Moves tid label i s (Clocked.tick elapsed s) where
  grows := grows_of_view rfl (List.Subset.refl _)
  others _ member _ := member
  made _ member absent := absurd member absent
  ended _ _ made := by simp [failed] at made
  endedAll _ _ made := by simp [failed] at made

/-- Time passes before a step. -/
theorem Moves.ticked {elapsed : Nat} (moves : Moves tid label i (Clocked.tick elapsed s) t) :
    Moves tid label i s t :=
  have ticked : Grows s (Clocked.tick elapsed s) := grows_of_view rfl (List.Subset.refl _)
  { moves with grows := ticked.trans moves.grows }

/-- What other calls do not undo. -/
def Lasting (tid : Nat) (kept : Portal → Prop) : Prop :=
  ∀ s t, minting.rely tid s t → kept s → kept t

theorem lasting_true : Lasting tid fun _ => True := fun _ _ _ _ => trivial

theorem command_meets {α : Type} {f : PortalReply → Portal → Except PortalError α × Portal}
    {post : α → Portal → Prop} (lasting : Lasting tid kept) (here : kept s)
    (does : ∀ i t, i.fails = false → Accounted t → kept t → Accounted (f i.data t).2 ∧
      Moves tid label i t (f i.data t).2 ∧ Proc.outcome post (fun _ _ => True) (f i.data t)) :
    (command label f).Meets (minting.contract tid) post (fun _ _ => True) s := by
  refine statement_meets fun t moved accounted i _ => ?_
  have same : rowsView (Clocked.tick i.elapsed t) = rowsView t := rfl
  have ticked := Accounted.of_view accounted same (List.Subset.refl _)
  have grows : Grows t (Clocked.tick i.elapsed t) := grows_of_view same (List.Subset.refl _)
  refine ⟨fun failed => ⟨ticked, moves_tick _ failed, trivial⟩, fun made => ?_⟩
  have here := lasting t _ ⟨grows, fun _ member _ => member⟩ (lasting s t moved here)
  obtain ⟨accounted', moves, ended⟩ := does i _ made ticked here
  exact ⟨accounted', moves.ticked, fun _ => trivial, fun _ => ended⟩

/-- A command that only reads. -/
theorem reads_meets {α : Type} {f : Portal → α} {post : α → Portal → Prop}
    (lasting : Lasting tid kept) (here : kept s) (one : ∀ tokenHash, label ≠ .deleteSession tokenHash)
    (all : ∀ userId, label ≠ .deleteSessions userId) (reads : ∀ t, kept t → post (f t) t) :
    (command label fun _ t => (.ok (f t), t)).Meets (minting.contract tid) post (fun _ _ => True) s :=
  command_meets lasting here fun _ t _ accounted here =>
    ⟨accounted, moves_of_grows (grows_of_view rfl (List.Subset.refl _)) rfl rfl one all, reads t here⟩

theorem onAuth_meets {α : Type} {p : AuthAction α} {post : α → AuthStore → Prop}
    (lasting : Lasting tid kept) (here : kept s)
    (meets : p.Meets noting post (fun _ _ => True) s.auth) :
    (onAuth p).Meets (minting.contract tid) (fun a t => post a t.auth ∧ kept t) (fun _ _ => True) s := by
  have moves : ∀ s t, minting.rely tid s t → kept s →
      s.auth.otpEvents ⊆ t.auth.otpEvents ∧ kept t :=
    fun s t moved here => ⟨moved.1.events, lasting s t moved here⟩
  refine (Proc.Meets.zoom moves (fun _ _ _ _ _ _ => ⟨trivial, trivial⟩) ?_ here meets).imp
    (fun _ _ ended => ended) fun _ _ _ => trivial
  intro l i t u accounted here _ noted
  have same : rowsView (authPart.set t u) = rowsView t := by simp [rowsView, authPart, noted.2]
  have grows : Grows t (authPart.set t u) := grows_of_view same noted.1
  exact ⟨Accounted.of_view accounted same noted.1,
    moves_of_grows grows rfl rfl (fun _ => PortalAccess.noConfusion) fun _ => PortalAccess.noConfusion,
    lasting t _ ⟨grows, fun _ member _ => member⟩ here⟩

theorem onAuth_complies {α : Type} {p : AuthAction α} (complies : p.Complies noting) :
    (onAuth p).Complies (minting.contract tid) :=
  fun s => (onAuth_meets lasting_true trivial (complies s.auth)).imp (fun _ _ _ => trivial)
    fun _ _ _ => trivial

theorem findUserByEmail_meets (lasting : Lasting tid kept) (here : kept s) :
    (findUserByEmail email).Meets (minting.contract tid) (fun found t => kept t ∧
      ∀ userId flags, found = some (userId, flags) → emailOf t userId = some email ∧
        (flags.emailVerified = true → Verified userId email t)) (fun _ _ => True) s := by
  refine reads_meets lasting here (fun _ => PortalAccess.noConfusion)
    (fun _ => PortalAccess.noConfusion) ?_
  refine fun t here => ⟨here, fun userId flags found => ?_⟩
  obtain ⟨row, there, same⟩ := Option.map_eq_some_iff.mp found
  obtain ⟨rfl, rfl⟩ := Prod.mk.inj same
  obtain ⟨id, user⟩ := row
  obtain ⟨stored, right⟩ := findRow_some there
  have address : emailOf t id = some email := by simpa [emailOf, stored] using right
  exact ⟨address, fun verified => ⟨address, verified⟩⟩

theorem findUserByEmail_complies : (findUserByEmail email).Complies (minting.contract tid) :=
  fun s => (findUserByEmail_meets lasting_true (trivial : (fun _ => True) s)).imp
    (fun _ _ _ => trivial) fun _ _ _ => trivial

/-- An address that is stored is that of a row of the table. -/
theorem lt_of_emailOf (found : emailOf s userId = some email) : userId < s.auth.users.length := by
  obtain ⟨user, there, -⟩ := Option.map_eq_some_iff.mp found
  exact (List.getElem?_eq_some_iff.mp there).1

theorem emailOf_addUser {new : String} (before : userId < s.auth.users.length) :
    emailOf (addUser new s) userId = emailOf s userId := by
  simp [emailOf, addUser, List.getElem?_append_left before]

theorem flags_addUser {new : String} (before : userId < s.auth.users.length) :
    (addUser new s).flags userId = s.flags userId :=
  Function.update_of_ne (Nat.ne_of_lt before) _ _

theorem grows_addUser : Grows s (addUser email s) where
  events := List.Subset.refl _
  emails _ _ found := (emailOf_addUser (lt_of_emailOf found)).trans found
  verified _ _ found := ⟨(emailOf_addUser (lt_of_emailOf found.1)).trans found.1,
    flags_addUser (lt_of_emailOf found.1) ▸ found.2⟩

/-- A new row is not verified. -/
theorem verified_addUser {new : String} (found : Verified userId email (addUser new s)) :
    Verified userId email s := by
  by_cases before : userId < s.auth.users.length
  · exact ⟨(emailOf_addUser before).symm.trans found.1, flags_addUser before ▸ found.2⟩
  · have bound : userId < (s.auth.users ++ [({ email := new } : User)]).length := lt_of_emailOf found.1
    have last : userId = s.auth.users.length := by
      rw [List.length_append, List.length_singleton] at bound
      omega
    have unset : (addUser new s).flags userId = {} := by simp [addUser, last]
    have set := found.2
    rw [unset] at set
    cases set

theorem Accounted.addUser (accounted : Accounted s) (new : ∀ user ∈ s.auth.users, user.email ≠ email) :
    Accounted (addUser email s) := by
  refine ⟨accounted.rows, accounted.hashes, accounted.calls, ?_, ?_, ?_⟩
  · show ((s.auth.users ++ [({ email := email } : User)]).map (·.email)).Nodup
    rw [List.map_append]
    refine List.nodup_append.mpr ⟨accounted.emails, List.nodup_singleton _, ?_⟩
    intro address member other added same
    obtain ⟨user, listed, rfl⟩ := List.mem_map.mp member
    obtain rfl := List.mem_singleton.mp added
    exact new user listed same
  · intro session member
    obtain ⟨address, verified, accepted⟩ := accounted.minted session member
    exact ⟨address, grows_addUser.verified _ _ verified, accepted⟩
  · exact fun userId address verified => accounted.verified userId address (verified_addUser verified)

theorem createUser_complies : (createUser email).Complies (minting.contract tid) := by
  intro s
  refine command_meets lasting_true trivial fun i t _ accounted _ => ?_
  have moves {u : Portal} (grows : Grows t u) (sessions : u.sessions = t.sessions)
      (minted : u.minted = t.minted) : Moves tid (.createUser email) i t u :=
    moves_of_grows grows sessions minted (fun _ => PortalAccess.noConfusion)
      fun _ => PortalAccess.noConfusion
  split
  · exact ⟨accounted, moves (grows_of_view rfl (List.Subset.refl _)) rfl rfl, trivial⟩
  · rename_i new
    simp only [List.any_eq_true, decide_eq_true_eq, not_exists, not_and] at new
    exact ⟨accounted.addUser new, moves grows_addUser rfl rfl, trivial⟩

theorem grows_setVerified : Grows s (setVerified userId s) where
  events := List.Subset.refl _
  emails _ _ found := found
  verified other _ found := by
    refine ⟨found.1, ?_⟩
    by_cases same : other = userId
    · simp [setVerified, same]
    · simpa [setVerified, same] using found.2

theorem Accounted.setVerified (accounted : Accounted s) (stored : emailOf s userId = some email)
    (accepted : Accepted tid .verify email s) : Accounted (setVerified userId s) := by
  refine { accounted with minted := fun session member => ?_, verified := fun other address found => ?_ }
  · obtain ⟨address, verified, login⟩ := accounted.minted session member
    exact ⟨address, grows_setVerified.verified _ _ verified, login⟩
  · by_cases same : other = userId
    · subst same
      obtain rfl := Option.some.inj (stored.symm.trans found.1)
      exact ⟨tid, accepted⟩
    · refine accounted.verified other address ⟨found.1, ?_⟩
      simpa [Sessions.setVerified, same] using found.2

theorem markVerified_meets (stored : emailOf s userId = some email)
    (accepted : Accepted tid .verify email s) :
    (markVerified userId).Meets (minting.contract tid) (fun _ _ => True) (fun _ _ => True) s := by
  have lasting : Lasting tid fun t => emailOf t userId = some email ∧ Accepted tid .verify email t :=
    fun s t moved here => ⟨moved.1.emails _ _ here.1, here.2.grows moved.1.events⟩
  refine command_meets lasting ⟨stored, accepted⟩ fun i t _ accounted here => ?_
  have moves {u : Portal} (grows : Grows t u) (sessions : u.sessions = t.sessions)
      (minted : u.minted = t.minted) : Moves tid (.markVerified userId) i t u :=
    moves_of_grows grows sessions minted (fun _ => PortalAccess.noConfusion)
      fun _ => PortalAccess.noConfusion
  split
  · exact ⟨accounted, moves (grows_of_view rfl (List.Subset.refl _)) rfl rfl, trivial⟩
  · exact ⟨accounted.setVerified here.1 here.2, moves grows_setVerified rfl rfl, trivial⟩

theorem updateTotp_complies {α : Type} {data : PortalReply → User → α × User}
    (address : ∀ reply user, (data reply user).2.email = user.email) :
    (updateTotp userId data).Complies (minting.contract tid) := by
  intro s
  refine command_meets lasting_true trivial fun i t _ accounted _ => ?_
  have moves {u : Portal} (same : rowsView u = rowsView t) (events : u.auth.otpEvents = t.auth.otpEvents) :
      Accounted u ∧ Moves tid (.writeTotp userId) i t u := by
    have events : t.auth.otpEvents ⊆ u.auth.otpEvents := events ▸ List.Subset.refl _
    have parts := same
    simp only [rowsView, Prod.mk.injEq] at parts
    exact ⟨accounted.of_view same events, moves_of_grows (grows_of_view same events) parts.2.2.1
      parts.2.2.2 (fun _ => PortalAccess.noConfusion) fun _ => PortalAccess.noConfusion⟩
  cases found : t.auth.users[userId]? with
  | none => exact ⟨accounted, (moves rfl rfl).2, trivial⟩
  | some user =>
    have users : ((t.auth.users.set userId (data i.data user).2).map (·.email)) =
        t.auth.users.map (·.email) := by
      obtain ⟨bound, rfl⟩ := List.getElem?_eq_some_iff.mp found
      rw [List.map_set, address, ← List.getElem_map (f := fun user : User => user.email)]
      · exact List.set_getElem_self (by simpa using bound)
    obtain ⟨accounted', moves'⟩ := moves (u := { t with
      auth := { t.auth with users := t.auth.users.set userId (data i.data user).2 } })
      (by simp only [rowsView, users]) rfl
    exact ⟨accounted', moves', trivial⟩

theorem Accounted.addSession {session : Session} (accounted : Accounted s)
    (new : ∀ other ∈ s.sessions, other.tokenHash ≠ session.tokenHash)
    (first : NoneMade session.mintedBy s) (verified : Verified session.userId email s)
    (accepted : Accepted session.mintedBy .login email s) :
    Accounted (SessionService.addSession session s) := by
  refine ⟨?_, ?_, ?_, accounted.emails, ?_, fun userId address found =>
    accounted.verified userId address found⟩
  · intro other member
    rcases List.mem_append.mp member with old | added
    · exact List.mem_append_left _ (accounted.rows old)
    · exact List.mem_append_right _ added
  · show ((s.sessions ++ [session]).map (·.tokenHash)).Nodup
    rw [List.map_append]
    refine List.nodup_append.mpr ⟨accounted.hashes, List.nodup_singleton _, ?_⟩
    intro hash member other added same
    obtain ⟨row, listed, rfl⟩ := List.mem_map.mp member
    obtain rfl := List.mem_singleton.mp added
    exact new row listed same
  · show ((s.minted ++ [session]).map (·.mintedBy)).Nodup
    rw [List.map_append]
    refine List.nodup_append.mpr ⟨accounted.calls, List.nodup_singleton _, ?_⟩
    intro call member other added same
    obtain ⟨row, listed, rfl⟩ := List.mem_map.mp member
    obtain rfl := List.mem_singleton.mp added
    exact first row listed same
  · intro other member
    rcases List.mem_append.mp member with old | added
    · exact accounted.minted other old
    · obtain rfl := List.mem_singleton.mp added
      exact ⟨email, verified, accepted⟩

theorem create_meets {client : Client} (first : NoneMade tid s) (verified : Verified userId email s)
    (accepted : Accepted tid .login email s) : (SessionService.create tid userId client).Meets
      (minting.contract tid) (fun _ _ => True) (fun _ _ => True) s := by
  have lasting : Lasting tid fun t => NoneMade tid t ∧ Verified userId email t ∧
      Accepted tid .login email t := fun s t moved here =>
    ⟨minting_sound.fresh tid s t moved here.1, moved.1.verified _ _ here.2.1,
      here.2.2.grows moved.1.events⟩
  refine command_meets lasting ⟨first, verified, accepted⟩ fun i t _ accounted here => ?_
  obtain ⟨first, verified, accepted⟩ := here
  have still : Moves tid (.createSession userId) i t t := moves_of_grows
    (grows_of_view rfl (List.Subset.refl _)) rfl rfl (fun _ => PortalAccess.noConfusion)
    fun _ => PortalAccess.noConfusion
  dsimp only
  split
  · exact ⟨accounted, still, trivial⟩
  split
  · exact ⟨accounted, still, trivial⟩
  split
  · exact ⟨accounted, still, trivial⟩
  rename_i new
  simp only [List.any_eq_true, decide_eq_true_eq, not_exists, not_and] at new
  refine ⟨accounted.addSession new first verified accepted, ?_, trivial⟩
  refine ⟨⟨List.Subset.refl _, fun _ _ found => found, fun _ _ found => found⟩, ?_, ?_,
    fun _ => PortalAccess.noConfusion, fun _ => PortalAccess.noConfusion⟩
  · intro session member other
    rcases List.mem_append.mp member with old | added
    · exact old
    · obtain rfl := List.mem_singleton.mp added
      exact absurd rfl other
  · intro session member absent
    rcases List.mem_append.mp member with old | added
    · exact absurd old absent
    · obtain rfl := List.mem_singleton.mp added
      exact ⟨rfl, rfl, rfl⟩

/-- The rows that a condition selects are gone. -/
theorem deletes_complies {keep : Session → Bool}
    (one : ∀ tokenHash, label = .deleteSession tokenHash → ∀ session, keep session = true →
      session.tokenHash ≠ tokenHash)
    (all : ∀ userId, label = .deleteSessions userId → ∀ session, keep session = true →
      session.userId ≠ userId) :
    (command label fun _ s => (.ok (), { s with sessions := s.sessions.filter keep })).Complies
      (minting.contract tid) := by
  intro s
  refine command_meets lasting_true trivial fun i t _ accounted _ => ⟨?_, ?_, trivial⟩
  · exact { accounted with
      rows := fun session member => accounted.rows (List.mem_filter.mp member).1
      hashes := accounted.hashes.sublist (List.filter_sublist.map _)
      minted := accounted.minted, verified := accounted.verified }
  · refine ⟨⟨List.Subset.refl _, fun _ _ found => found, fun _ _ found => found⟩,
      fun _ member _ => member, ?_, ?_, ?_⟩
    · exact fun session member absent => absurd (List.mem_filter.mp member).1 absent
    · exact fun tokenHash same _ session member => one tokenHash same session (List.mem_filter.mp member).2
    · exact fun userId same _ session member => all userId same session (List.mem_filter.mp member).2

theorem destroy_complies {tokenHash : TokenHash} :
    (SessionService.destroy tokenHash).Complies (minting.contract tid) := by
  refine deletes_complies ?_ fun _ => PortalAccess.noConfusion
  rintro _ ⟨⟩ session kept
  simpa using kept

theorem destroyAll_complies : (SessionService.destroyAll userId).Complies (minting.contract tid) := by
  refine deletes_complies (fun _ => PortalAccess.noConfusion) ?_
  rintro _ ⟨⟩ session kept
  simpa using kept

theorem checkExpiry_complies {session : Session} :
    (checkExpiry session).Complies (minting.contract tid) := by
  intro s
  rw [checkExpiry, Proc.meets_access]
  intro t _ accounted _ i _
  have grows : Grows t (Clocked.tick i.elapsed t) := grows_of_view rfl (List.Subset.refl _)
  refine ⟨Accounted.of_view accounted rfl (List.Subset.refl _), moves_of_grows grows rfl rfl
    (fun _ => PortalAccess.noConfusion) fun _ => PortalAccess.noConfusion, ?_⟩
  dsimp only
  split <;> trivial

theorem totpVerify_complies {secret totpCode : String} :
    (totpVerify userId secret totpCode).Complies (minting.contract tid) := by
  intro s
  rw [totpVerify, Proc.meets_access]
  intro t _ accounted _ i _
  have grows : Grows t (Clocked.tick i.elapsed t) := grows_of_view rfl (List.Subset.refl _)
  refine ⟨Accounted.of_view accounted rfl (List.Subset.refl _), moves_of_grows grows rfl rfl
    (fun _ => PortalAccess.noConfusion) fun _ => PortalAccess.noConfusion, ?_⟩
  split <;> trivial

theorem minting_upheld : UpheldTotp (minting.contract tid) := by
  have reads {α : Type} {label : PortalAccess} {f : Portal → α}
      (one : ∀ tokenHash, label ≠ .deleteSession tokenHash)
      (all : ∀ userId, label ≠ .deleteSessions userId) :
      (command label fun _ t => (.ok (f t), t)).Complies (minting.contract tid) :=
    fun s => reads_meets lasting_true trivial one all fun _ _ => trivial
  exact {
    findUserByEmail := fun _ => findUserByEmail_complies
    createUser := fun _ => createUser_complies
    sendOtp := fun _ => onAuth_complies sendOtp_notes
    findSession := fun _ => reads (fun _ => PortalAccess.noConfusion) fun _ => PortalAccess.noConfusion
    checkExpiry := fun _ => checkExpiry_complies
    findUserById := fun _ => reads (fun _ => PortalAccess.noConfusion) fun _ => PortalAccess.noConfusion
    destroy := fun _ => destroy_complies
    destroyAll := fun _ => destroyAll_complies
    findUser := fun _ => onAuth_complies findUser_notes
    totpVerify := fun _ _ _ => totpVerify_complies
    updateTotp := fun _ _ address => updateTotp_complies address }

/-- The call goes on with a code that it has accepted for this address. -/
theorem consumed_meets {purpose : EmailScopedPurpose} {otp : String} (lasting : Lasting tid kept)
    (here : kept s) : (onAuth (consumeEmailOtp tid purpose email otp)).Meets (minting.contract tid)
      (fun _ t => Accepted tid purpose email t ∧ kept t) (fun _ _ => True) s :=
  onAuth_meets lasting here consumeOtp_accepts

theorem verifyEmail_complies {toLowerCase : String → String} {otp : String} :
    (verifyEmail toLowerCase tid email otp).Complies (minting.contract tid) := by
  intro s
  refine (findUserByEmail_meets lasting_true (trivial : (fun _ => True) s)).seq fun found t here => ?_
  cases found with
  | none => trivial
  | some row =>
    obtain ⟨userId, flags⟩ := row
    have stored := (here.2 userId flags rfl).1
    dsimp only
    split
    · trivial
    have lasting : Lasting tid fun t => emailOf t userId = some (toLowerCase email) :=
      fun _ _ moved found => moved.1.emails _ _ found
    exact (consumed_meets lasting stored).seq fun _ t here => markVerified_meets here.2 here.1

theorem verifyLoginOtp_meets {toLowerCase : String → String} {otp : String} {client : Client}
    (first : NoneMade tid s) : (verifyLoginOtp toLowerCase tid email otp client).Meets
      (minting.contract tid) (fun _ _ => True) (fun _ _ => True) s := by
  have lasting : Lasting tid (NoneMade tid) := minting_sound.fresh tid
  refine (findUserByEmail_meets lasting first).seq fun found t here => ?_
  cases found with
  | none => trivial
  | some row =>
    obtain ⟨userId, flags⟩ := row
    dsimp only
    split
    · trivial
    rename_i unverified
    have verified := (here.2 userId flags rfl).2 (by simpa using unverified)
    have lasting : Lasting tid fun t => NoneMade tid t ∧ Verified userId (toLowerCase email) t :=
      fun s t moved here => ⟨minting_sound.fresh tid s t moved here.1, moved.1.verified _ _ here.2⟩
    exact (consumed_meets lasting ⟨here.1, verified⟩).seq fun _ t here =>
      create_meets here.2.1 here.2.2 here.1

theorem procedure_meets {toLowerCase : String → String} {operation : Operation}
    (first : NoneMade tid s) : (procedure toLowerCase tid operation).Meets (minting.contract tid)
      (fun _ _ => True) (fun _ _ => True) s := by
  cases operation with
  | verifyEmail email otp => exact verifyEmail_complies s
  | verifyLoginOtp email otp client => exact (verifyLoginOtp_meets first).seq fun _ _ _ => trivial
  | _ => exact minting_upheld.procedure rfl s

end Steps

abbrev Trace := List (Nat × Event Portal (Reply PortalReply) PortalAccess)
abbrev PortalConfig := Config Portal (Reply PortalReply) PortalAccess PortalError Unit

structure Unused (s : Portal) : Prop where
  users : s.auth.users = []
  sessions : s.sessions = []
  minted : s.minted = []

theorem Unused.accounted {s : Portal} (unused : Unused s) : Accounted s := by
  have nobody (userId : Nat) (email : String) (verified : Verified userId email s) : False := by
    simp [Verified, emailOf, unused.users] at verified
  refine ⟨by simp [unused.sessions], by simp [unused.sessions], by simp [unused.minted],
    by simp [unused.users], by simp [unused.minted], fun userId email verified => ?_⟩
  exact (nobody userId email verified).elim

section Runs
variable {toLowerCase : String → String} {start : Portal} {trace : Trace} {c : PortalConfig}

theorem runs_accounted (unused : Unused start) (run : Runs (procedure toLowerCase) start trace c) :
    minting.Holds (fun _ _ _ => True) (fun _ _ _ => True) trace c :=
  run.holds minting_sound (fun _ _ _ _ _ _ => trivial) (fun _ _ _ _ _ _ => trivial)
    unused.accounted (fun _ => by simp [minting, NoneMade, unused.minted])
    (fun _ _ _ _ first => procedure_meets first) fun _ _ => trivial

/-- Whoever has a session, now or before, has an address that was verified by a code mailed to
it, and the session was made by a call of its own that accepted a login code mailed there. -/
theorem sessions_accounted (unused : Unused start)
    (run : Runs (procedure toLowerCase) start trace c) : Accounted c.shared :=
  (runs_accounted unused run).inv

def Ends (session : Session) (e : Event Portal (Reply PortalReply) PortalAccess) : Prop :=
  e.answer.fails = false ∧
    (e.label = .deleteSession session.tokenHash ∨ e.label = .deleteSessions session.userId)

instance (session : Session) (e : Event Portal (Reply PortalReply) PortalAccess) :
    Decidable (Ends session e) := inferInstanceAs (Decidable (_ ∧ _))

/-- A session that is found was made at the time that its expiry says, and no logout since has
ended it: neither one with its token nor one of all sessions of its user. -/
theorem found_session_is_open (unused : Unused start)
    (run : Runs (procedure toLowerCase) start trace c) {past rest : Trace}
    {e : Nat × Event Portal (Reply PortalReply) PortalAccess} (split : trace = past ++ e :: rest)
    {session : Session} (found : session ∈ e.2.before.sessions) :
    ∃ first made since, past = first ++ made :: since ∧ made.1 = session.mintedBy ∧
      made.2.label = .createSession session.userId ∧
      session.expiresAt = Clocked.now made.2.after + sessionTtlSec * 1000 ∧
      ∀ e' ∈ since, ¬ Ends session e'.2 := by
  have held := runs_accounted unused run
  have absent : ¬ session ∈ start.sessions := by simp [unused.sessions]
  obtain ⟨first, made, since, rfl, before, after, kept⟩ :=
    run.became (fun s => session ∈ s.sessions) absent split found
  have event {e' : Nat × Event Portal (Reply PortalReply) PortalAccess}
      (member : e' ∈ first ++ made :: since) :
      Moves e'.1 e'.2.label e'.2.answer e'.2.before e'.2.after :=
    (held.events e' (split ▸ List.mem_append_left _ member)).2.2
  obtain ⟨label, call, expires⟩ := (event (by simp)).made session after before
  refine ⟨first, made, since, rfl, call.symm, label, expires, fun e' member ended => ?_⟩
  have moves := event (by simp [member] : e' ∈ first ++ made :: since)
  have there := (kept e' member).2
  rcases ended.2 with one | all
  · exact moves.ended _ one ended.1 session there rfl
  · exact moves.endedAll _ all ended.1 session there rfl

end Runs

/-- Each access of the call gets this code, and this token when it draws one. -/
def accesses (tid number : Nat) (token : String) : List (Choice Operation (Reply PortalReply)) :=
  List.replicate number (.run tid { data := { random := 123456, token } })

def asked (token : String) : Request := { authorization := some ("Bearer " ++ token) }

def visit : List (Choice Operation (Reply PortalReply)) :=
  .start (.signup "ada@example.com") :: accesses 0 5 "" ++
    .start (.verifyEmail "ada@example.com" "123456") :: accesses 1 10 "" ++
    .start (.requestLoginOtp "ada@example.com") :: accesses 2 4 "" ++
    .start (.verifyLoginOtp "ada@example.com" "123456" {}) :: accesses 3 10 "token" ++
    .start (.guarded (asked "token")) :: accesses 4 3 "" ++
    .start (.logoutAll (asked "token")) :: accesses 5 4 ""

def unused : Portal := { auth := { now := 0 } }

theorem unused_unused : Unused unused := ⟨rfl, rfl, rfl⟩

theorem sessions_accounted_sample : ∃ trace c,
    Runs (procedure id) unused trace c ∧ c.shared.minted.length = 1 ∧
      Accounted c.shared := by
  obtain ⟨trace, c, run, checked⟩ := exists_run (procedure id) unused visit
    (fun _ c => decide (c.shared.minted.length = 1)) (by decide +kernel)
  simp only [decide_eq_true_eq] at checked
  exact ⟨trace, c, run, checked, sessions_accounted unused_unused run⟩

theorem found_session_is_open_sample : ∃ (trace past rest : Trace) (c : PortalConfig)
    (e : Nat × Event Portal (Reply PortalReply) PortalAccess) (session : Session),
    Runs (procedure id) unused trace c ∧ trace = past ++ e :: rest ∧
      e.2.label = .readSession session.tokenHash ∧
      ∃ first made since, past = first ++ made :: since ∧ made.1 = session.mintedBy ∧
        made.2.label = .createSession session.userId ∧
        session.expiresAt = Clocked.now made.2.after + sessionTtlSec * 1000 ∧
        ∀ e' ∈ since, ¬ Ends session e'.2 := by
  obtain ⟨trace, c, run, checked⟩ := exists_run (procedure id) unused visit
    (fun trace _ => trace.any fun e => e.2.before.sessions.any fun session =>
      decide (e.2.label = .readSession session.tokenHash)) (by decide +kernel)
  simp only [List.any_eq_true, decide_eq_true_eq] at checked
  obtain ⟨e, member, session, found, label⟩ := checked
  obtain ⟨past, rest, split⟩ := List.append_of_mem member
  exact ⟨trace, past, rest, c, e, session, run, split, label,
    found_session_is_open unused_unused run split found⟩

end Bitmonie.Sessions
