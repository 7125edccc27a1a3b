import Bitmonie.SessionSafety

/-! How many sessions a code that was mailed can make, and which session a logout ends. -/
namespace Bitmonie.Sessions
open AuthService TransactionPinService OneTimeCode

def undisturbed : PortalAccess → Reply PortalReply → Portal → Bool
  | .auth label, i, s => OneTimeCode.undisturbed label (authPart.answer i) s.auth
  | _, _, _ => true

def coding : Discipline Portal (Reply PortalReply) PortalAccess where
  inv s := Counted s.auth
  allowed label i s := undisturbed label i s = true
  fresh tid s := mine tid s.auth = []
  rely tid s t := mine tid t.auth = mine tid s.auth
  guar tid _ _ s t := ∀ other, other ≠ tid → mine other t.auth = mine other s.auth

theorem coding_sound : coding.Sound where
  refl _ _ := rfl
  trans _ _ _ _ first second := second.trans first
  compatible _ _ _ _ _ _ different _ guar := guar _ (Ne.symm different)
  fresh _ _ _ same none := same.trans none

def codesView (s : AuthStore) :
    Int × Expiring.Keys OtpKey StoredOtp × Expiring.Keys OtpKey Nat × Nat × List OtpEvent :=
  (s.now, s.codes, s.attempts, s.issued, s.otpEvents)

section Steps
variable {s : Portal} {tid : Nat} {label : PortalAccess} {events : List OtpEvent}

theorem Counted.of_view {s t : AuthStore} (counted : Counted s) (same : codesView t = codesView s) :
    Counted t := by
  cases s
  cases t
  simp only [codesView, Prod.mk.injEq] at same
  obtain ⟨rfl, rfl, rfl, rfl, rfl⟩ := same
  exact { counted with }

theorem mine_of_view {s t : AuthStore} (same : codesView t = codesView s) (other : Nat) :
    mine other t = mine other s := by
  simp only [codesView, Prod.mk.injEq] at same
  rw [mine, mine, same.2.2.2.2]

/-- A command on rows. -/
theorem rows_meets {α : Type} {f : PortalReply → Portal → Except PortalError α × Portal}
    (here : mine tid s.auth = events)
    (same : ∀ reply t, codesView (f reply t).2.auth = codesView t.auth) :
    (command label f).Meets (coding.contract tid) (fun _ t => mine tid t.auth = events)
      (fun _ _ => True) s := by
  refine statement_meets fun t moved counted i _ => ?_
  have here : mine tid t.auth = events := Eq.trans moved here
  have ticked : Counted (Clocked.tick i.elapsed t).auth := Counted.tick counted i.elapsed
  refine ⟨fun _ => ⟨ticked, fun _ _ => rfl, trivial⟩, fun _ => ?_⟩
  have kept := same i.data (Clocked.tick i.elapsed t)
  have unchanged (other : Nat) : mine other (f i.data (Clocked.tick i.elapsed t)).2.auth =
      mine other t.auth := mine_of_view kept other
  refine ⟨Counted.of_view ticked kept, fun other _ => unchanged other, fun _ => trivial, fun _ => ?_⟩
  have after := (unchanged tid).trans here
  revert after
  rcases f i.data (Clocked.tick i.elapsed t) with ⟨_ | _, _⟩
  · exact fun _ => trivial
  · exact fun after => after

theorem rows_complies {α : Type} {f : PortalReply → Portal → Except PortalError α × Portal}
    (same : ∀ reply t, codesView (f reply t).2.auth = codesView t.auth) :
    (command label f).Complies (coding.contract tid) :=
  fun _ => (rows_meets rfl same).imp (fun _ _ _ => trivial) fun _ _ _ => trivial

/-- A call on the codes keeps what it keeps on them alone. -/
theorem onAuth_codes {α : Type} {p : AuthAction α} {post : α → AuthStore → Prop}
    (meets : p.Meets (counting.contract tid) post (fun _ _ => True) s.auth) :
    (onAuth p).Meets (coding.contract tid) (fun _ _ => True) (fun _ _ => True) s := by
  have here : (fun _ : Portal => True) s := trivial
  refine (Proc.Meets.zoom (d := coding.contract tid) (fun _ _ moved _ => ⟨moved, trivial⟩)
    (fun _ _ _ counted _ allowed => ⟨counted, allowed⟩) ?_ here meets).imp
    (fun _ _ _ => trivial) fun _ _ _ => trivial
  exact fun _ _ _ _ _ _ counted guar => ⟨counted, guar, trivial⟩

/-- A step that only takes time. -/
theorem waits_complies {α : Type} {result : Reply PortalReply → Portal → Except PortalError α} :
    (Proc.access label (fun _ => true) fun i s =>
      (result i s, Clocked.tick i.elapsed s)).Complies (coding.contract tid) := by
  intro s
  rw [Proc.meets_access]
  intro t _ counted _ i _
  refine ⟨Counted.tick counted i.elapsed, fun _ _ => rfl, ?_⟩
  cases result i t <;> trivial

theorem coding_upheld : UpheldTotp (coding.contract tid) where
  findUserByEmail _ := rows_complies fun _ _ => rfl
  createUser _ := rows_complies fun _ t => by split <;> rfl
  sendOtp _ _ := onAuth_codes (sendOtp_meets rfl)
  findSession _ := rows_complies fun _ _ => rfl
  checkExpiry _ := waits_complies
  findUserById _ := rows_complies fun _ _ => rfl
  destroy _ := rows_complies fun _ _ => rfl
  destroyAll _ := rows_complies fun _ _ => rfl
  findUser _ _ := onAuth_codes (findUser_meets rfl)
  totpVerify _ _ _ := waits_complies
  updateTotp userId data _ := rows_complies fun reply t => by
    cases t.auth.users[userId]? <;> rfl

theorem consumed_codes {purpose : EmailScopedPurpose} {email otp : String}
    (here : mine tid s.auth = []) : (onAuth (consumeEmailOtp tid purpose email otp)).Meets
      (coding.contract tid) (fun _ _ => True) (fun _ _ => True) s :=
  onAuth_codes (consumeOtp_meets here)

theorem findUserByEmail_codes {email : String} (here : mine tid s.auth = events) :
    (findUserByEmail email).Meets (coding.contract tid) (fun _ t => mine tid t.auth = events)
      (fun _ _ => True) s := rows_meets here fun _ _ => rfl

theorem verifyEmail_codes {toLowerCase : String → String} {email otp : String}
    (here : mine tid s.auth = []) : (verifyEmail toLowerCase tid email otp).Meets
      (coding.contract tid) (fun _ _ => True) (fun _ _ => True) s := by
  refine (findUserByEmail_codes here).seq fun found t here => ?_
  cases found with
  | none => trivial
  | some row =>
    dsimp only
    split
    · trivial
    refine (consumed_codes here).seq fun _ t _ => ?_
    have marks : (markVerified row.1).Complies (coding.contract tid) :=
      rows_complies fun _ t => by split <;> rfl
    exact marks t

theorem verifyLoginOtp_codes {toLowerCase : String → String} {email otp : String} {client : Client}
    (here : mine tid s.auth = []) : (verifyLoginOtp toLowerCase tid email otp client).Meets
      (coding.contract tid) (fun _ _ => True) (fun _ _ => True) s := by
  refine (findUserByEmail_codes here).seq fun found t here => ?_
  cases found with
  | none => trivial
  | some row =>
    dsimp only
    split
    · trivial
    refine (consumed_codes here).seq fun _ t _ => ?_
    have creates : (SessionService.create tid row.1 client).Complies (coding.contract tid) := by
      refine rows_complies fun _ t => ?_
      dsimp only
      split
      · rfl
      split
      · rfl
      split <;> rfl
    exact creates t

theorem procedure_codes {toLowerCase : String → String} {operation : Operation}
    (here : mine tid s.auth = []) : (procedure toLowerCase tid operation).Meets
      (coding.contract tid) (fun _ _ => True) (fun _ _ => True) s := by
  cases operation with
  | verifyEmail email otp => exact verifyEmail_codes here
  | verifyLoginOtp email otp client => exact (verifyLoginOtp_codes here).seq fun _ _ _ => trivial
  | _ => exact coding_upheld.procedure rfl s

end Steps

/-- Of two calls that accept a code, each accepts its own. -/
theorem accepted_once {issued issue tid tid' : Nat} {events : List OtpEvent} {key key' : OtpKey}
    (ledger : Ledger issued events) (first : (⟨.accepted, key, issue, tid⟩ : OtpEvent) ∈ events)
    (second : (⟨.accepted, key', issue, tid'⟩ : OtpEvent) ∈ events) : tid = tid' := by
  have once : count .accepted issue events ≤ 1 :=
    (count_le_of_matched ledger.distinct ledger.accepted issue).trans (ledger.removed issue)
  rw [count, List.countP_eq_length_filter] at once
  have among {event : OtpEvent} (member : event ∈ events)
      (kind : event.kind = .accepted ∧ event.issue = issue) :
      event ∈ events.filter fun event => event.kind = .accepted ∧ event.issue = issue :=
    List.mem_filter.mpr ⟨member, by simpa using kind⟩
  have one := among first ⟨rfl, rfl⟩
  have other := among second ⟨rfl, rfl⟩
  generalize (events.filter fun event => event.kind = .accepted ∧ event.issue = issue) = found
    at once one other
  obtain ⟨event, rfl⟩ : ∃ event, found = [event] := by
    cases found with
    | nil => cases one
    | cons event rest =>
      obtain rfl : rest = [] := by simpa using once
      exact ⟨event, rfl⟩
  have same := (List.mem_singleton.mp one).trans (List.mem_singleton.mp other).symm
  exact congrArg OtpEvent.tid same

/-- In a run that nothing disturbs, each session that was ever made has a login code of its own,
which was mailed to the verified address of its user and accepted by the call that made it. -/
theorem session_per_code {toLowerCase : String → String} {start : Portal} {trace : Trace}
    {c : PortalConfig} (unused : Unused start) (unsent : Unsent start.auth)
    (run : Runs (procedure toLowerCase) start trace c)
    (calm : ∀ e ∈ trace, undisturbed e.2.label e.2.answer e.2.before = true) :
    ∃ codeOf : Session → Nat, Set.InjOn codeOf {session | session ∈ c.shared.minted} ∧
      ∀ session ∈ c.shared.minted, ∃ email, Verified session.userId email c.shared ∧
        (⟨.accepted, .emailOtpKey .login email, codeOf session, session.mintedBy⟩ : OtpEvent) ∈
          c.shared.auth.otpEvents := by
  have accounted := (runs_accounted unused run).inv
  have counted : coding.Holds (fun _ _ _ => True) (fun _ _ _ => True) trace c :=
    run.holds coding_sound (fun _ _ _ _ _ _ => trivial) (fun _ _ _ _ _ _ => trivial)
      unsent.counted (fun tid => by simp [coding, mine, unsent.otpEvents])
      (fun _ _ _ _ here => procedure_codes here) calm
  have codes : ∀ session, session ∈ c.shared.minted → ∃ issue email,
      Verified session.userId email c.shared ∧
      (⟨.accepted, .emailOtpKey .login email, issue, session.mintedBy⟩ : OtpEvent) ∈
        c.shared.auth.otpEvents := by
    intro session member
    obtain ⟨email, verified, issue, accepted⟩ := accounted.minted session member
    exact ⟨issue, email, verified, accepted⟩
  choose! codeOf held using codes
  refine ⟨codeOf, fun session member other member' same => ?_, held⟩
  obtain ⟨email, -, accepted⟩ := held session member
  obtain ⟨email', -, accepted'⟩ := held other member'
  have call : session.mintedBy = other.mintedBy :=
    accepted_once counted.inv.ledger accepted (same ▸ accepted')
  exact List.inj_on_of_nodup_map accounted.calls member member' call

def visitTwice : List (Choice Operation (Reply PortalReply)) :=
  visit ++ .start (.requestLoginOtp "ada@example.com") :: accesses 6 4 "" ++
    .start (.verifyLoginOtp "ada@example.com" "123456" {}) :: accesses 7 10 "later token"

theorem session_per_code_sample : ∃ (c : PortalConfig) (codeOf : Session → Nat),
    c.shared.minted.length = 2 ∧ Set.InjOn codeOf {session | session ∈ c.shared.minted} ∧
      ∀ session ∈ c.shared.minted, ∃ email, Verified session.userId email c.shared ∧
        (⟨.accepted, .emailOtpKey .login email, codeOf session, session.mintedBy⟩ : OtpEvent) ∈
          c.shared.auth.otpEvents := by
  obtain ⟨trace, c, run, checked⟩ := exists_run (procedure id) unused visitTwice
    (fun trace c => trace.all (fun e => undisturbed e.2.label e.2.answer e.2.before) &&
      decide (c.shared.minted.length = 2)) (by decide +kernel)
  simp only [Bool.and_eq_true, List.all_eq_true, decide_eq_true_eq] at checked
  obtain ⟨codeOf, held⟩ := session_per_code unused_unused ⟨fun _ => rfl, rfl⟩ run checked.1
  exact ⟨c, codeOf, checked.2, held⟩

/-- The guard finds a session under the token of the request, and its user, who is active. -/
def Admitted (request : Request) (session : Session) (s : Portal) : Prop :=
  (∃ token, submitted (extractToken request) = some token ∧
    s.sessions.find? (·.tokenHash = SessionService.hashToken token) = some session) ∧
  s.auth.users[session.userId]?.isSome = true ∧ (s.flags session.userId).isActive = true

/-- A command that is answered, before the session expires. -/
def InTime (session : Session) (i : Reply PortalReply) (s : Portal) : Prop :=
  (i.fails = false ∧ i.lost = false) ∧ s.auth.now + i.elapsed ≤ session.expiresAt

instance (session : Session) (i : Reply PortalReply) (s : Portal) : Decidable (InTime session i s) := by
  unfold InTime
  infer_instance

section Logout
variable {s start : Portal} {label : PortalAccess} {request : Request} {session : Session}

def SameRows (start s : Portal) : Prop :=
  s.sessions = start.sessions ∧ s.auth.users = start.auth.users ∧ s.flags = start.flags

theorem alone_command {α : Type} {f : PortalReply → Portal → Except PortalError α × Portal}
    {post : α → Portal → Prop} (here : SameRows start s)
    (does : ∀ reply t, SameRows start t → Proc.outcome post (fun _ _ => True) (f reply t)) :
    (command label f).Meets .alone post (fun _ _ => True) s := by
  refine statement_meets fun t moved _ i _ => ?_
  obtain rfl : s = t := moved
  exact ⟨fun _ => ⟨trivial, trivial, trivial⟩, fun _ => ⟨trivial, trivial, fun _ => trivial,
    fun _ => does i.data _ here⟩⟩

/-- A request that the guard lets through is admitted with a session. -/
theorem canActivate_alone (here : SameRows start s) :
    (canActivate request).Meets .alone (fun _ t => SameRows start t ∧
      ∃ session, Admitted request session start) (fun _ _ => True) s := by
  rw [canActivate]
  cases shown : submitted (extractToken request) with
  | none => trivial
  | some token =>
    have read : (findSession (SessionService.hashToken token)).Meets .alone (fun found t =>
        SameRows start t ∧
          found = start.sessions.find? (·.tokenHash = SessionService.hashToken token))
        (fun _ _ => True) s := alone_command here fun _ t same => ⟨same, by rw [same.1]⟩
    refine read.seq ?_
    rintro found t ⟨here, rfl⟩
    cases found : start.sessions.find? (·.tokenHash = SessionService.hashToken token) with
    | none => trivial
    | some session =>
      have checked : (checkExpiry session).Meets .alone (fun _ t => SameRows start t)
          (fun _ _ => True) t := by
        rw [checkExpiry, Proc.meets_access]
        rintro u rfl _ _ i _
        refine ⟨trivial, trivial, ?_⟩
        dsimp only
        split
        · trivial
        · exact here
      have account (u : Portal) (here : SameRows start u) :
          (findUserById session.userId).Meets .alone (fun user t => SameRows start t ∧
            user = (start.auth.users[session.userId]?).map fun _ => start.flags session.userId)
            (fun _ _ => True) u :=
        alone_command here fun _ t same => ⟨same, by rw [same.2.1, same.2.2]⟩
      refine checked.seq fun _ u here => (account u here).seq ?_
      rintro user u ⟨here, rfl⟩
      cases listed : start.auth.users[session.userId]? with
      | none => trivial
      | some row =>
        dsimp only [Option.map_some]
        split
        · trivial
        · rename_i active
          exact ⟨here, session, ⟨token, shown, found⟩, by simp [listed], by simpa using active⟩

theorem logout_alone (here : SameRows start s) :
    (logout request).Meets .alone (fun _ t =>
      t.sessions = start.sessions.filter (·.tokenHash ≠
        SessionService.hashToken (request.sessionCookie.getD "")) ∧
      t.auth.users = start.auth.users ∧ t.flags = start.flags ∧
      ∃ session, Admitted request session start) (fun _ _ => True) s := by
  refine (canActivate_alone here).seq fun _ t let_in => ?_
  exact alone_command let_in.1 fun _ u same => ⟨by simp [same.1], same.2.1, same.2.2, let_in.2⟩

/-- One call by itself, whose commands are answered in time. -/
def served (session : Session) : Contract Portal (Reply PortalReply) PortalAccess where
  inv _ := True
  allowed _ := InTime session
  rely s t := s = t
  guar _ _ _ _ := True

theorem served_command {α : Type} {f : PortalReply → Portal → Except PortalError α × Portal}
    {post : α → Portal → Prop} (here : SameRows start s)
    (does : ∀ reply t, SameRows start t → Proc.outcome post (fun _ _ => False) (f reply t)) :
    (command label f).Meets (served session) post (fun _ _ => False) s := by
  refine served_meets fun t moved _ i allowed => ?_
  obtain rfl : s = t := moved
  exact ⟨allowed.1, trivial, trivial, does i.data _ here⟩

/-- In time, the guard lets in what is admitted, as the user of the session. -/
theorem canActivate_served (admitted : Admitted request session s) :
    (canActivate request).Meets (served session) (fun userId _ => userId = session.userId)
      (fun _ _ => False) s := by
  obtain ⟨⟨token, shown, found⟩, listed, active⟩ := admitted
  have here : SameRows s s := ⟨rfl, rfl, rfl⟩
  rw [canActivate, shown]
  have read : (findSession (SessionService.hashToken token)).Meets (served session)
      (fun found t => SameRows s t ∧ found = some session) (fun _ _ => False) s :=
    served_command here fun _ t same => ⟨same, by rw [same.1, found]⟩
  refine read.seq ?_
  rintro _ t ⟨here, rfl⟩
  have checked : (checkExpiry session).Meets (served session) (fun _ t => SameRows s t)
      (fun _ _ => False) t := by
    rw [checkExpiry, Proc.meets_access]
    rintro u rfl _ _ i allowed
    refine ⟨trivial, trivial, ?_⟩
    have unexpired : ¬session.expiresAt < (Clocked.tick i.elapsed t).auth.now := by
      have now : (Clocked.tick i.elapsed t).auth.now = t.auth.now + i.elapsed :=
        Clocked.now_tick i.elapsed t.auth
      have := allowed.2
      omega
    dsimp only
    rw [if_neg unexpired]
    exact here
  refine checked.seq fun _ u here => ?_
  have account : (findUserById session.userId).Meets (served session)
      (fun user _ => user = some (s.flags session.userId)) (fun _ _ => False) u := by
    obtain ⟨row, present⟩ := Option.isSome_iff_exists.mp listed
    exact served_command here fun _ t same => by
      simp [Proc.outcome, same.2.1, same.2.2, present]
  refine account.seq ?_
  rintro _ v rfl
  dsimp only
  rw [active]
  rfl

/-- A logout that is answered ends the session that let it in exactly when its token came in
the cookie. One that came in the header stays, and lets its user in as before, until it
expires. -/
theorem logout_ends_session {request : Request} {answers : List (Reply PortalReply)}
    {f : Finished Portal (Reply PortalReply) PortalAccess PortalError Unit}
    (tokens : ∀ session ∈ s.sessions, session.tokenHash ≠ SessionService.hashToken "")
    (done : (logout request).exec answers s = some f) (answered : f.result = .ok ()) :
    ∃ token session, submitted (extractToken request) = some token ∧ session ∈ s.sessions ∧
      session.tokenHash = SessionService.hashToken token ∧
      (session ∉ f.state.sessions ↔ submitted request.sessionCookie = some token) ∧
      (submitted request.sessionCookie ≠ some token →
        ∀ answers (g : Finished Portal (Reply PortalReply) PortalAccess PortalError Nat),
          (canActivate request).exec answers f.state = some g →
          (∀ e ∈ g.trace, InTime session e.answer e.before) → g.result = .ok session.userId) := by
  obtain ⟨-, -, ends⟩ := (logout_alone (⟨rfl, rfl, rfl⟩ : SameRows s s)).exec (fun _ => rfl) trivial
    done fun _ _ => trivial
  rw [Finished.Ends, answered] at ends
  obtain ⟨left, users, flags, session, ⟨token, shown, found⟩, listed, active⟩ := ends
  have member := List.mem_of_find?_eq_some found
  have hash : session.tokenHash = SessionService.hashToken token := by
    simpa using List.find?_some found
  refine ⟨token, session, shown, member, hash, ?_⟩
  cases cookie : submitted request.sessionCookie with
  | some shown' =>
    obtain ⟨stored, nonempty⟩ := Option.filter_eq_some_iff.mp cookie
    have extracted : extractToken request = some shown' := by simp [extractToken, cookie]
    have same : token = shown' := by
      rw [extracted, submitted] at shown
      exact (Option.some.inj (Option.filter_eq_some_iff.mp shown).1).symm
    subst same
    exact ⟨by simp [left, hash, stored], fun other => absurd rfl other⟩
  | none =>
    -- Nothing is stored for an empty token.
    have empty : request.sessionCookie.getD "" = "" := by
      cases stored : request.sessionCookie with
      | none => rfl
      | some text => simpa [submitted, stored] using cookie
    have same : f.state.sessions = s.sessions := by
      rw [left, empty]
      exact List.filter_eq_self.mpr fun session member => by simpa using tokens session member
    refine ⟨by simp [same, member], fun _ answers g again inTime => ?_⟩
    have admitted : Admitted request session f.state :=
      ⟨⟨token, shown, by rw [same]; exact found⟩, by rw [users]; exact listed,
        by rw [flags]; exact active⟩
    obtain ⟨-, -, ends⟩ := (canActivate_served admitted).exec (fun _ => rfl) trivial again inTime
    cases ended : g.result with
    | ok userId =>
      rw [Finished.Ends, ended] at ends
      rw [ends]
    | error e =>
      rw [Finished.Ends, ended] at ends
      exact ends.elim

end Logout

def loginSession : Session := ⟨0, SessionService.hashToken "token", 86400000, none, none, 3⟩

def loggedIn : Portal :=
  { auth := { now := 0, users := [{ email := "ada@example.com" }] }
    sessions := [loginSession] }

def shownInHeader : Request := { authorization := some "Bearer token" }

theorem logout_ends_session_sample : ∃ f g, (logout shownInHeader).exec
    (List.replicate 4 { data := {} }) loggedIn = some f ∧
      (canActivate shownInHeader).exec (List.replicate 3 { elapsed := 60000, data := {} }) f.state =
        some g ∧ g.result = .ok 0 := by
  have ends : ((logout shownInHeader).exec (List.replicate 4 { data := {} }) loggedIn).any
      (fun f => decide (f.result = .ok ()) &&
        ((canActivate shownInHeader).exec (List.replicate 3 { elapsed := 60000, data := {} })
          f.state).any fun g => g.trace.all fun e => decide (InTime loginSession e.answer e.before)) =
      true := by decide +kernel
  obtain ⟨f, done, checked⟩ := (Option.any_eq_true _ _).mp ends
  simp only [Bool.and_eq_true, decide_eq_true_eq] at checked
  obtain ⟨g, again, inTime⟩ := (Option.any_eq_true _ _).mp checked.2
  have tokens : ∀ session ∈ loggedIn.sessions, session.tokenHash ≠ SessionService.hashToken "" := by
    decide
  obtain ⟨token, session, -, member, -, -, lets⟩ := logout_ends_session tokens done checked.1
  obtain rfl : session = loginSession := by simpa [loggedIn] using member
  have header : submitted shownInHeader.sessionCookie ≠ some token := nofun
  refine ⟨f, g, done, again, lets header _ g again fun e made => ?_⟩
  simpa using List.all_eq_true.mp inTime e made

end Bitmonie.Sessions
