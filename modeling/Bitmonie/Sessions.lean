import Bitmonie.TransactionPin

/-! Sign-up, login and the sessions of customers. The codes and the factors are a part of the
state; rows and keys are read and written in steps of their own. The digest of a token is
opaque. -/
namespace Bitmonie.Sessions
open AuthService TransactionPinService

def sessionTtlSec : Int := 86400

inductive PortalError where
  | auth (error : AuthError)
  | authEmailAlreadyRegistered
  | authEmailAlreadyVerified
  | authAccountNotFound
  | authEmailNotVerified
  | auth2faAlreadyEnabled
  | auth2faSetupRequired
  | auth2faNotEnabled
  | accountSuspended
  /-- `UnauthorizedException` of the framework. -/
  | unauthorized
  /-- A unique index refused the row (`P2002`). -/
  | uniqueViolation
  /-- `create` found no row that it refers to (`P2003`). -/
  | foreignKeyViolation
  /-- A column is too short for its value (`P2000`). -/
  | valueTooLong
  deriving DecidableEq, Repr

def PortalError.exception : PortalError → Option BitmonieException
  | .auth error => error.exception
  | .authEmailAlreadyRegistered => some ⟨"AUTH_EMAIL_ALREADY_REGISTERED",
      "An account with this email already exists. Please log in instead.", 409, []⟩
  | .authEmailAlreadyVerified => some ⟨"AUTH_EMAIL_ALREADY_VERIFIED",
      "Email address has already been verified.", 409, []⟩
  | .authAccountNotFound => some ⟨"AUTH_ACCOUNT_NOT_FOUND",
      "No account found with this email. Please sign up first.", 404, []⟩
  | .authEmailNotVerified => some ⟨"AUTH_EMAIL_NOT_VERIFIED",
      "Please verify your email address before logging in.", 422, []⟩
  | .auth2faAlreadyEnabled => some ⟨"AUTH_2FA_ALREADY_ENABLED", "2FA is already enabled.", 409, []⟩
  | .auth2faSetupRequired => some ⟨"AUTH_2FA_SETUP_REQUIRED",
      "Call GET /auth/2fa/setup first to get your TOTP secret.", 400, []⟩
  | .auth2faNotEnabled => some ⟨"AUTH_2FA_NOT_ENABLED", "2FA is not enabled.", 400, []⟩
  | .accountSuspended => some ⟨"ACCOUNT_SUSPENDED",
      "Your account has been suspended. Please contact support.", 403, []⟩
  | .unauthorized => some ⟨"UNAUTHORIZED", "Unauthorized", 401, []⟩
  | .uniqueViolation => none
  | .foreignKeyViolation => none
  | .valueTooLong => none

/-- The columns of a user that say whether a login is let through, with their defaults. -/
structure AccountFlags where
  emailVerified : Bool := false
  isActive : Bool := true
  deriving DecidableEq

structure TokenHash where
  digestOf : String
  deriving DecidableEq

structure Client where
  ipAddress : Option String := none
  userAgent : Option String := none

/-- `mintedBy` is the call that made the row. It is auxiliary. -/
structure Session where
  userId : Nat
  tokenHash : TokenHash
  expiresAt : Int
  ipAddress : Option String
  userAgent : Option String
  mintedBy : Nat
  deriving DecidableEq

/-- The columns of `users` are in `auth.users` and in `flags`. Every session that was ever
made is in `minted`, which is auxiliary. -/
structure Portal where
  auth : AuthStore
  flags : Nat → AccountFlags := fun _ => {}
  sessions : List Session := []
  minted : List Session := []

instance : Clocked Portal where
  now s := s.auth.now
  tick elapsed s := { s with auth := Clocked.tick elapsed s.auth }
  now_tick _ _ := rfl

/-- `random` and `valid` are as for the codes; `token` is a new token or secret. -/
structure PortalReply where
  random : Nat := 0
  valid : Bool := false
  token : String := ""

inductive PortalAccess where
  | auth (label : AuthAccess)
  | readUser
  | createUser (email : String)
  | markVerified (userId : Nat)
  | createSession (userId : Nat)
  | deleteSession (tokenHash : TokenHash)
  | deleteSessions (userId : Nat)
  | readSession (tokenHash : TokenHash)
  | checkExpiry
  | writeTotp (userId : Nat)
  deriving DecidableEq

abbrev PortalAction := Proc Portal (Reply PortalReply) PortalAccess PortalError

def authPart : Proc.Part AuthStore (Reply AuthReply) AuthAccess AuthError Portal
    (Reply PortalReply) PortalAccess PortalError where
  get s := s.auth
  set s auth := { s with auth }
  answer i := { i with data := ⟨i.data.random, i.data.valid⟩ }
  label := .auth
  error := .auth
  get_set _ _ := rfl

def onAuth {α : Type} (p : AuthAction α) : PortalAction α := p.zoom authPart

def command {α : Type} (label : PortalAccess)
    (f : PortalReply → Portal → Except PortalError α × Portal) : PortalAction α :=
  statement (.auth .unavailable) label f

/-- `findUnique({ where: { email } })` -/
def findUserByEmail (email : String) : PortalAction (Option (Nat × AccountFlags)) :=
  command .readUser fun _ s =>
    (.ok ((findRow s.auth.users (·.email = email)).map fun row => (row.1, s.flags row.1)), s)

/-- A new row has the defaults of its columns. -/
def addUser (email : String) (s : Portal) : Portal :=
  { s with
    auth := { s.auth with users := s.auth.users ++ [{ email := email }] }
    flags := Function.update s.flags s.auth.users.length {} }

def createUser (email : String) : PortalAction Unit :=
  command (.createUser email) fun _ s =>
    if s.auth.users.any (·.email = email) then (.error .uniqueViolation, s)
    else (.ok (), addUser email s)

def setVerified (userId : Nat) (s : Portal) : Portal :=
  { s with flags := Function.update s.flags userId { s.flags userId with emailVerified := true } }

/-- `update({ where: { id }, data: { email_verified: true } })` -/
def markVerified (userId : Nat) : PortalAction Unit :=
  command (.markVerified userId) fun _ s =>
    if s.auth.users[userId]? = none then (.error (.auth .recordNotFound), s)
    else (.ok (), setVerified userId s)

namespace SessionService

def hashToken (token : String) : TokenHash := ⟨token⟩

/-- The columns hold 45 and 512 characters. -/
def Client.fits (client : Client) : Bool :=
  client.ipAddress.all (·.length ≤ 45) && client.userAgent.all (·.length ≤ 512)

def addSession (session : Session) (s : Portal) : Portal :=
  { s with sessions := s.sessions ++ [session], minted := s.minted ++ [session] }

def create (tid userId : Nat) (client : Client) : PortalAction String :=
  command (.createSession userId) fun reply s =>
    let session : Session := ⟨userId, hashToken reply.token, s.auth.now + sessionTtlSec * 1000,
      client.ipAddress, client.userAgent, tid⟩
    if !Client.fits client then (.error .valueTooLong, s)
    else if s.auth.users[userId]? = none then (.error .foreignKeyViolation, s)
    else if s.sessions.any (·.tokenHash = session.tokenHash) then (.error .uniqueViolation, s)
    else (.ok reply.token, addSession session s)

def destroy (tokenHash : TokenHash) : PortalAction Unit :=
  command (.deleteSession tokenHash) fun _ s =>
    (.ok (), { s with sessions := s.sessions.filter (·.tokenHash ≠ tokenHash) })

def destroyAll (userId : Nat) : PortalAction Unit :=
  command (.deleteSessions userId) fun _ s =>
    (.ok (), { s with sessions := s.sessions.filter (·.userId ≠ userId) })

end SessionService

structure Request where
  sessionCookie : Option String := none
  authorization : Option String := none

def bearer : String := "Bearer "

/-- The cookie goes first; an empty one counts as none. -/
def extractToken (request : Request) : Option String :=
  match submitted request.sessionCookie with
  | some token => some token
  | none => (request.authorization.filter fun header => bearer.toList.isPrefixOf header.toList).map
      fun header => String.ofList (header.toList.drop bearer.length)

def findSession (tokenHash : TokenHash) : PortalAction (Option Session) :=
  command (.readSession tokenHash) fun _ s =>
    (.ok (s.sessions.find? (·.tokenHash = tokenHash)), s)

/-- `session.expires_at < new Date()` -/
def checkExpiry (session : Session) : PortalAction Unit :=
  .access .checkExpiry (fun _ => true) fun i s =>
    let s := Clocked.tick i.elapsed s
    (if session.expiresAt < s.auth.now then .error .unauthorized else .ok (), s)

def findUserById (userId : Nat) : PortalAction (Option AccountFlags) :=
  command .readUser fun _ s =>
    (.ok ((s.auth.users[userId]?).map fun _ => s.flags userId), s)

/-- The id of the user that the request goes on as. -/
def canActivate (request : Request) : PortalAction Nat :=
  match submitted (extractToken request) with
  | none => .throw .unauthorized
  | some token =>
    (findSession (SessionService.hashToken token)).bind fun found =>
    match found with
    | none => .throw .unauthorized
    | some session =>
      (checkExpiry session).bind fun _ =>
      (findUserById session.userId).bind fun user =>
      match user with
      | none => .throw .unauthorized
      | some flags => if !flags.isActive then .throw .accountSuspended else .pure session.userId

section Login
variable (toLowerCase : String → String)

def signup (email : String) : PortalAction Unit :=
  let email := toLowerCase email
  (findUserByEmail email).bind fun existing =>
  match existing with
  | some (_, flags) =>
    if flags.emailVerified then .throw .authEmailAlreadyRegistered
    else onAuth (sendEmailOtp .verify email)
  | none => (createUser email).bind fun _ => onAuth (sendEmailOtp .verify email)

def verifyEmail (tid : Nat) (email otp : String) : PortalAction Unit :=
  let email := toLowerCase email
  (findUserByEmail email).bind fun user =>
  match user with
  | none => .throw (.auth .authOtpExpired)
  | some (userId, flags) =>
    if flags.emailVerified then .throw .authEmailAlreadyVerified
    else (onAuth (consumeEmailOtp tid .verify email otp)).bind fun _ => markVerified userId

def resendVerificationEmail (email : String) : PortalAction Unit :=
  let normalised := toLowerCase email
  (findUserByEmail normalised).bind fun user =>
  match user with
  | none => .pure ()
  | some (_, flags) =>
    if flags.emailVerified then .pure () else onAuth (sendEmailOtp .verify normalised)

def requestLoginOtp (email : String) : PortalAction Unit :=
  let normalised := toLowerCase email
  (findUserByEmail normalised).bind fun user =>
  match user with
  | none => .throw .authAccountNotFound
  | some (_, flags) =>
    if !flags.emailVerified then .throw .authEmailNotVerified
    else onAuth (sendEmailOtp .login normalised)

def verifyLoginOtp (tid : Nat) (email otp : String) (client : Client) : PortalAction String :=
  let email := toLowerCase email
  (findUserByEmail email).bind fun user =>
  match user with
  | none => .throw (.auth .authOtpExpired)
  | some (userId, flags) =>
    if !flags.emailVerified then .throw .authEmailNotVerified
    else
      (onAuth (consumeEmailOtp tid .login email otp)).bind fun _ =>
      SessionService.create tid userId client

end Login

/-- The guard takes the token of the cookie or of the header; what is ended is the session of
the cookie. -/
def logout (request : Request) : PortalAction Unit :=
  (canActivate request).bind fun _ =>
  SessionService.destroy (SessionService.hashToken (request.sessionCookie.getD ""))

def logoutAll (request : Request) : PortalAction Unit :=
  (canActivate request).bind fun userId => SessionService.destroyAll userId

/-- `update({ where: { id: user_id } })` -/
def updateTotp {α : Type} (userId : Nat) (data : PortalReply → User → α × User) : PortalAction α :=
  command (.writeTotp userId) fun reply s =>
    match s.auth.users[userId]? with
    | none => (.error (.auth .recordNotFound), s)
    | some user =>
      let (a, user) := data reply user
      (.ok a, { s with auth := { s.auth with users := s.auth.users.set userId user } })

/-- What `totpVerify` makes of the code at this time is given. -/
def totpVerify (userId : Nat) (secret totpCode : String) : PortalAction Unit :=
  .access (.auth (.verifyTotp userId secret totpCode)) (fun _ => true) fun i s =>
    (if i.data.valid then .ok () else .error (.auth .authInvalidCredentials),
      Clocked.tick i.elapsed s)

def setup2fa (userId : Nat) : PortalAction String :=
  (onAuth (findUser userId)).bind fun user =>
  if user.totpEnabled then .throw .auth2faAlreadyEnabled
  else updateTotp userId fun reply row =>
    (reply.token, { row with totpSecret := some reply.token, totpEnabled := false })

/-- What is enabled is the secret that the row has then. -/
def confirm2fa (userId : Nat) (totpCode : String) : PortalAction Unit :=
  (onAuth (findUser userId)).bind fun user =>
  if user.totpEnabled then .throw .auth2faAlreadyEnabled
  else match submitted user.totpSecret with
  | none => .throw .auth2faSetupRequired
  | some secret =>
    (totpVerify userId secret totpCode).bind fun _ =>
    updateTotp userId fun _ row => ((), { row with totpEnabled := true })

def disable2fa (userId : Nat) (totpCode : String) : PortalAction Unit :=
  (onAuth (findUser userId)).bind fun user =>
  match (if user.totpEnabled then submitted user.totpSecret else none) with
  | none => .throw .auth2faNotEnabled
  | some secret =>
    (totpVerify userId secret totpCode).bind fun _ =>
    updateTotp userId fun _ row => ((), { row with totpEnabled := false, totpSecret := none })

inductive Operation where
  | signup (email : String)
  | verifyEmail (email otp : String)
  | resendVerificationEmail (email : String)
  | requestLoginOtp (email : String)
  | verifyLoginOtp (email otp : String) (client : Client)
  /-- Any request that is behind the guard, and writes nothing. -/
  | guarded (request : Request)
  | logout (request : Request)
  | logoutAll (request : Request)
  | setup2fa (request : Request)
  | confirm2fa (request : Request) (totpCode : String)
  | disable2fa (request : Request) (totpCode : String)

def procedure (toLowerCase : String → String) (tid : Nat) : Operation → PortalAction Unit
  | .signup email => signup toLowerCase email
  | .verifyEmail email otp => verifyEmail toLowerCase tid email otp
  | .resendVerificationEmail email => resendVerificationEmail toLowerCase email
  | .requestLoginOtp email => requestLoginOtp toLowerCase email
  | .verifyLoginOtp email otp client =>
    (verifyLoginOtp toLowerCase tid email otp client).bind fun _ => .pure ()
  | .guarded request => (canActivate request).bind fun _ => .pure ()
  | .logout request => logout request
  | .logoutAll request => logoutAll request
  | .setup2fa request =>
    (canActivate request).bind fun userId => (setup2fa userId).bind fun _ => .pure ()
  | .confirm2fa request totpCode => (canActivate request).bind fun userId => confirm2fa userId totpCode
  | .disable2fa request totpCode => (canActivate request).bind fun userId => disable2fa userId totpCode

end Bitmonie.Sessions
