import Bitmonie.SharedClock
import Bitmonie.Service

/-! The login of an ops user and the enrolment of an authenticator. A token is issued at each
login; tokens, challenges and rows are read and written in steps of their own. A stored secret
stands for the one that its encrypted column is decrypted to. -/
namespace Bitmonie.OpsAuth
open Expiring

def appName : String := "Bitmonie Ops"
def opsSessionTtlSec : Int := 28800
def opsChallengeTtlSec : Int := 300
def opsEnrolmentTtlSec : Int := 900

inductive OpsError where
  | opsInvalidCredentials
  | opsTwoFactorRequired (challengeId : String)
  | opsTwoFactorEnrolmentRequired (enrolmentToken : String)
  | opsTwoFactorInvalid
  | opsUserDisabled
  /-- A unique index refused the row (`P2002`). -/
  | uniqueViolation
  /-- `update` found no row (`P2025`). -/
  | recordNotFound
  /-- `create` found no row that it refers to (`P2003`). -/
  | foreignKeyViolation
  /-- The database or Redis could not be reached. -/
  | unavailable
  deriving DecidableEq, Repr

def OpsError.exception : OpsError → Option BitmonieException
  | .opsInvalidCredentials => some ⟨"OPS_INVALID_CREDENTIALS", "Invalid email or password.", 401, []⟩
  | .opsTwoFactorRequired challengeId => some ⟨"OPS_2FA_REQUIRED",
      "Login requires a TOTP code. Submit the challenge_id with your TOTP code to " ++
        "/v1/ops/auth/verify-2fa.", 401, [⟨"challenge_id", .text challengeId⟩]⟩
  | .opsTwoFactorEnrolmentRequired enrolmentToken => some ⟨"OPS_2FA_ENROLMENT_REQUIRED",
      "TOTP enrolment is required before a session can be issued. Submit the enrolment_token to " ++
        "/v1/ops/auth/enrol-2fa.", 403, [⟨"enrolment_token", .text enrolmentToken⟩]⟩
  | .opsTwoFactorInvalid => some ⟨"OPS_2FA_INVALID",
      "TOTP code is invalid or the challenge has expired.", 401, []⟩
  | .opsUserDisabled => some ⟨"OPS_USER_DISABLED", "This ops account has been disabled.", 403, []⟩
  | .uniqueViolation => none
  | .recordNotFound => none
  | .foreignKeyViolation => none
  | .unavailable => none

structure OpsUser where
  email : String
  passwordHash : String
  totpSecret : Option String := none
  totpEnabled : Bool := false
  isActive : Bool := true
  lastLoginAt : Option Int := none
  deriving DecidableEq

/-- A code that the verifier took for the secret at this time. -/
structure VerifiedCode where
  secret : String
  totpCode : String
  verifiedAt : Int
  deriving DecidableEq

structure TokenHash where
  digestOf : String
  deriving DecidableEq

/-- `grantedOn` is auxiliary. -/
structure OpsSession where
  opsUserId : Nat
  tokenHash : TokenHash
  expiresAt : Int
  ipAddress : Option String
  userAgent : Option String
  grantedOn : VerifiedCode
  deriving DecidableEq

/-- `ops_auth:challenge:{challenge_id}` and `ops_auth:enrolment:{enrolment_token}`. -/
inductive OpsKey where
  | opsChallenge (challengeId : String)
  | opsEnrolment (enrolmentToken : String)
  deriving DecidableEq, Repr

structure OpsStore where
  now : Int
  opsUsers : List OpsUser := []
  keys : Keys OpsKey Nat := fun _ => none
  sessions : List OpsSession := []

instance : Clocked OpsStore where
  now s := s.now
  tick elapsed s := { s with now := s.now + elapsed }
  now_tick _ _ := rfl

structure OpsReply where
  random : String := ""

inductive OpsAccess where
  | readUser
  | setKey
  | getKey (key : OpsKey)
  | delKey (key : OpsKey)
  | verifyTotp (opsUserId : Nat)
  | storeSecret (opsUserId : Nat)
  /-- With the secret that the caller has verified a code for. -/
  | enable (opsUserId : Nat) (secret : String)
  | createSession (opsUserId : Nat)
  | lastLogin (opsUserId : Nat)
  deriving DecidableEq

abbrev OpsAction := Proc OpsStore (Reply OpsReply) OpsAccess OpsError

/-- What is used of `argon2`, `otplib` and `qrcode`. -/
structure Libraries where
  passwordVerify : String → String → Bool
  totpVerify : String → String → Int → Bool
  generateURI : String → String → String → String
  toDataURL : String → String

/-- Addresses are in ASCII. -/
def toLowerCase (email : String) : String := email.toLower

def findUserByEmail (email : String) : OpsAction (Option (Nat × OpsUser)) :=
  statement .unavailable .readUser fun _ s => (.ok (findRow s.opsUsers (·.email = email)), s)

def findUser (opsUserId : Nat) : OpsAction (Option OpsUser) :=
  statement .unavailable .readUser fun _ s => (.ok s.opsUsers[opsUserId]?, s)

/-- A new token is set to the user's id, and returned. -/
def setToken (key : String → OpsKey) (opsUserId : Nat) (ttlSec : Int) : OpsAction String :=
  statement .unavailable .setKey fun reply s =>
    (.ok reply.random, { s with
      keys := set s.keys (key reply.random) opsUserId (some (s.now + ttlSec * 1000)) })

def getKey (key : OpsKey) : OpsAction (Option Nat) :=
  statement .unavailable (.getKey key) fun _ s => (.ok (get s.now s.keys key), s)

def delKey (key : OpsKey) : OpsAction Unit :=
  statement .unavailable (.delKey key) fun _ s => (.ok (), { s with keys := del s.keys key })

/-- `update({ where: { id } })` -/
def updateUser {α : Type} (label : OpsAccess) (opsUserId : Nat)
    (data : OpsReply → Int → OpsUser → α × OpsUser) : OpsAction α :=
  statement .unavailable label fun reply s =>
    match s.opsUsers[opsUserId]? with
    | none => (.error .recordNotFound, s)
    | some user =>
      let (a, user) := data reply s.now user
      (.ok a, { s with opsUsers := s.opsUsers.set opsUserId user })

def verifyTotp (libraries : Libraries) (opsUserId : Nat) (secret totpCode : String) :
    OpsAction VerifiedCode :=
  .access (.verifyTotp opsUserId) (fun _ => true) fun i s =>
    let s := Clocked.tick i.elapsed s
    if libraries.totpVerify secret totpCode s.now then (.ok ⟨secret, totpCode, s.now⟩, s)
    else (.error .opsTwoFactorInvalid, s)

structure Client where
  ipAddress : Option String := none
  userAgent : Option String := none

/-- `OpsSessionService.create` -/
def createSession (opsUserId : Nat) (client : Client) (grantedOn : VerifiedCode) : OpsAction String :=
  statement .unavailable (.createSession opsUserId) fun reply s =>
    let tokenHash : TokenHash := ⟨reply.random⟩
    if s.opsUsers[opsUserId]? = none then (.error .foreignKeyViolation, s)
    else if s.sessions.any (·.tokenHash = tokenHash) then (.error .uniqueViolation, s)
    else (.ok reply.random, { s with
      sessions := s.sessions ++ [⟨opsUserId, tokenHash, s.now + opsSessionTtlSec * 1000,
        client.ipAddress, client.userAgent, grantedOn⟩] })

/-- It throws always: with what the second step needs when the password is right. -/
def login (libraries : Libraries) (email password : String) : OpsAction Empty :=
  (findUserByEmail (toLowerCase email)).bind fun found =>
  match found with
  | none => .throw .opsInvalidCredentials
  | some (opsUserId, opsUser) =>
    if !libraries.passwordVerify opsUser.passwordHash password then .throw .opsInvalidCredentials
    else if !opsUser.isActive then .throw .opsUserDisabled
    else if !opsUser.totpEnabled then
      (setToken .opsEnrolment opsUserId opsEnrolmentTtlSec).bind fun enrolmentToken =>
      .throw (.opsTwoFactorEnrolmentRequired enrolmentToken)
    else
      (setToken .opsChallenge opsUserId opsChallengeTtlSec).bind fun challengeId =>
      .throw (.opsTwoFactorRequired challengeId)

/-- An empty secret counts as none. -/
def enrolledSecret (opsUser : OpsUser) : Option String := opsUser.totpSecret.filter (· ≠ "")

/-- The challenge is burnt by the code that is right. -/
def verifyTwoFactor (libraries : Libraries) (challengeId totpCode : String) (client : Client) :
    OpsAction String :=
  (getKey (.opsChallenge challengeId)).bind fun redeemed =>
  match redeemed with
  | none => .throw .opsTwoFactorInvalid
  | some opsUserId =>
    (findUser opsUserId).bind fun found =>
    match found with
    | none => .throw .opsTwoFactorInvalid
    | some opsUser =>
      match (if opsUser.totpEnabled then enrolledSecret opsUser else none) with
      | none => .throw .opsTwoFactorInvalid
      | some secret =>
        if !opsUser.isActive then .throw .opsUserDisabled
        else
          (verifyTotp libraries opsUserId secret totpCode).bind fun grantedOn =>
          (delKey (.opsChallenge challengeId)).bind fun _ =>
          (createSession opsUserId client grantedOn).bind fun token =>
          (updateUser (.lastLogin opsUserId) opsUserId fun _ now opsUser =>
            ((), { opsUser with lastLoginAt := some now })).bind fun _ =>
          .pure token

/-- The token is looked up and the user must be active; enrolled or not is not asked. -/
def resolveEnrolment (enrolmentToken : String) : OpsAction (Nat × OpsUser) :=
  (getKey (.opsEnrolment enrolmentToken)).bind fun redeemed =>
  match redeemed with
  | none => .throw .opsTwoFactorInvalid
  | some opsUserId =>
    (findUser opsUserId).bind fun found =>
    match found with
    | none => .throw .opsTwoFactorInvalid
    | some opsUser =>
      if !opsUser.isActive then .throw .opsUserDisabled else .pure (opsUserId, opsUser)

structure EnrolmentStart where
  secret : String
  qrCodeUri : String
  otpauthUrl : String

/-- Each call stores a new secret, and the token stays. -/
def startEnrolment (libraries : Libraries) (enrolmentToken : String) : OpsAction EnrolmentStart :=
  (resolveEnrolment enrolmentToken).bind fun (opsUserId, opsUser) =>
  updateUser (.storeSecret opsUserId) opsUserId fun reply _ row =>
    let secret := reply.random
    let otpauthUrl := libraries.generateURI appName opsUser.email secret
    (⟨secret, libraries.toDataURL otpauthUrl, otpauthUrl⟩,
      { row with totpSecret := some secret, totpEnabled := false })

/-- The code is for the secret that was read; what is enabled is the secret of the row. -/
def confirmEnrolment (libraries : Libraries) (enrolmentToken totpCode : String) (client : Client) :
    OpsAction String :=
  (resolveEnrolment enrolmentToken).bind fun (opsUserId, opsUser) =>
  match enrolledSecret opsUser with
  | none => .throw .opsTwoFactorInvalid
  | some secret =>
    (verifyTotp libraries opsUserId secret totpCode).bind fun grantedOn =>
    (delKey (.opsEnrolment enrolmentToken)).bind fun _ =>
    (updateUser (.enable opsUserId secret) opsUserId fun _ now row =>
      ((), { row with totpEnabled := true, lastLoginAt := some now })).bind fun _ =>
    createSession opsUserId client grantedOn

inductive Operation where
  | login (email password : String)
  | verifyTwoFactor (challengeId totpCode : String) (client : Client)
  | startEnrolment (enrolmentToken : String)
  | confirmEnrolment (enrolmentToken totpCode : String) (client : Client)

def procedure (libraries : Libraries) (_tid : Nat) : Operation → OpsAction Unit
  | .login email password => (login libraries email password).bind fun _ => .pure ()
  | .verifyTwoFactor challengeId totpCode client =>
    (verifyTwoFactor libraries challengeId totpCode client).bind fun _ => .pure ()
  | .startEnrolment enrolmentToken =>
    (startEnrolment libraries enrolmentToken).bind fun _ => .pure ()
  | .confirmEnrolment enrolmentToken totpCode client =>
    (confirmEnrolment libraries enrolmentToken totpCode client).bind fun _ => .pure ()

end Bitmonie.OpsAuth
