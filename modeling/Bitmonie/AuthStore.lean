import Bitmonie.SharedClock
import Bitmonie.Service

/-! The rows and keys that identify a customer: one-time codes, the transaction PIN and the
authenticator. A digest is compared with a text and is otherwise opaque; so is a PIN hash. -/
namespace Bitmonie
open Expiring

def otpTtlSec : Int := 900
def otpMaxAttempts : Nat := 5
def otpLength : Nat := 6
def transactionPinMaxAttempts : Nat := 5
def transactionPinLockoutSec : Int := 900

inductive AuthError where
  | authInvalidCredentials
  | authOtpExpired
  | authOtpMaxAttempts
  | auth2faRequired
  | transactionPinNotSet
  | transactionPinAlreadySet
  | transactionPinInvalid
  | transactionPinLocked (unlocksAt : Int)
  | transactionFactorRequired
  | transactionFactorNotSet
  /-- `update` or `findUniqueOrThrow` found no row (`P2025`). -/
  | recordNotFound
  /-- The database, Redis or the mail provider could not be reached. -/
  | unavailable
  deriving DecidableEq, Repr

/-- What the caller of the API is told; faults have no exception of their own. -/
def AuthError.exception : AuthError → Option BitmonieException
  | .authInvalidCredentials => some ⟨"AUTH_INVALID_CREDENTIALS", "Invalid credentials.", 401, []⟩
  | .authOtpExpired => some ⟨"AUTH_OTP_EXPIRED",
      "OTP has expired or is invalid. Please request a new one.", 422, []⟩
  | .authOtpMaxAttempts => some ⟨"AUTH_OTP_MAX_ATTEMPTS",
      "Too many OTP attempts. Please try again later.", 429, []⟩
  | .auth2faRequired => some ⟨"AUTH_2FA_REQUIRED",
      "A TOTP code is required for this action.", 401, []⟩
  | .transactionPinNotSet => some ⟨"TRANSACTION_PIN_NOT_SET",
      "Transaction PIN is not set. Set one via POST /v1/auth/transaction-pin/set first.", 409, []⟩
  | .transactionPinAlreadySet => some ⟨"TRANSACTION_PIN_ALREADY_SET",
      "Transaction PIN is already set. Use POST /v1/auth/transaction-pin/change to change it.",
      409, []⟩
  | .transactionPinInvalid => some ⟨"TRANSACTION_PIN_INVALID",
      "Transaction PIN is incorrect.", 401, []⟩
  | .transactionPinLocked unlocksAt => some ⟨"TRANSACTION_PIN_LOCKED",
      "Transaction PIN is locked due to too many wrong attempts. Try again after the lockout " ++
        "window.", 429, [⟨"unlocks_at", .instant unlocksAt⟩]⟩
  | .transactionFactorRequired => some ⟨"TRANSACTION_FACTOR_REQUIRED",
      "This action requires a transaction PIN or TOTP code. Submit one of `transaction_pin` or " ++
        "`totp_code`.", 422, []⟩
  | .transactionFactorNotSet => some ⟨"TRANSACTION_FACTOR_NOT_SET",
      "Set a transaction PIN or enable 2FA before performing this action.", 422, []⟩
  | .recordNotFound => none
  | .unavailable => none

inductive EmailScopedPurpose where
  | verify | login
  deriving DecidableEq, Repr

inductive UserScopedPurpose where
  | releaseAddressChange | transactionPinSet | transactionPinChange | transactionPinDisable
  deriving DecidableEq, Repr

/-- `auth:otp:{purpose}:{email}` and `auth:otp:{purpose}:{user_id}[:{resource_id}]`, and the
same for the attempts. -/
inductive OtpKey where
  | emailOtpKey (purpose : EmailScopedPurpose) (email : String)
  | scopedOtpKey (purpose : UserScopedPurpose) (userId : Nat) (resourceId : Option Nat)
  deriving DecidableEq, Repr

/-- The digest of a code. Different codes have different ones. -/
structure OtpHash where
  digestOf : String
  deriving DecidableEq

/-- `issue` numbers the codes that were sent. It is auxiliary. -/
structure StoredOtp where
  hash : OtpHash
  issue : Nat
  deriving DecidableEq

inductive OtpEventKind where
  | attempted | compared | removed | accepted
  deriving DecidableEq, Repr

structure OtpEvent where
  kind : OtpEventKind
  key : OtpKey
  issue : Nat
  tid : Nat
  deriving DecidableEq

/-- What is used of `argon2`: a hash is made with a salt, and verifies a text or not. -/
structure Argon2 where
  hash : Nat → String → String
  verify : String → String → Bool

/-- A text is its own hash. -/
def Argon2.plain : Argon2 where
  hash _ text := text
  verify hash text := hash = text

structure AuthService.User where
  email : String
  totpEnabled : Bool := false
  totpSecret : Option String := none
  transactionPinHash : Option String := none
  transactionPinSetAt : Option Int := none
  transactionPinFailedAttempts : Nat := 0
  transactionPinLockedUntil : Option Int := none
  deriving DecidableEq

/-- `barred` says that the PIN was locked when it was compared. -/
inductive FactorEvent where
  | compared (userId tid : Nat) (correct barred : Bool)
  | totpVerified (userId tid : Nat)
  | locked (userId : Nat)
  | pinSet (userId : Nat)
  deriving DecidableEq

/-- The last group is auxiliary: `comparing` is the call that has compared the PIN of a user
and has not written what follows from it. -/
structure AuthStore where
  now : Int
  users : List AuthService.User := []
  codes : Keys OtpKey StoredOtp := fun _ => none
  attempts : Keys OtpKey Nat := fun _ => none
  issued : Nat := 0
  otpEvents : List OtpEvent := []
  factorEvents : List FactorEvent := []
  comparing : Nat → Option Nat := fun _ => none

instance : Clocked AuthStore where
  now s := s.now
  tick elapsed s := { s with now := s.now + elapsed }
  now_tick _ _ := rfl

/-- `random` is what a new code is made of or the salt of a hash, and `valid` what the verifier
of authenticator codes says. -/
structure AuthReply where
  random : Nat := 0
  valid : Bool := false

inductive AuthAccess where
  | readUser (userId : Nat)
  | sendOtp
  | setCode (key : OtpKey)
  | getAttempts (key : OtpKey)
  | getCode (key : OtpKey)
  | incrAttempts (key : OtpKey) (issue : Nat)
  | expireAttempts (key : OtpKey)
  | compareCode (key : OtpKey) (issue : Nat)
  | delCode (key : OtpKey) (issue : Nat)
  | delAttempts (key : OtpKey)
  | acceptCode (key : OtpKey) (issue : Nat)
  | comparePin (userId : Nat) (read : AuthService.User)
  | writeAttempts (userId : Nat)
  | writePin (userId : Nat)
  | verifyTotp (userId : Nat) (secret token : String)
  deriving DecidableEq

abbrev AuthAction := Proc AuthStore (Reply AuthReply) AuthAccess AuthError

/-- `findUniqueOrThrow({ where: { id: user_id } })` -/
def findUser (userId : Nat) : AuthAction AuthService.User :=
  statement .unavailable (.readUser userId) fun _ s =>
    match s.users[userId]? with
    | none => (.error .recordNotFound, s)
    | some user => (.ok user, s)

namespace AuthService

def hashOtp (otp : String) : OtpHash := ⟨otp⟩

def safeCompareOtp (otp : String) (storedHash : OtpHash) : Bool := hashOtp otp = storedHash

def generateOtp (random : Nat) : String :=
  let digits := toString (random % 10 ^ otpLength)
  "".pushn '0' (otpLength - digits.length) ++ digits

def setCode (key : OtpKey) : AuthAction Unit :=
  statement .unavailable (.setCode key) fun reply s =>
    (.ok (), { s with
      codes := set s.codes key ⟨hashOtp (generateOtp reply.random), s.issued⟩
        (some (s.now + otpTtlSec * 1000))
      issued := s.issued + 1 })

def delAttempts (key : OtpKey) : AuthAction Unit :=
  statement .unavailable (.delAttempts key) fun _ s =>
    (.ok (), { s with attempts := del s.attempts key })

def emailOtp : AuthAction Unit := statement .unavailable .sendOtp fun _ s => (.ok (), s)

/-- The code is stored before its attempts are reset. -/
def sendOtp (key : OtpKey) : AuthAction Unit :=
  (setCode key).bind fun _ => (delAttempts key).bind fun _ => emailOtp

def sendEmailOtp (purpose : EmailScopedPurpose) (email : String) : AuthAction Unit :=
  sendOtp (.emailOtpKey purpose email)

/-- The user is read first, for the address. -/
def sendScopedOtp (purpose : UserScopedPurpose) (userId : Nat) (resourceId : Option Nat) :
    AuthAction Unit :=
  (findUser userId).bind fun _ => sendOtp (.scopedOtpKey purpose userId resourceId)

def sendReleaseAddressChangeOtp (userId loanId : Nat) : AuthAction Unit :=
  sendScopedOtp .releaseAddressChange userId (some loanId)

def sendTransactionPinOtp (userId : Nat) (purpose : UserScopedPurpose) : AuthAction Unit :=
  sendScopedOtp purpose userId none

def noted (kind : OtpEventKind) (key : OtpKey) (issue tid : Nat) (s : AuthStore) : AuthStore :=
  { s with otpEvents := s.otpEvents ++ [⟨kind, key, issue, tid⟩] }

def getAttempts (key : OtpKey) : AuthAction Nat :=
  statement .unavailable (.getAttempts key) fun _ s => (.ok ((get s.now s.attempts key).getD 0), s)

def getCode (key : OtpKey) : AuthAction (Option StoredOtp) :=
  statement .unavailable (.getCode key) fun _ s => (.ok (get s.now s.codes key), s)

def incrAttempts (tid : Nat) (key : OtpKey) (issue : Nat) : AuthAction Unit :=
  statement .unavailable (.incrAttempts key issue) fun _ s =>
    (.ok (), noted .attempted key issue tid { s with attempts := incr s.now s.attempts key })

def expireAttempts (key : OtpKey) : AuthAction Unit :=
  statement .unavailable (.expireAttempts key) fun _ s =>
    (.ok (), { s with attempts := expire s.now s.attempts key (s.now + otpTtlSec * 1000) })

def compareCode (tid : Nat) (key : OtpKey) (code : StoredOtp) (otp : String) : AuthAction Unit :=
  .access (.compareCode key code.issue) (fun _ => true) fun i s =>
    (if safeCompareOtp otp code.hash then .ok () else .error .authOtpExpired,
      noted .compared key code.issue tid (Clocked.tick i.elapsed s))

def delCode (tid : Nat) (key : OtpKey) (issue : Nat) : AuthAction Unit :=
  statement .unavailable (.delCode key issue) fun _ s =>
    (.ok (), noted .removed key issue tid { s with codes := del s.codes key })

def acceptCode (tid : Nat) (key : OtpKey) (issue : Nat) : AuthAction Unit :=
  .access (.acceptCode key issue) (fun _ => true) fun i s =>
    (.ok (), noted .accepted key issue tid (Clocked.tick i.elapsed s))

def consumeOtp (tid : Nat) (key : OtpKey) (otp : String) : AuthAction Unit :=
  (getAttempts key).bind fun attempts =>
  if otpMaxAttempts ≤ attempts then .throw .authOtpMaxAttempts else
  (getCode key).bind fun stored =>
  match stored with
  | none => .throw .authOtpExpired
  | some code =>
    (incrAttempts tid key code.issue).bind fun _ =>
    (expireAttempts key).bind fun _ =>
    (compareCode tid key code otp).bind fun _ =>
    (delCode tid key code.issue).bind fun _ =>
    (delAttempts key).bind fun _ =>
    acceptCode tid key code.issue

def consumeEmailOtp (tid : Nat) (purpose : EmailScopedPurpose) (email otp : String) :
    AuthAction Unit :=
  consumeOtp tid (.emailOtpKey purpose email) otp

def consumeScopedOtp (tid : Nat) (purpose : UserScopedPurpose) (userId : Nat) (otp : String)
    (resourceId : Option Nat) : AuthAction Unit :=
  consumeOtp tid (.scopedOtpKey purpose userId resourceId) otp

def consumeReleaseAddressChangeOtp (tid userId loanId : Nat) (otp : String) : AuthAction Unit :=
  consumeScopedOtp tid .releaseAddressChange userId otp (some loanId)

def consumeTransactionPinOtp (tid userId : Nat) (purpose : UserScopedPurpose) (otp : String) :
    AuthAction Unit :=
  consumeScopedOtp tid purpose userId otp none

end AuthService

end Bitmonie
