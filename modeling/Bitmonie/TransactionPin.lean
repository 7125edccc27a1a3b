import Bitmonie.AuthStore

/-! The transaction PIN and the step-up by PIN or authenticator, and how often a PIN can be
guessed. The row is read, the hash is compared and the counter is written in steps of their
own. -/
namespace Bitmonie

namespace AuthService

/-- What `totpVerify` makes of the code at this time is given. -/
def verifyTotpForUser (tid userId : Nat) (totpCode : String) : AuthAction Unit :=
  (findUser userId).bind fun user =>
  match (if user.totpEnabled then user.totpSecret.filter (· ≠ "") else none) with
  | none => .throw .auth2faRequired
  | some secret => .access (.verifyTotp userId secret totpCode) (fun _ => true) fun i s =>
      let s := Clocked.tick i.elapsed s
      if i.data.valid then
        (.ok (), { s with factorEvents := s.factorEvents ++ [.totpVerified userId tid] })
      else (.error .authInvalidCredentials, s)

end AuthService

namespace TransactionPinService
open AuthService

structure SetTransactionPinDto where
  transactionPin : String
  emailOtp : String

structure ChangeTransactionPinDto where
  currentTransactionPin : String
  newTransactionPin : String
  emailOtp : String

structure DisableTransactionPinDto where
  currentTransactionPin : Option String := none
  totpCode : Option String := none
  emailOtp : String

/-- A missing text and the empty one are both false. -/
def submitted (text : Option String) : Option String := text.filter (· ≠ "")

def isLocked (now : Int) (user : User) : Bool := user.transactionPinLockedUntil.any (now < ·)

/-- A success that leaves the row as it is writes nothing. -/
def writesAfter (correct : Bool) (user : User) : Bool :=
  !correct || 0 < user.transactionPinFailedAttempts || user.transactionPinLockedUntil.isSome

/-- The lock that was read is looked at before the PIN. -/
def comparePin (argon2 : Argon2) (tid userId : Nat) (user : User) (hash pin : String) :
    AuthAction (Bool × Int) :=
  .access (.comparePin userId user) (fun _ => true) fun i s =>
    let s := Clocked.tick i.elapsed s
    match user.transactionPinLockedUntil.filter (s.now < ·) with
    | some unlocksAt => (.error (.transactionPinLocked unlocksAt), s)
    | none =>
      let correct := argon2.verify hash pin
      let barred := (s.users[userId]?).any (isLocked s.now)
      (.ok (correct, s.now), { s with
        factorEvents := s.factorEvents ++ [.compared userId tid correct barred]
        comparing := if writesAfter correct user then Function.update s.comparing userId (some tid)
          else s.comparing })

def writeAttempts (tid userId failedAttempts : Nat) (lockedUntil : Option Int) : AuthAction Unit :=
  statement .unavailable (.writeAttempts userId) fun _ s =>
    match s.users[userId]? with
    | none => (.error .recordNotFound, s)
    | some user => (.ok (), { s with
        users := s.users.set userId { user with
          transactionPinFailedAttempts := failedAttempts
          transactionPinLockedUntil := lockedUntil }
        factorEvents :=
          if lockedUntil.isSome then s.factorEvents ++ [.locked userId] else s.factorEvents
        comparing := if s.comparing userId = some tid then Function.update s.comparing userId none
          else s.comparing })

/-- The attempt that fills the counter locks the PIN, and the counter starts again. -/
def verifyCurrentPinOrThrow (argon2 : Argon2) (tid userId : Nat) (pin : String) :
    AuthAction Unit :=
  (findUser userId).bind fun user =>
  match user.transactionPinHash with
  | none => .throw .transactionPinNotSet
  | some hash =>
    (comparePin argon2 tid userId user hash pin).bind fun (ok, now) =>
    if ok then
      if writesAfter true user then writeAttempts tid userId 0 none else .pure ()
    else
      let nextAttempts := user.transactionPinFailedAttempts + 1
      let lockUntil := now + transactionPinLockoutSec * 1000
      if transactionPinMaxAttempts ≤ nextAttempts then
        (writeAttempts tid userId 0 (some lockUntil)).bind fun _ =>
          .throw (.transactionPinLocked lockUntil)
      else
        (writeAttempts tid userId nextAttempts none).bind fun _ => .throw .transactionPinInvalid

def verifyPinOrThrow (argon2 : Argon2) (tid userId : Nat) (transactionPin : String) :
    AuthAction Unit :=
  verifyCurrentPinOrThrow argon2 tid userId transactionPin

/-- The salt of the hash is drawn here. -/
def writePin (userId : Nat) (hashed : Option (Nat → String)) : AuthAction Unit :=
  statement .unavailable (.writePin userId) fun reply s =>
    let hash := hashed.map (· reply.random)
    match s.users[userId]? with
    | none => (.error .recordNotFound, s)
    | some user => (.ok (), { s with
        users := s.users.set userId { user with
          transactionPinHash := hash
          transactionPinSetAt := hash.map fun _ => s.now
          transactionPinFailedAttempts := 0
          transactionPinLockedUntil := none }
        factorEvents := if hash.isSome then s.factorEvents ++ [.pinSet userId] else s.factorEvents })

def requestSetOtp (userId : Nat) : AuthAction Unit :=
  (findUser userId).bind fun user =>
  if user.transactionPinHash.isSome then .throw .transactionPinAlreadySet
  else sendTransactionPinOtp userId .transactionPinSet

def requestChangeOtp (userId : Nat) : AuthAction Unit :=
  (findUser userId).bind fun user =>
  if user.transactionPinHash.isNone then .throw .transactionPinNotSet
  else sendTransactionPinOtp userId .transactionPinChange

def requestDisableOtp (userId : Nat) : AuthAction Unit :=
  (findUser userId).bind fun user =>
  if user.transactionPinHash.isNone then .throw .transactionPinNotSet
  else sendTransactionPinOtp userId .transactionPinDisable

def setPin (argon2 : Argon2) (tid userId : Nat) (dto : SetTransactionPinDto) : AuthAction Unit :=
  (findUser userId).bind fun user =>
  if user.transactionPinHash.isSome then .throw .transactionPinAlreadySet
  else
    (consumeTransactionPinOtp tid userId .transactionPinSet dto.emailOtp).bind fun _ =>
    writePin userId (some (argon2.hash · dto.transactionPin))

/-- A wrong PIN leaves the code of the mail as it is. -/
def changePin (argon2 : Argon2) (tid userId : Nat) (dto : ChangeTransactionPinDto) :
    AuthAction Unit :=
  (verifyCurrentPinOrThrow argon2 tid userId dto.currentTransactionPin).bind fun _ =>
  (consumeTransactionPinOtp tid userId .transactionPinChange dto.emailOtp).bind fun _ =>
  writePin userId (some (argon2.hash · dto.newTransactionPin))

/-- By the PIN or, when none is submitted, by the authenticator. -/
def disablePin (argon2 : Argon2) (tid userId : Nat) (dto : DisableTransactionPinDto) :
    AuthAction Unit :=
  (match submitted dto.currentTransactionPin, submitted dto.totpCode with
    | some pin, _ => verifyCurrentPinOrThrow argon2 tid userId pin
    | none, some totpCode => verifyTotpForUser tid userId totpCode
    | none, none => .throw .transactionPinInvalid).bind fun _ =>
  (consumeTransactionPinOtp tid userId .transactionPinDisable dto.emailOtp).bind fun _ =>
  writePin userId none

end TransactionPinService

namespace StepUpService
open AuthService TransactionPinService

structure TransactionFactor where
  transactionPin : Option String := none
  totpCode : Option String := none

def assertHasAnyFactorConfigured (userId : Nat) : AuthAction Unit :=
  (findUser userId).bind fun user =>
  if !user.totpEnabled && user.transactionPinHash.isNone then .throw .transactionFactorNotSet
  else .pure ()

/-- Of two factors that are submitted the PIN counts. -/
def verifyTransactionFactor (argon2 : Argon2) (tid userId : Nat) (factor : TransactionFactor) :
    AuthAction Unit :=
  (assertHasAnyFactorConfigured userId).bind fun _ =>
  match submitted factor.transactionPin, submitted factor.totpCode with
  | some pin, _ => verifyPinOrThrow argon2 tid userId pin
  | none, some totpCode => verifyTotpForUser tid userId totpCode
  | none, none => .throw .transactionFactorRequired

end StepUpService

end Bitmonie
