import Bitmonie.CollateralRelease
import Bitmonie.TransactionPin

/-! The release address of a loan: the first one is set by its owner, a change needs a code
from the mail and a factor. The loans and the factors are parts of one state. -/
namespace Bitmonie.ReleaseAddress
open CollateralRelease AuthService TransactionPinService StepUpService

structure Backend where
  world : World
  auth : AuthStore

structure BackendAnswer where
  world : Answer := {}
  auth : Reply AuthReply := { data := {} }

abbrev BackendAccess := Access ⊕ AuthAccess

inductive BackendError where
  | loan (error : AppError)
  | auth (error : AuthError)
  | collateralAlreadyReleased (releasedAt : Time) (reference : Option String)
  | releaseAddressOtpRequired
  | releaseAddressNotYetSet
  deriving DecidableEq

def BackendError.exception : BackendError → Option BitmonieException
  | .loan error => error.exception
  | .auth error => error.exception
  | .collateralAlreadyReleased releasedAt reference => some ⟨"COLLATERAL_ALREADY_RELEASED",
      "Collateral has already been released for this loan — release address can no longer be " ++
        "changed.", 409,
      ⟨"released_at", .instant releasedAt⟩ :: ((submitted reference).map fun reference =>
        ⟨"reference", .text reference⟩).toList⟩
  | .releaseAddressOtpRequired => some ⟨"RELEASE_ADDRESS_OTP_REQUIRED",
      "Changing the release address requires email confirmation. Request an OTP first via " ++
        "POST /v1/loans/:id/release-address/request-change-otp.", 422, []⟩
  | .releaseAddressNotYetSet => some ⟨"RELEASE_ADDRESS_NOT_YET_SET",
      "No release address is set on this loan yet — submit it directly via PATCH " ++
        "/v1/loans/:id/release-address. The OTP step is only required when changing an existing " ++
        "address.", 409, []⟩

abbrev BackendAction := Proc Backend BackendAnswer BackendAccess BackendError

def loanPart : Proc.Part World Answer Access AppError Backend BackendAnswer BackendAccess
    BackendError where
  get b := b.world
  set b world := { b with world }
  answer i := i.world
  label := .inl
  error := .loan
  get_set _ _ := rfl

def authPart : Proc.Part AuthStore (Reply AuthReply) AuthAccess AuthError Backend BackendAnswer
    BackendAccess BackendError where
  get b := b.auth
  set b auth := { b with auth }
  answer i := i.auth
  label := .inr
  error := .auth
  get_set _ _ := rfl

def onLoans {α : Type} (p : Action α) : BackendAction α := p.zoom loanPart

def onAuth {α : Type} (p : AuthAction α) : BackendAction α := p.zoom authPart

structure SetReleaseAddressOptions where
  emailOtp : Option String := none
  factor : TransactionFactor := {}

/-- `findFirst({ where: { id, user_id } })` -/
def findLoan (userId loanId : Nat) : Action (Option Loan) :=
  query fun _ w => .ok (w.loans[loanId]?.filter (·.userId = userId))

/-- Whatever the row has now is replaced. -/
def updateReleaseAddress (loanId : Nat) (first : Bool) (address : String) : Action Unit :=
  commit (.updateReleaseAddress loanId first address) (loanFree loanId) fun _ w =>
    (updateRow w.loans loanId ({ · with collateralReleaseAddress := some address })).map
      fun loans => ((), { w with loans })

/-- A code is only burnt for a user who has a factor. -/
def stepUp (argon2 : Argon2) (tid userId loanId : Nat) (options : SetReleaseAddressOptions) :
    BackendAction Unit :=
  (onAuth (assertHasAnyFactorConfigured userId)).bind fun _ =>
  match submitted options.emailOtp with
  | none => .throw .releaseAddressOtpRequired
  | some emailOtp =>
    (onAuth (consumeReleaseAddressChangeOtp tid userId loanId emailOtp)).bind fun _ =>
    onAuth (verifyTransactionFactor argon2 tid userId options.factor)

/-- What is set first needs no step-up. The row that decides it is read before. -/
def setReleaseAddress (argon2 : Argon2) (tid userId loanId : Nat) (address : String)
    (options : SetReleaseAddressOptions) : BackendAction Unit :=
  (onLoans (findLoan userId loanId)).bind fun found =>
  match found with
  | none => .throw (.loan .loanNotFound)
  | some loan =>
    match loan.collateralReleasedAt with
    | some releasedAt =>
      .throw (.collateralAlreadyReleased releasedAt loan.collateralReleaseReference)
    | none =>
      (if loan.collateralReleaseAddress.isSome then stepUp argon2 tid userId loanId options
        else .pure ()).bind fun _ =>
      (onLoans (updateReleaseAddress loanId loan.collateralReleaseAddress.isNone address)).bind fun _ =>
      if loan.status = .repaid then (onLoans (clearAlert loanId)).catching fun _ => .pure ()
      else .pure ()

def requestReleaseAddressChangeOtp (userId loanId : Nat) : BackendAction Unit :=
  (onLoans (findLoan userId loanId)).bind fun found =>
  match found with
  | none => .throw (.loan .loanNotFound)
  | some loan =>
    match loan.collateralReleasedAt with
    | some releasedAt =>
      .throw (.collateralAlreadyReleased releasedAt loan.collateralReleaseReference)
    | none =>
      if loan.collateralReleaseAddress.isNone then .throw .releaseAddressNotYetSet
      else onAuth (sendReleaseAddressChangeOtp userId loanId)

inductive Operation where
  | setReleaseAddress (userId loanId : Nat) (address : String) (options : SetReleaseAddressOptions)
  | requestReleaseAddressChangeOtp (userId loanId : Nat)
  | releaseForLoan (loanId : Nat)
  | expireLock (loanId : Nat)

def procedure (argon2 : Argon2) (tid : Nat) : Operation → BackendAction Unit
  | .setReleaseAddress userId loanId address options =>
    setReleaseAddress argon2 tid userId loanId address options
  | .requestReleaseAddressChangeOtp userId loanId => requestReleaseAddressChangeOtp userId loanId
  | .releaseForLoan loanId => onLoans ((releaseForLoan tid loanId).bind fun _ => .pure ())
  | .expireLock loanId => onLoans (expireLock loanId)

end Bitmonie.ReleaseAddress
