import Bitmonie.CollateralWebhook
import Bitmonie.Kyc

/-! The payout destinations of a customer: an account is added, made the default of its kind,
or deleted. The users and the loan system are parts of one state. -/
namespace Bitmonie

def DisbursementAccountKind.name : DisbursementAccountKind → String
  | .bank => "BANK"
  | .mobileMoney => "MOBILE_MONEY"
  | .cryptoAddress => "CRYPTO_ADDRESS"

namespace DisbursementAccountsService
open LoansService (owned CheckoutLoanDto checkoutLoan)
open KycService (KycStore KycReply KycAccess KycError KycAction tier1 findVerification
  disbursementNameMatchThreshold)

def maxDisbursementAccountsPerKind : Nat := 5

structure Backend where
  world : World
  kyc : KycStore

structure BackendAnswer where
  world : Answer := {}
  kyc : Reply KycReply := { data := {} }

abbrev BackendAccess := Access ⊕ KycAccess

inductive AccountError where
  | loan (error : AppError)
  | kyc (error : KycError)
  | disbursementAccountMaxPerKind (kind : DisbursementAccountKind) (limit : Nat)
  | disbursementAccountDuplicate
  | disbursementAccountLookupFailed
  | disbursementAccountNameMismatch (score : ℚ)
  | notFound (message : String)
  deriving DecidableEq

def AccountError.exception : AccountError → Option BitmonieException
  | .loan error => error.exception
  | .kyc error => error.exception
  | .disbursementAccountMaxPerKind kind limit => some ⟨"DISBURSEMENT_ACCOUNT_MAX_PER_KIND",
      "You have reached the maximum of " ++ toString limit ++ " linked " ++ kind.name ++
        " accounts.", 400,
      [⟨"kind", .text ("Maximum " ++ toString limit ++ " " ++ kind.name ++ " accounts per user")⟩]⟩
  | .disbursementAccountDuplicate => some ⟨"DISBURSEMENT_ACCOUNT_DUPLICATE",
      "You have already linked this account.", 409,
      [⟨"account_unique", .text ("An account with the same provider_code and account_unique " ++
        "already exists for this kind")⟩]⟩
  | .disbursementAccountLookupFailed => some ⟨"DISBURSEMENT_ACCOUNT_LOOKUP_FAILED",
      "We could not verify this account with your bank. Check the bank and account number and " ++
        "try again.", 422,
      [⟨"account_unique", .text ("Provider returned no account holder for this bank/account " ++
        "combination")⟩]⟩
  | .disbursementAccountNameMismatch score => some ⟨"DISBURSEMENT_ACCOUNT_NAME_MISMATCH",
      "Account holder name does not match your verified identity.", 422,
      [⟨"account_unique", .matchScore score⟩]⟩
  | .notFound message => some ⟨"NOT_FOUND", message, 404, []⟩

abbrev AccountAction := Proc Backend BackendAnswer BackendAccess AccountError

def worldPart : Proc.Part World Answer Access AppError Backend BackendAnswer BackendAccess
    AccountError where
  get b := b.world
  set b world := { b with world }
  answer i := i.world
  label := .inl
  error := .loan
  get_set _ _ := rfl

def kycPart : Proc.Part KycStore (Reply KycReply) KycAccess KycError Backend BackendAnswer
    BackendAccess AccountError where
  get b := b.kyc
  set b kyc := { b with kyc }
  answer i := i.kyc
  label := .inr
  error := .kyc
  get_set _ _ := rfl

def onWorld {α : Type} (p : Action α) : AccountAction α := p.zoom worldPart

def onKyc {α : Type} (p : KycAction α) : AccountAction α := p.zoom kycPart

def isKind (userId : Nat) (kind : DisbursementAccountKind) (account : DisbursementAccount) : Bool :=
  owned userId account && account.kind = kind

structure AddDisbursementAccountDto where
  kind : DisbursementAccountKind
  providerName : String
  providerCode : String
  accountUnique : String
  accountUniqueTag : Option String := none
  label : Option String := none

def countAccounts (userId : Nat) (kind : DisbursementAccountKind) : Action Nat :=
  query fun _ w => .ok (w.disbursementAccounts.countP (isKind userId kind))

def hasDuplicate (userId : Nat) (dto : AddDisbursementAccountDto) : Action Bool :=
  query fun _ w => .ok (w.disbursementAccounts.any fun account => isKind userId dto.kind account &&
    account.providerCode = dto.providerCode && account.accountUnique = dto.accountUnique)

/-- The holder's name and its score, when the name was matched. -/
def accountRow (userId : Nat) (dto : AddDisbursementAccountDto) (matched : Option (String × ℚ))
    (isFirst : Bool) (now : Time) : DisbursementAccount where
  userId := userId
  kind := dto.kind
  providerName := dto.providerName
  providerCode := dto.providerCode
  accountUnique := dto.accountUnique
  accountUniqueTag := dto.accountUniqueTag
  label := dto.label
  accountHolderName := matched.map (·.1)
  nameMatchScore := matched.map (·.2)
  isDefault := isFirst
  status := .verified
  verifiedAt := some now

/-- A user has one default of a kind at most
(`disbursement_accounts_one_default_per_kind_idx`). -/
def createAccount (userId : Nat) (dto : AddDisbursementAccountDto) (matched : Option (String × ℚ))
    (isFirst : Bool) : Action (Nat × DisbursementAccount) :=
  commit (.createAccount userId) (fun _ => true) fun i w =>
    let row := accountRow userId dto matched isFirst i.now
    if row.isDefault && w.disbursementAccounts.any fun other =>
        isKind userId row.kind other && other.isDefault then .error .uniqueViolation
    else .ok ((w.disbursementAccounts.length, row),
      { w with disbursementAccounts := w.disbursementAccounts ++ [row] })

def findAccount (userId accountId : Nat) : Action (Option DisbursementAccount) :=
  query fun _ w => .ok ((w.disbursementAccounts[accountId]?).filter (owned userId))

/-- The row is updated; the same index refuses a second default. -/
def makeDefault (accountId : Nat) (accounts : List DisbursementAccount) :
    Except AppError (List DisbursementAccount) :=
  match (accounts[accountId]?).filter fun account => !account.deleted with
  | none => .error .recordNotFound
  | some account =>
    if accounts.zipIdx.any fun row => row.2 ≠ accountId && isKind account.userId account.kind row.1 &&
        row.1.isDefault then .error .uniqueViolation
    else .ok (accounts.set accountId { account with isDefault := true })

def clearDefault (userId : Nat) (kind : DisbursementAccountKind)
    (accounts : List DisbursementAccount) : List DisbursementAccount :=
  accounts.map fun account =>
    { account with isDefault := account.isDefault && !isKind userId kind account }

def writeDefault (userId accountId : Nat) (kind : DisbursementAccountKind) : Action Unit :=
  commit (.setDefault accountId) (fun _ => true) fun _ w =>
    (makeDefault accountId (clearDefault userId kind w.disbursementAccounts)).map
      fun disbursementAccounts => ((), { w with disbursementAccounts })

/-- An account that a loan was taken to is not deleted. -/
def removeAccount (accountId : Nat) (w : World) : Except AppError (List DisbursementAccount) :=
  match (w.disbursementAccounts[accountId]?).filter fun account => !account.deleted with
  | none => .error .recordNotFound
  | some account =>
    if w.loans.any (·.disbursementAccountId = accountId) then .error .foreignKeyViolation
    else .ok (w.disbursementAccounts.set accountId { account with deleted := true })

/-- The oldest account that is left takes the place of a default. -/
def promoteNext (userId : Nat) (read : DisbursementAccount) (accounts : List DisbursementAccount) :
    Except AppError (List DisbursementAccount) :=
  if read.isDefault then
    match findRow accounts (isKind userId read.kind) with
    | none => .ok accounts
    | some next => makeDefault next.1 accounts
  else .ok accounts

section Writes
variable {userId accountId : Nat} {account : DisbursementAccount} {s t : List DisbursementAccount}

theorem makeDefault_ok (done : makeDefault accountId s = .ok t) :
    ∃ account, s[accountId]? = some account ∧ account.deleted = false ∧
      t = s.set accountId { account with isDefault := true } := by
  unfold makeDefault at done
  split at done
  · cases done
  rename_i account found
  obtain ⟨-, done⟩ := unless_ok.mp done
  obtain ⟨there, present⟩ := Option.filter_eq_some_iff.mp found
  exact ⟨account, there, by simpa using present, (Except.ok.inj done).symm⟩

theorem removeAccount_ok {w : World} (done : removeAccount accountId w = .ok t) :
    ∃ account, w.disbursementAccounts[accountId]? = some account ∧
      (∀ loan ∈ w.loans, loan.disbursementAccountId ≠ accountId) ∧
      t = w.disbursementAccounts.set accountId { account with deleted := true } := by
  unfold removeAccount at done
  split at done
  · cases done
  rename_i account found
  obtain ⟨unused, done⟩ := unless_ok.mp done
  refine ⟨account, (Option.filter_eq_some_iff.mp found).1, ?_, (Except.ok.inj done).symm⟩
  simpa using unused

theorem promoteNext_ok (done : promoteNext userId account s = .ok t) :
    (t = s ∧ (account.isDefault = true → s.countP (isKind userId account.kind) = 0)) ∨
    (account.isDefault = true ∧ ∃ id next, s[id]? = some next ∧
      isKind userId account.kind next = true ∧ t = s.set id { next with isDefault := true }) := by
  unfold promoteNext at done
  split at done
  · rename_i default
    split at done
    · rename_i none
      refine .inl ⟨(Except.ok.inj done).symm, fun _ => ?_⟩
      rw [List.countP_eq_zero]
      intro row member
      simp [findRow_none.mp none row member]
    · rename_i next found
      obtain ⟨there, holds⟩ := findRow_some found
      obtain ⟨row, found, _, rfl⟩ := makeDefault_ok done
      obtain rfl := Option.some.inj (there.symm.trans found)
      exact .inr ⟨default, next.1, next.2, there, holds, rfl⟩
  · rename_i other
    exact .inl ⟨(Except.ok.inj done).symm, fun default => absurd default other⟩

end Writes

def writeDeletion (userId accountId : Nat) (read : DisbursementAccount) : Action Unit :=
  commit (.deleteAccount accountId) (fun _ => true) fun _ w => do
    let accounts ← removeAccount accountId w
    let disbursementAccounts ← promoteNext userId read accounts
    return ((), { w with disbursementAccounts })

def nameMatchedKinds : List DisbursementAccountKind := [.bank, .mobileMoney]

def kindToRail : DisbursementAccountKind → Option DisbursementRail
  | .bank => some .bankTransfer
  | .mobileMoney => some .mobileMoney
  | .cryptoAddress => none

def trim (text : String) : String :=
  let left := text.toList.dropWhile NameMatchService.isSpace
  String.ofList (left.reverse.dropWhile NameMatchService.isSpace).reverse

@[irreducible] def userName (user : KycService.User) : String :=
  trim (" ".intercalate (([user.firstName, user.middleName, user.lastName].map (·.getD "")).filter
    (trim · ≠ "")))

/-- The name of the user row, else the legal name that was verified. -/
def canonicalName (userId : Nat) (user : KycService.User) : AccountAction String :=
  if userName user ≠ "" then .pure (userName user)
  else
    (onKyc (findVerification userId tier1)).bind fun verification =>
    .pure ((verification.bind (·.legalName)).getD "")

/-- What the provider of the rail holds; an empty name counts as none. -/
def lookupAccountName (kind : DisbursementAccountKind) : Action (Option String) :=
  match kindToRail kind with
  | none => .throw (.failure "No disbursement route configured for NGN:null")
  | some rail =>
    (Proc.ofExcept (DisbursementRouter.forRoute .ngn rail)).bind fun _ =>
    query fun i _ => .ok (i.message.filter (· ≠ ""))

def matchFetched (canonical : String) (fetched : Option String) : Except AccountError (String × ℚ) :=
  match fetched with
  | none => .error .disbursementAccountLookupFailed
  | some fetchedName =>
    let score := NameMatchService.compare canonical fetchedName
    if score < disbursementNameMatchThreshold then .error (.disbursementAccountNameMismatch score)
    else .ok (fetchedName, score)

/-- Only a user who is verified has names to match. -/
def matchName (userId : Nat) (kind : DisbursementAccountKind) : AccountAction (String × ℚ) :=
  (onKyc (KycService.findUser userId)).bind fun user =>
  if user.kycTier < 1 then .throw (.loan (.kycUpgradeRequired 1))
  else
    (canonicalName userId user).bind fun canonical =>
    (onWorld (lookupAccountName kind)).bind fun fetched =>
    Proc.ofExcept (matchFetched canonical fetched)

structure AddedAccount where
  id : Nat
  accountHolderName : Option String
  nameMatchScore : Option ℚ
  status : DisbursementAccountStatus
  isDefault : Bool
  message : String := "Disbursement account added successfully."

def holder (userId : Nat) (kind : DisbursementAccountKind) : AccountAction (Option (String × ℚ)) :=
  if nameMatchedKinds.contains kind then (matchName userId kind).bind fun matched => .pure (some matched)
  else .pure none

def addAccount (userId : Nat) (dto : AddDisbursementAccountDto) : AccountAction AddedAccount :=
  (onWorld (countAccounts userId dto.kind)).bind fun existingCount =>
  if maxDisbursementAccountsPerKind ≤ existingCount then
    .throw (.disbursementAccountMaxPerKind dto.kind maxDisbursementAccountsPerKind)
  else
    (onWorld (hasDuplicate userId dto)).bind fun duplicate =>
    if duplicate then .throw .disbursementAccountDuplicate
    else
      (holder userId dto.kind).bind fun matched =>
      (onWorld (createAccount userId dto matched (existingCount = 0))).bind fun created =>
      .pure {
        id := created.1
        accountHolderName := created.2.accountHolderName
        nameMatchScore := created.2.nameMatchScore
        status := created.2.status
        isDefault := created.2.isDefault }

def setDefault (userId accountId : Nat) : AccountAction String :=
  (onWorld (findAccount userId accountId)).bind fun found =>
  match found with
  | none => .throw (.notFound "Disbursement account not found.")
  | some account =>
    (onKyc (KycService.findUser userId)).bind fun user =>
    if 1 ≤ user.kycTier ∧ account.accountHolderName = none then
      .throw (.loan .disbursementAccountUnverified)
    else
      (onWorld (writeDefault userId accountId account.kind)).bind fun _ =>
      .pure "Default disbursement account updated."

def deleteAccount (userId accountId : Nat) : AccountAction String :=
  (onWorld (findAccount userId accountId)).bind fun found =>
  match found with
  | none => .throw (.notFound "Disbursement account not found.")
  | some account =>
    (onWorld (writeDeletion userId accountId account)).bind fun _ =>
    .pure "Disbursement account deleted."

/-- The user is loaded when the session is checked, before the service is called. -/
def requestLoan (userId : Nat) (dto : CheckoutLoanDto) : AccountAction Unit :=
  (onKyc (KycService.findUser userId)).bind fun user =>
  (onWorld (checkoutLoan ⟨userId, user.loanEnabled, user.disbursementEnabled, user.kycTier⟩ dto)).bind
    fun _ => .pure ()

inductive Operation where
  | addAccount (userId : Nat) (dto : AddDisbursementAccountDto)
  | setDefault (userId accountId : Nat)
  | deleteAccount (userId accountId : Nat)
  | kyc (operation : KycService.Operation)
  | checkoutLoan (userId : Nat) (dto : CheckoutLoanDto)

def procedure (tid : Nat) : Operation → AccountAction Unit
  | .addAccount userId dto => (addAccount userId dto).bind fun _ => .pure ()
  | .setDefault userId accountId => (setDefault userId accountId).bind fun _ => .pure ()
  | .deleteAccount userId accountId => (deleteAccount userId accountId).bind fun _ => .pure ()
  | .kyc operation => (onKyc (KycService.procedure tid operation)).bind fun _ => .pure ()
  | .checkoutLoan userId dto => requestLoan userId dto

end DisbursementAccountsService

end Bitmonie
