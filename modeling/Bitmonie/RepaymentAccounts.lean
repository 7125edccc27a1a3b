import Bitmonie.Interleaving
import Bitmonie.Kyc

/-! The virtual accounts that customers repay into: one is opened at the collection provider
against a verified identity, and later replaced. The identities are a part of the state. -/
namespace Bitmonie.UserRepaymentAccountsService
open KycService

inductive AccountError where
  | kyc (error : KycError)
  | kycNotFound
  | repaymentAccountNotReady
  /-- The provider refused, or could not be reached. -/
  | providerFailed
  /-- A unique index refused the row (`P2002`). -/
  | uniqueViolation
  /-- `create` found no row that it refers to (`P2003`). -/
  | foreignKeyViolation
  /-- The database could not be reached. -/
  | unavailable
  deriving DecidableEq, Repr

def AccountError.exception : AccountError → Option BitmonieException
  | .kyc error => error.exception
  | .kycNotFound => some ⟨"KYC_NOT_FOUND", "KYC record not found.", 404, []⟩
  | .repaymentAccountNotReady => some ⟨"REPAYMENT_ACCOUNT_NOT_READY",
      "Your repayment account is not yet provisioned. Please contact support.", 422, []⟩
  | .providerFailed => none
  | .uniqueViolation => none
  | .foreignKeyViolation => none
  | .unavailable => none

/-- What the provider takes an account on. -/
inductive CollectionIdentityType where
  | bvn | nin
  deriving DecidableEq, Repr

/-- An `ops_audit_logs` row of the action `KYC_PROVISION_VA`; its target is a user. -/
structure ProvisionAudit where
  opsUserId : Nat
  targetId : Nat
  requestId : Option String
  ipAddress : Option String
  deriving DecidableEq

/-- The last two are auxiliary: the row the account was opened on, and the audit row that was
written with it. -/
structure UserRepaymentAccount where
  userId : Nat
  virtualAccountNo : String
  virtualAccountName : String
  bankName : String
  provider : String
  isActive : Bool := true
  deactivatedAt : Option Int := none
  openedOn : KycVerification
  audit : Option ProvisionAudit := none
  deriving DecidableEq

structure UserRepaymentAccountSummary where
  virtualAccountNo : String
  virtualAccountName : String
  bankName : String
  provider : String
  deriving DecidableEq

def toSummary (row : UserRepaymentAccount) : UserRepaymentAccountSummary :=
  ⟨row.virtualAccountNo, row.virtualAccountName, row.bankName, row.provider⟩

structure EnsureForUserResult where
  summary : UserRepaymentAccountSummary
  created : Bool

structure ReplaceForUserResult where
  summary : UserRepaymentAccountSummary
  retired : Option UserRepaymentAccountSummary

structure Desk where
  kyc : KycStore
  accounts : List UserRepaymentAccount := []
  provisionAudits : List ProvisionAudit := []

instance : Clocked Desk where
  now s := s.kyc.now
  tick elapsed s := { s with kyc := Clocked.tick elapsed s.kyc }
  now_tick _ _ := rfl

structure VirtualAccount where
  virtualAccountNo : String
  virtualAccountName : String
  bankName : String
  deriving DecidableEq

structure DeskReply where
  kyc : KycReply := {}
  opened : Option VirtualAccount := none

inductive DeskAccess where
  | kyc (label : KycAccess)
  | readAccounts (userId : Nat)
  | readVerification (userId : Nat)
  | createVirtualAccount (identityType : CollectionIdentityType) (accountReference : String)
  | createAccount (userId : Nat)
  | readActive (userId : Nat)
  | replaceAccount (userId : Nat)
  deriving DecidableEq

abbrev DeskAction := Proc Desk (Reply DeskReply) DeskAccess AccountError

def kycPart : Proc.Part KycStore (Reply KycReply) KycAccess KycError Desk (Reply DeskReply)
    DeskAccess AccountError where
  get s := s.kyc
  set s kyc := { s with kyc }
  answer i := { i with data := i.data.kyc }
  label := .kyc
  error := .kyc
  get_set _ _ := rfl

def command {α : Type} (label : DeskAccess)
    (f : DeskReply → Desk → Except AccountError α × Desk) : DeskAction α :=
  statement .unavailable label f

/-- `findFirst({ where: { user_id, is_active: true } })` -/
def findActive (userId : Nat) : DeskAction (Option UserRepaymentAccount) :=
  command (.readAccounts userId) fun _ s =>
    (.ok (s.accounts.find? fun row => row.userId = userId && row.isActive), s)

def mapToCollectionIdentityType : KycIdType → Option CollectionIdentityType
  | .bvn => some .bvn
  | .nin => some .nin
  | .passport => none
  | .driversLicense => none

/-- A text that is stored and not empty. -/
def present (text : Option String) : Option String := text.filter (· ≠ "")

structure Identity where
  identityType : CollectionIdentityType
  licenseNumber : String
  customerName : String
  virtualAccountName : String
  deriving DecidableEq

/-- None when a field is missing, or the document is of another type. -/
def identityOf (verification : KycVerification) (user : User) : Option Identity :=
  (present verification.idNumber).bind fun licenseNumber =>
  (present verification.legalName).bind fun customerName =>
  verification.idType.bind fun idType =>
  (present user.firstName).bind fun firstName =>
  (present user.lastName).bind fun lastName =>
  (mapToCollectionIdentityType idType).map fun identityType =>
    ⟨identityType, licenseNumber, customerName, firstName ++ " " ++ lastName⟩

/-- `findUnique({ where: { user_id_tier: { user_id, tier: 1 } } })`, with the user. -/
def findIdentity (userId : Nat) : DeskAction (Option (KycVerification × Identity)) :=
  command (.readVerification userId) fun _ s =>
    (.ok ((s.kyc.verifications.find? (hasKey userId tier1)).bind fun verification =>
      (s.kyc.users[userId]?).bind fun user =>
      (identityOf verification user).map fun identity => (verification, identity)), s)

def createVirtualAccount (identity : Identity) (accountReference : String) :
    DeskAction VirtualAccount :=
  command (.createVirtualAccount identity.identityType accountReference) fun reply s =>
    match reply.opened with
    | none => (.error .providerFailed, s)
    | some opened => (.ok opened, s)

def provision (userId : Nat) (accountReference : String) :
    DeskAction (Option (KycVerification × VirtualAccount)) :=
  (findIdentity userId).bind fun found =>
  match found with
  | none => .pure none
  | some (verification, identity) =>
    (createVirtualAccount identity accountReference).bind fun opened =>
    .pure (some (verification, opened))

def newAccount (provider : String) (userId : Nat) (opened : VirtualAccount)
    (openedOn : KycVerification) (audit : Option ProvisionAudit) : UserRepaymentAccount where
  userId := userId
  virtualAccountNo := opened.virtualAccountNo
  virtualAccountName := opened.virtualAccountName
  bankName := opened.bankName
  provider := provider
  openedOn := openedOn
  audit := audit

/-- The row is refused by `virtual_account_no`, by the partial index on the active row of a
user, and for a user that is not there. -/
def insertAccount (row : UserRepaymentAccount) (s : Desk) :
    Except AccountError UserRepaymentAccount × Desk :=
  if s.kyc.users[row.userId]? = none then (.error .foreignKeyViolation, s)
  else if s.accounts.any fun other => other.virtualAccountNo = row.virtualAccountNo ||
      (other.userId = row.userId && other.isActive) then (.error .uniqueViolation, s)
  else (.ok row, { s with
    accounts := s.accounts ++ [row]
    provisionAudits := s.provisionAudits ++ row.audit.toList })

def createAccount (row : UserRepaymentAccount) : DeskAction UserRepaymentAccount :=
  command (.createAccount row.userId) fun _ s => insertAccount row s

section Service
variable (provider : String)

def ensureForUser (userId : Nat) (onCreatedInTx : Option ProvisionAudit) :
    DeskAction (Option EnsureForUserResult) :=
  (findActive userId).bind fun existing =>
  match existing with
  | some row => .pure (some ⟨toSummary row, false⟩)
  | none =>
    (provision userId (toString userId)).bind fun provisioned =>
    match provisioned with
    | none => .pure none
    | some (openedOn, opened) =>
      (createAccount (newAccount provider userId opened openedOn onCreatedInTx)).bind fun account =>
      .pure (some ⟨toSummary account, true⟩)

/-- The rows that the update of the transaction finds when it starts. -/
def readActive (userId : Nat) : DeskAction (List Nat) :=
  command (.readActive userId) fun _ s =>
    (.ok ((findRows s.accounts fun row => row.userId = userId && row.isActive).map (·.1)), s)

def deactivate (now : Int) (row : UserRepaymentAccount) : UserRepaymentAccount :=
  { row with isActive := false, deactivatedAt := some now }

/-- Of the rows that were found, those that are active still are retired. -/
def retire (now : Int) (found : List Nat) (rows : List UserRepaymentAccount) :
    List UserRepaymentAccount :=
  rows.mapIdx fun id row => if id ∈ found && row.isActive then deactivate now row else row

/-- The rest of the transaction; a row that is refused rolls the update back. -/
def replaceAccount (found : List Nat) (row : UserRepaymentAccount) : DeskAction UserRepaymentAccount :=
  command (.replaceAccount row.userId) fun _ s =>
    match insertAccount row { s with accounts := retire s.kyc.now found s.accounts } with
    | (.error e, _) => (.error e, s)
    | (.ok account, t) => (.ok account, t)

/-- The account is opened before the active one is retired. `stamp` is the time in the
reference. -/
def replaceForUser (userId : Nat) (stamp : Int) : DeskAction (Option ReplaceForUserResult) :=
  (findActive userId).bind fun current =>
  (provision userId (toString userId ++ "-" ++ toString stamp)).bind fun provisioned =>
  match provisioned with
  | none => .pure none
  | some (openedOn, opened) =>
    (readActive userId).bind fun found =>
    (replaceAccount found (newAccount provider userId opened openedOn none)).bind fun account =>
    .pure (some ⟨toSummary account, current.map toSummary⟩)

def onKyc {α : Type} (p : KycAction α) : DeskAction α := p.zoom kycPart

/-- A fault of the account does not fail the verification. -/
def submitTier1 (userId : Nat) (dto : SubmitKycDto) : DeskAction String :=
  (onKyc (KycService.submitTier1 userId dto)).bind fun message =>
  (((ensureForUser provider userId none).bind fun _ => .pure ()).catching fun _ => .pure ()).bind
    fun _ => .pure message

def provisionVa (caller : OpsCaller) (userId : Nat) : DeskAction UserRepaymentAccountSummary :=
  (ensureForUser provider userId
    (some ⟨caller.opsUserId, userId, caller.requestId, caller.ipAddress⟩)).bind fun result =>
  match result with
  | none => .throw .kycNotFound
  | some result => .pure result.summary

/-- The account among the instructions for an active loan. -/
def repaymentAccount (userId : Nat) : DeskAction UserRepaymentAccountSummary :=
  (ensureForUser provider userId none).bind fun va =>
  match va with
  | none => .throw .repaymentAccountNotReady
  | some va => .pure va.summary

inductive Operation where
  | submitTier1 (userId : Nat) (dto : SubmitKycDto)
  | reset (caller : OpsCaller) (userId : Nat)
  | revoke (caller : OpsCaller) (userId : Nat) (dto : RevokeKycDto)
  | provisionVa (caller : OpsCaller) (userId : Nat)
  | repaymentAccount (userId : Nat)
  | replaceForUser (userId : Nat) (stamp : Int)

def procedure (tid : Nat) : Operation → DeskAction Unit
  | .submitTier1 userId dto => (submitTier1 provider userId dto).bind fun _ => .pure ()
  | .reset caller userId =>
    (onKyc (KycService.procedure tid (.reset caller userId))).bind fun _ => .pure ()
  | .revoke caller userId dto =>
    (onKyc (KycService.procedure tid (.revoke caller userId dto))).bind fun _ => .pure ()
  | .provisionVa caller userId => (provisionVa provider caller userId).bind fun _ => .pure ()
  | .repaymentAccount userId => (repaymentAccount provider userId).bind fun _ => .pure ()
  | .replaceForUser userId stamp => (replaceForUser provider userId stamp).bind fun _ => .pure ()

end Service

end Bitmonie.UserRepaymentAccountsService
