import Bitmonie.NameMatch
import Bitmonie.SharedClock
import Bitmonie.Service

/-! Identity verification: the submission of tier 1, and the revocation to a lower tier by ops.
The tier stands on the user row, what was verified in rows of its own. Ids of the verification
rows are left out; a stored number stands for the one its encrypted column is decrypted to. -/
namespace Bitmonie.KycService

def tier1 : Nat := 1
def disbursementNameMatchThreshold : ℚ := 85 / 100

inductive KycError where
  | kycAlreadyVerified
  | kycPending
  | kycIdNumberTaken
  | kycBiodataMismatch
  | kycProviderError
  /-- The provider did not resolve the number. -/
  | providerFailed
  /-- A unique index refused the row (`P2002`). -/
  | uniqueViolation
  /-- `update` found no row (`P2025`). -/
  | recordNotFound
  /-- `create` found no row that it refers to (`P2003`). -/
  | foreignKeyViolation
  /-- The database could not be reached. -/
  | unavailable
  deriving DecidableEq, Repr

def KycError.exception : KycError → Option BitmonieException
  | .kycAlreadyVerified => some ⟨"KYC_ALREADY_VERIFIED", "KYC has already been verified.", 409, []⟩
  | .kycPending => some ⟨"KYC_PENDING",
      "Your KYC verification is under review. Please wait for approval.", 403, []⟩
  | .kycIdNumberTaken => some ⟨"KYC_ID_NUMBER_TAKEN",
      "This identity number is already linked to another account.", 409, []⟩
  | .kycBiodataMismatch => some ⟨"KYC_BIODATA_MISMATCH",
      "The name or date of birth you provided does not match the records on your identity " ++
        "document.", 422, []⟩
  | .kycProviderError => some ⟨"KYC_PROVIDER_ERROR",
      "Identity verification could not be completed. Please check your details and try again.",
      422, []⟩
  | .providerFailed => none
  | .uniqueViolation => none
  | .recordNotFound => none
  | .foreignKeyViolation => none
  | .unavailable => none

inductive KycIdType where
  | bvn | nin | passport | driversLicense
  deriving DecidableEq, Repr

inductive KycStatus where
  | pending | underReview | verified | failed
  deriving DecidableEq, Repr

/-- The peppered digest of a number. Different numbers have different ones. -/
structure IdNumberHash where
  digestOf : String
  deriving DecidableEq

/-- The columns of a liveness or an address check are never written. -/
structure KycVerification where
  userId : Nat
  tier : Nat
  idType : Option KycIdType
  idNumberHash : Option IdNumberHash
  idNumber : Option String
  legalName : Option String
  dateOfBirth : Option String
  providerReference : Option String
  providerRawResponse : Option String
  status : KycStatus := .pending
  failureReason : Option String := none
  verifiedAt : Option Int
  deriving DecidableEq

/-- The columns that identify a user, and those that bar one. -/
structure User where
  kycTier : Nat := 0
  firstName : Option String := none
  middleName : Option String := none
  lastName : Option String := none
  dateOfBirth : Option String := none
  loanEnabled : Bool := true
  disbursementEnabled : Bool := true
  deriving DecidableEq

inductive OpsAction where
  | kycReset | kycRevoke
  deriving DecidableEq, Repr

structure OpsAuditLog where
  opsUserId : Nat
  action : OpsAction
  targetId : Nat
  targetTier : Nat
  requestId : Option String
  ipAddress : Option String
  deriving DecidableEq

structure KycStore where
  now : Int
  users : List User := []
  verifications : List KycVerification := []
  opsAuditLogs : List OpsAuditLog := []

instance : Clocked KycStore where
  now s := s.now
  tick elapsed s := { s with now := s.now + elapsed }
  now_tick _ _ := rfl

structure SubmitKycDto where
  idType : KycIdType
  idNumber : String
  firstName : String
  middleName : Option String := none
  lastName : String
  dateOfBirth : String
  deriving DecidableEq

structure RevokeKycDto where
  targetTier : Fin 4
  deriving DecidableEq

structure KycVerifyResult where
  legalName : String
  providerReference : String
  dateOfBirth : Option String := none
  rawResponse : String := ""

/-- What the provider answers, when it resolves the number. -/
structure KycReply where
  resolved : Option KycVerifyResult := none

inductive KycAccess where
  | readUser (userId : Nat)
  | readVerification (userId tier : Nat)
  | readClaimed
  | resolveIdNumber (tier : Nat) (idType : KycIdType)
  | verify (userId : Nat)
  | revoke (userId targetTier : Nat)
  deriving DecidableEq

abbrev KycAction := Proc KycStore (Reply KycReply) KycAccess KycError

def digits (count : Nat) (text : String) : Bool := text.length = count && text.all Char.isDigit

/-- A date with its year first, or last after dashes or slashes, to the first of these. -/
def normalizeDob (raw : String) : Option String :=
  let yearLast : List String → Option String
    | [day, month, year] =>
      if digits 2 day && digits 2 month && digits 4 year then
        some (year ++ "-" ++ month ++ "-" ++ day)
      else none
    | _ => none
  match raw.splitOn "-" with
  | [year, month, day] =>
    if digits 4 year && digits 2 month && digits 2 day then some raw else yearLast [year, month, day]
  | _ => yearLast (raw.splitOn "/")

def submittedName (dto : SubmitKycDto) : String :=
  " ".intercalate ([dto.firstName, dto.middleName.getD "", dto.lastName].filter (· ≠ ""))

/-- The name is alike, and a date of birth that can be read is the same. -/
def verifyBiodata (dto : SubmitKycDto) (officialName : String) (officialDob : Option String) :
    Except KycError Unit :=
  if NameMatchService.compare (submittedName dto) officialName < disbursementNameMatchThreshold then
    .error .kycBiodataMismatch
  else if ((officialDob.filter (· ≠ "")).bind normalizeDob).any (· ≠ dto.dateOfBirth) then
    .error .kycBiodataMismatch
  else .ok ()

def hashKycIdNumber (idNumber : String) : IdNumberHash := ⟨idNumber⟩

/-- `(user_id, tier)` is unique. -/
def hasKey (userId tier : Nat) (row : KycVerification) : Bool := row.userId = userId && row.tier = tier

def findUser (userId : Nat) : KycAction User :=
  statement .unavailable (.readUser userId) fun _ s =>
    match s.users[userId]? with
    | none => (.error .recordNotFound, s)
    | some user => (.ok user, s)

def findVerification (userId tier : Nat) : KycAction (Option KycVerification) :=
  statement .unavailable (.readVerification userId tier) fun _ s =>
    (.ok (s.verifications.find? (hasKey userId tier)), s)

def claimedByOther (userId : Nat) (dto : SubmitKycDto) : KycAction Bool :=
  statement .unavailable .readClaimed fun _ s =>
    (.ok (s.verifications.any fun row => row.idType = some dto.idType &&
      row.idNumberHash = some (hashKycIdNumber dto.idNumber) && row.userId ≠ userId), s)

/-- The provider of the tier, by the type of the document. -/
def resolveIdNumber (tier : Nat) (dto : SubmitKycDto) : KycAction KycVerifyResult :=
  statement .unavailable (.resolveIdNumber tier dto.idType) fun reply s =>
    match reply.resolved with
    | none => (.error .providerFailed, s)
    | some result => (.ok result, s)

/-- With the date of birth that is kept. -/
def resolve (dto : SubmitKycDto) : KycAction (KycVerifyResult × Option String) :=
  ((resolveIdNumber tier1 dto).bind fun result =>
    (Proc.ofExcept (verifyBiodata dto result.legalName result.dateOfBirth)).bind fun _ =>
    .pure (result, (result.dateOfBirth.filter (· ≠ "")).bind normalizeDob)).catching fun e =>
  .throw (if e = .kycBiodataMismatch then e else .kycProviderError)

def verifiedRow (userId : Nat) (dto : SubmitKycDto) (result : KycVerifyResult)
    (verifiedDob : Option String) (now : Int) : KycVerification where
  userId := userId
  tier := tier1
  idType := some dto.idType
  idNumberHash := some (hashKycIdNumber dto.idNumber)
  idNumber := some dto.idNumber
  legalName := some result.legalName
  dateOfBirth := verifiedDob
  providerReference := some result.providerReference
  providerRawResponse := some result.rawResponse
  status := .verified
  verifiedAt := some now

def upsert (row : KycVerification) (rows : List KycVerification) : List KycVerification :=
  if rows.any (hasKey row.userId row.tier) then
    rows.map fun other => if hasKey row.userId row.tier other then row else other
  else rows ++ [row]

def verifiedUser (dto : SubmitKycDto) (verifiedDob : Option String) (user : User) : User :=
  { user with
    kycTier := tier1
    firstName := some dto.firstName
    middleName := dto.middleName
    lastName := some dto.lastName
    dateOfBirth := verifiedDob }

/-- The transaction: the row and the user. A number belongs to one row
(`kyc_verifications_id_type_id_number_hash_unique`). -/
def writeTier1 (userId : Nat) (dto : SubmitKycDto) (result : KycVerifyResult)
    (verifiedDob : Option String) : KycAction Unit :=
  statement .unavailable (.verify userId) fun _ s =>
    let row := verifiedRow userId dto result verifiedDob s.now
    if s.verifications.any fun other => !hasKey userId tier1 other && other.idType = row.idType &&
        other.idNumberHash = row.idNumberHash then (.error .uniqueViolation, s)
    else match s.users[userId]? with
      | none => (.error .foreignKeyViolation, s)
      | some user => (.ok (), { s with
          verifications := upsert row s.verifications
          users := s.users.set userId (verifiedUser dto verifiedDob user) })

/-- The repayment account that is provisioned afterwards is left out: its faults are swallowed. -/
def submitTier1 (userId : Nat) (dto : SubmitKycDto) : KycAction String :=
  (findVerification userId tier1).bind fun existing =>
  if existing.any (·.status = .verified) then .throw .kycAlreadyVerified
  else if existing.any (·.status = .underReview) then .throw .kycPending
  else
    (claimedByOther userId dto).bind fun claimed =>
    if claimed then .throw .kycIdNumberTaken
    else
      (resolve dto).bind fun resolved =>
      ((writeTier1 userId dto resolved.1 resolved.2).catching fun e =>
        .throw (if e = .uniqueViolation then .kycIdNumberTaken else e)).bind fun _ =>
      .pure "Identity verified successfully."

def revokedMessage (targetTier : Nat) : String :=
  "KYC " ++ (if targetTier = 0 then "reset to unverified"
    else "revoked to tier " ++ toString targetTier) ++ "."

/-- The tier of the user is set to the target, whatever it was. `onInTx` is the audit row that
the caller writes in the same transaction. -/
def revokeToTier (userId : Nat) (dto : RevokeKycDto) (onInTx : Option OpsAuditLog) :
    KycAction String :=
  (statement .unavailable (.revoke userId dto.targetTier) fun _ s =>
    match s.users[userId]? with
    | none => (.error .recordNotFound, s)
    | some user => (.ok (), { s with
        verifications := s.verifications.filter fun row =>
          !(row.userId = userId && dto.targetTier.val < row.tier)
        users := s.users.set userId { user with kycTier := dto.targetTier }
        opsAuditLogs := s.opsAuditLogs ++ onInTx.toList })).bind fun _ =>
  .pure (revokedMessage dto.targetTier)

structure OpsCaller where
  opsUserId : Nat
  requestId : Option String := none
  ipAddress : Option String := none
  deriving DecidableEq

inductive Operation where
  | submitTier1 (userId : Nat) (dto : SubmitKycDto)
  | reset (caller : OpsCaller) (userId : Nat)
  | revoke (caller : OpsCaller) (userId : Nat) (dto : RevokeKycDto)

def auditRow (caller : OpsCaller) (action : OpsAction) (userId : Nat) (targetTier : Nat) :
    OpsAuditLog :=
  ⟨caller.opsUserId, action, userId, targetTier, caller.requestId, caller.ipAddress⟩

def procedure (_tid : Nat) : Operation → KycAction String
  | .submitTier1 userId dto => submitTier1 userId dto
  | .reset caller userId => revokeToTier userId ⟨0⟩ (some (auditRow caller .kycReset userId 0))
  | .revoke caller userId dto =>
    revokeToTier userId dto (some (auditRow caller .kycRevoke userId dto.targetTier))

end Bitmonie.KycService
