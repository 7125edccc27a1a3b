import Bitmonie.CreditInflow

/-! Naira collections: the PalmPay webhook that stores an inflow and credits it, and the
calls by which a customer sees the stored ones and credits one. What the signature check and
the schema make of a body is given; of a page to ops, the mail is left out. -/
namespace Bitmonie

namespace PalmpayProvider

def respCodeSuccess : String := "00000000"
def respCodeOrderNotFound : String := "00000001"
def collectionStatusSuccess : Int := 1
def collectionStatusFailed : Int := 2

/-- What the webhook reads of a notification; the amount is in kobo. -/
structure CollectionNotification where
  orderNo : String
  orderStatus : Int
  orderAmount : Int
  virtualAccountNo : Option String
  sign : Option String
  deriving DecidableEq

inductive CollectionOrderStatus where
  | successful | failed | notFound | unknown
  deriving DecidableEq, Repr

structure CollectionOrder where
  status : CollectionOrderStatus
  amountKobo : Option Int := none
  virtualAccountNo : Option String := none
  failureReason : Option String := none
  deriving DecidableEq

def collectionOrder (data : PalmpayQueryCollectionOrderResponse) : CollectionOrder :=
  if data.respCode = respCodeOrderNotFound then
    { status := .notFound, failureReason := some (data.respCode ++ " " ++ data.respMsg) }
  else if data.respCode ≠ respCodeSuccess then
    { status := .unknown, failureReason := some (data.respCode ++ " " ++ data.respMsg) }
  else if data.orderStatus = some collectionStatusSuccess then
    { status := .successful
      amountKobo := data.orderAmount
      virtualAccountNo := data.virtualAccountNo }
  else if data.orderStatus = some collectionStatusFailed then
    { status := .failed, failureReason := data.message }
  else { status := .unknown }

end PalmpayProvider

/-- Reasons that leave an inflow to ops. -/
def untrustedReasons : List UnmatchedReason := [.requeryMismatch, .requeryUnconfirmed, .creditFailed]

namespace LoansService

def claimInflowWindowMs : Int := 24 * 60 * 60 * 1000

def findActiveLoan (userId loanId : Nat) (w : World) : Except AppError Loan := do
  let loan ← findLoan userId loanId w
  if loan.status ≠ .active then .error (.loanNotActive loan.status) else .ok loan

/-- `findFirst({ where: { id: inflow_id, user_id, currency: 'NGN' } })` -/
def findInflow (userId inflowId : Nat) (w : World) : Except AppError Inflow :=
  match w.inflows[inflowId]? with
  | some inflow =>
    if inflow.userId = some userId ∧ inflow.currency = .ngn then .ok inflow
    else .error .inflowNotFound
  | none => .error .inflowNotFound

theorem findInflow_ok {userId inflowId : Nat} {w : World} {inflow : Inflow}
    (found : findInflow userId inflowId w = .ok inflow) :
    w.inflows[inflowId]? = some inflow ∧ inflow.userId = some userId ∧ inflow.currency = .ngn := by
  unfold findInflow at found
  split at found
  · rename_i row present
    split at found
    · rename_i here
      obtain rfl := Except.ok.inj found
      exact ⟨present, here⟩
    · cases found
  · cases found

def untrusted (inflow : Inflow) : Bool := inflow.unmatchedReason.any (· ∈ untrustedReasons)

/-- The inflow must be unmatched, and not stored as untrusted. -/
def claimable (inflow : Inflow) : Except AppError Unit :=
  if inflow.isMatched then .error (.inflowAlreadyMatched inflow.matchedAt inflow.sourceId)
  else if untrusted inflow then .error .inflowNotFound
  else .ok ()

theorem claimable_ok {inflow : Inflow} (checked : claimable inflow = .ok ()) :
    inflow.isMatched = false ∧ untrusted inflow = false := by
  unfold claimable at checked
  obtain ⟨unmatched, checked⟩ := unless_ok.mp checked
  obtain ⟨trusted, -⟩ := unless_ok.mp checked
  simpa using And.intro unmatched trusted

def applyInflowToLoan (tid userId inflowId loanId : Nat) : Action CreditInflowResult :=
  (query fun _ => findActiveLoan userId loanId).bind fun _ =>
  (queryAs (.findInflow userId inflowId) fun _ => findInflow userId inflowId).bind fun inflow =>
  (Proc.ofExcept (claimable inflow)).bind fun _ =>
  creditInflow tid
    { inflowId := inflowId
      loanId := loanId
      amountNgn := inflow.amount
      matchMethod := .customerClaim
      skipFloor := true }

/-- The latest inflow of the user that can be claimed at `now`. -/
def claimCandidate (userId : Nat) (now : Time) (w : World) : Option (Nat × Inflow) :=
  let rows := findRows w.inflows fun inflow =>
    inflow.userId = some userId ∧ inflow.isMatched = false ∧ inflow.sourceType = none ∧
      inflow.currency = .ngn ∧ now - claimInflowWindowMs ≤ inflow.createdAt ∧
      minPartialRepaymentNgn ≤ inflow.amount
  (rows.insertionSort fun a b => b.2.createdAt ≤ a.2.createdAt).head?

def claimInflow (tid userId loanId : Nat) : Action CreditInflowResult :=
  (query fun i w => (findActiveLoan userId loanId w).map fun _ => i.now).bind fun now =>
  (query fun _ w => .ok (claimCandidate userId now w)).bind fun candidate =>
  match candidate with
  | none => .throw .noUnmatchedInflow
  | some candidate => applyInflowToLoan tid userId candidate.1 loanId

inductive UnmatchedInflowStatus where
  | claimable | belowMinimum
  deriving DecidableEq, Repr

/-- What the customer sees of an unmatched inflow, without its payer. -/
structure UnmatchedInflowRow where
  id : Nat
  amountNgn : String
  receivedAt : Time
  receivedVia : String
  status : UnmatchedInflowStatus
  deriving DecidableEq

/-- The unmatched naira inflows of the user that are trusted, latest first. -/
def unmatchedInflowsOf (userId : Nat) (w : World) : List (Nat × Inflow) :=
  let rows := findRows w.inflows fun inflow =>
    inflow.userId = some userId ∧ inflow.currency = .ngn ∧ inflow.isMatched = false ∧
      inflow.sourceType = none
  (rows.insertionSort fun a b => b.2.createdAt ≤ a.2.createdAt).filter fun row => !untrusted row.2

def unmatchedInflowRow (row : Nat × Inflow) : UnmatchedInflowRow :=
  ⟨row.1, displayNgn row.2.amount .ceil, row.2.createdAt, row.2.receivingAddress,
    if row.2.amount < minPartialRepaymentNgn then .belowMinimum else .claimable⟩

def listUnmatchedInflowsForUser (userId : Nat) : Action (List UnmatchedInflowRow) :=
  query fun _ w => .ok ((unmatchedInflowsOf userId w).map unmatchedInflowRow)

def activeLoansOf (userId : Nat) (w : World) : List (Nat × Loan) :=
  findRows w.loans fun loan => loan.userId = userId ∧ loan.status = .active

def totalOutstanding (w : World) (now : Time) (loan : Nat × Loan) : ℚ :=
  (outstandingOf loan.2 (repaymentsOf w loan.1) now).totalOutstandingNgn

def amountClosesAnyActiveLoan (userId : Nat) (amountNgn : ℚ) : Action Bool :=
  query fun i w => .ok <| (activeLoansOf userId w).any fun loan =>
    totalOutstanding w i.now loan - inflowOutstandingMatchToleranceNgn ≤ amountNgn

/-- The oldest loan whose outstanding total is the amount, within the tolerance. -/
def findActiveLoanMatchingOutstanding (userId : Nat) (amountNgn : ℚ) : Action (Option Nat) :=
  query fun i w =>
    let matching := (activeLoansOf userId w).filter fun loan =>
      |totalOutstanding w i.now loan - amountNgn| ≤ inflowOutstandingMatchToleranceNgn
    let oldest := matching.insertionSort fun a b => a.2.createdAt ≤ b.2.createdAt
    .ok (oldest.head?.map Prod.fst)

end LoansService

def isStored (orderNo : String) (w : World) : Bool :=
  w.inflows.any fun inflow => inflow.providerReference = orderNo

/-- A delivery that ends untrusted with its order stored sets the order aside. -/
def noteUntrusted (orderNo : String) (reason : UnmatchedReason) (w : World) : World :=
  if reason ∈ untrustedReasons ∧ isStored orderNo w then
    { w with setAside := orderNo :: w.setAside }
  else w

namespace OpsAlertsService

/-- A page for a failed credit sets its order aside, too. -/
def noteAlert (alert : OpsAlert) (w : World) : World :=
  match alert with
  | .unmatchedInflow orderNo .creditFailed => noteUntrusted orderNo .creditFailed w
  | _ => w

/-- A page that cannot be sent is only logged. -/
def page (alert : OpsAlert) : Action Unit :=
  .access (.alertOps alert) (fun _ => true) fun i w =>
    (.ok (), noteAlert alert
      (if i.fails then w else { w with opsAlerts := w.opsAlerts ++ [alert] }))

theorem noteUntrusted_eq (orderNo : String) (reason : UnmatchedReason) (w : World) :
    ∃ orders, noteUntrusted orderNo reason w = { w with setAside := orders } := by
  unfold noteUntrusted
  split
  · exact ⟨_, rfl⟩
  · exact ⟨w.setAside, rfl⟩

theorem noteAlert_eq (alert : OpsAlert) (w : World) :
    ∃ orders, noteAlert alert w = { w with setAside := orders } := by
  unfold noteAlert
  split
  · exact noteUntrusted_eq _ _ w
  · exact ⟨w.setAside, rfl⟩

def alertUnmatchedInflow (orderNo : String) (reason : UnmatchedReason) : Action Unit :=
  page (.unmatchedInflow orderNo reason)

def alertSignatureOnlyCredit (orderNo : String) (loanId : Nat) : Action Unit :=
  page (.signatureOnlyCredit orderNo loanId)

end OpsAlertsService

namespace WebhooksLogService

/-- A row that cannot be stored is only logged: the delivery goes on without one. -/
def record (provider : String) : Action (Option Nat) :=
  (commit .webhookLog (fun _ => true) fun _ w =>
    .ok (some w.webhookLogs.length,
      { w with webhookLogs := w.webhookLogs ++ [{ provider := provider }] })).catching fun _ =>
  .pure none

def loggedOutcome (signatureValid : Bool) (outcome : WebhookOutcome) (outcomeDetail : Option String)
    (externalReference : Option String) (log : WebhookLog) : WebhookLog :=
  { log with
    outcome := outcome
    outcomeDetail := outcomeDetail
    signatureValid := some signatureValid
    externalReference := externalReference }

def updateOutcome (logId : Option Nat) (data : WebhookLog → WebhookLog) : Action Unit :=
  match logId with
  | none => .pure ()
  | some id =>
    (commit .webhookLog (fun _ => true) fun _ w =>
      (updateRow w.webhookLogs id data).map fun logs =>
        ((), { w with webhookLogs := logs })).catching fun _ => .pure ()

end WebhooksLogService

def UnmatchedReason.name : UnmatchedReason → String
  | .noUserForVa => "no_user_for_va"
  | .belowFloor => "below_floor"
  | .noActiveLoans => "no_active_loans"
  | .multipleActiveLoans => "multiple_active_loans"
  | .creditFailed => "credit_failed"
  | .requeryUnconfirmed => "requery_unconfirmed"
  | .requeryMismatch => "requery_mismatch"

/-- `inflow.create`: `provider_reference` is unique. -/
def inflowCreate (row : Inflow) (w : World) : Except AppError World :=
  if w.inflows.any fun inflow => inflow.providerReference = row.providerReference then
    .error .uniqueViolation
  else .ok { w with inflows := w.inflows ++ [row] }

/-- `inflow.upsert` with `update: {}`: a stored row is returned as it is. -/
def upsertInflow (row : Inflow) (w : World) : (Nat × Inflow) × World :=
  match findRow w.inflows fun inflow => inflow.providerReference = row.providerReference with
  | some stored => (stored, w)
  | none => ((w.inflows.length, row), { w with inflows := w.inflows ++ [row] })

namespace PalmpayCollectionVaWebhook
open PalmpayProvider LoansService OpsAlertsService WebhooksLogService

def requeryAmountToleranceKobo : Int := 0
def creditFailedDetail : String := "creditInflow failed"

def amountNgn (payload : CollectionNotification) : ℚ := payload.orderAmount / 100

def collectedInflow (payload : CollectionNotification) (userId : Option Nat) (now : Time) :
    Inflow where
  userId := userId
  amount := amountNgn payload
  currency := .ngn
  receivingAddress := payload.virtualAccountNo.getD ""
  providerReference := payload.orderNo
  createdAt := now

def unmatchedInflow (payload : CollectionNotification) (userId : Option Nat)
    (reason : UnmatchedReason) (now : Time) : Inflow :=
  { collectedInflow payload userId now with unmatchedReason := some reason }

def verifiedInflow (payload : CollectionNotification) (userId : Nat) (signatureOnly : Bool)
    (now : Time) : Inflow :=
  { collectedInflow payload (some userId) now with signatureOnly := signatureOnly }

def createUnmatchedInflow (payload : CollectionNotification) (userId : Option Nat)
    (reason : UnmatchedReason) : Action Unit :=
  .access (.storeUnmatchedInflow payload.orderNo reason) (fun _ => true) fun i w =>
    (committed (fun i w =>
      (inflowCreate (unmatchedInflow payload userId reason i.now) w).map ((), ·)) i w).map id
      (noteUntrusted payload.orderNo reason)

/-- A row that is there already was paged for when it was stored. -/
def storeUnmatchedInflow (payload : CollectionNotification) (userId : Option Nat)
    (reason : UnmatchedReason) : Action Unit :=
  (createUnmatchedInflow payload userId reason).attempt.bind fun created =>
  match created with
  | .error .uniqueViolation => .pure ()
  | _ => alertUnmatchedInflow payload.orderNo reason

/-- The one ACTIVE loan of the user, or the one of several that the amount closes. -/
def selectLoan (payload : CollectionNotification) (userId : Nat) :
    Action (Except UnmatchedReason Nat) :=
  (query fun _ w => .ok ((activeLoansOf userId w).map Prod.fst)).bind fun activeLoans =>
  match activeLoans with
  | [] => .pure (.error .noActiveLoans)
  | [loanId] => .pure (.ok loanId)
  | _ =>
    (findActiveLoanMatchingOutstanding userId (amountNgn payload)).bind fun smartMatch =>
    .pure (match smartMatch with
      | none => .error .multipleActiveLoans
      | some loanId => .ok loanId)

/-- The loan a collection is for, or why there is none; the floor comes first. -/
def matchLoan (payload : CollectionNotification) (userId : Nat) :
    Action (Except UnmatchedReason Nat) :=
  (if amountNgn payload < minPartialRepaymentNgn then
    amountClosesAnyActiveLoan userId (amountNgn payload)
  else .pure true).bind fun enough =>
  if enough then selectLoan payload userId else .pure (.error .belowFloor)

/-- Why a collection is not credited: the reason it is stored under, if it is, and the
outcome. -/
structure Refusal where
  stored : Option UnmatchedReason
  outcome : WebhookOutcome
  outcomeDetail : String

def blank (text : Option String) : Bool := text.all (· = "")

/-- PalmPay's books against the payload. An order that PalmPay cannot find is taken on
its signature, which must be there. -/
def crossCheck (payload : CollectionNotification) (verified : CollectionOrder) :
    Except Refusal Unit :=
  match verified.status with
  | .notFound =>
    if blank payload.sign then
      .error ⟨some .requeryUnconfirmed, .ignored, "requery_not_found_unsigned"⟩
    else .ok ()
  | .failed => .error ⟨some .requeryMismatch, .ignored,
      "requery returned failed: " ++ verified.failureReason.getD "unknown"⟩
  | .unknown => .error ⟨none, .deferred, "requery_unknown"⟩
  | .successful =>
    if verified.amountKobo.all fun kobo =>
        requeryAmountToleranceKobo < |kobo - payload.orderAmount| then
      .error ⟨some .requeryMismatch, .ignored, "requery_amount_mismatch"⟩
    else if !blank verified.virtualAccountNo ∧
        verified.virtualAccountNo ≠ payload.virtualAccountNo then
      .error ⟨some .requeryMismatch, .ignored, "requery_va_mismatch"⟩
    else .ok ()

/-- PalmPay confirms the order of the payload: it settled with the same amount and no other
account, or it cannot be found and the payload is signed. -/
def confirms (payload : CollectionNotification) (verified : CollectionOrder) : Bool :=
  match verified.status with
  | .successful =>
    verified.amountKobo.any (fun kobo =>
      |kobo - payload.orderAmount| ≤ requeryAmountToleranceKobo) &&
    (blank verified.virtualAccountNo || verified.virtualAccountNo = payload.virtualAccountNo)
  | .notFound => !blank payload.sign
  | .failed | .unknown => false

theorem crossCheck_ok {payload : CollectionNotification} {verified : CollectionOrder} :
    crossCheck payload verified = .ok () ↔ confirms payload verified = true := by
  unfold crossCheck confirms
  cases verified.status with
  | notFound => cases blank payload.sign <;> simp
  | failed => simp
  | unknown => simp
  | successful =>
    cases settled : verified.amountKobo with
    | none => simp
    | some kobo =>
      by_cases drift : requeryAmountToleranceKobo < |kobo - payload.orderAmount|
      · simp [drift, not_le.mpr drift]
      · cases blank verified.virtualAccountNo <;> simp [drift, not_lt.mp drift]

/-- `getCollectionOrderStatus`; `confirmed` notes an order that PalmPay confirms. -/
def getCollectionOrderStatus (payload : CollectionNotification) : Action CollectionOrder :=
  .access (.getCollectionOrderStatus payload.orderNo) (fun _ => true) fun i w =>
    if i.fails then (.error .unavailable, w)
    else
      let verified := collectionOrder i.order
      (.ok verified,
        if confirms payload verified then
          { w with confirmed :=
            ⟨payload.orderNo, payload.orderAmount, payload.virtualAccountNo⟩ :: w.confirmed }
        else w)

/-- A failure to read counts as unmatched. -/
def inflowIsMatched (inflowId : Nat) : Action Bool :=
  (query fun _ w => .ok ((w.inflows[inflowId]?).any (·.isMatched))).catching fun _ => .pure false

def creditFailedLog (orderNo : String) (log : WebhookLog) : Bool :=
  log.provider = "palmpay" ∧ log.externalReference = some orderNo ∧ log.outcome = .error ∧
    log.outcomeDetail = some creditFailedDetail

/-- An earlier delivery of the order paged ops; a failure to read counts as none. -/
def creditFailedBefore (orderNo : String) : Action Bool :=
  (query fun _ w => .ok (w.webhookLogs.any (creditFailedLog orderNo))).catching fun _ => .pure false

/-- The outcome of a delivery, with what its call of `creditInflow` answered. -/
abbrev Delivery := HandlerOutcome × Option (Except AppError CreditInflowResult)

def upsertAccess (payload : CollectionNotification) (userId : Nat) : Access :=
  .upsertInflow payload.orderNo userId (amountNgn payload) (payload.virtualAccountNo.getD "")

def settle (tid : Nat) (payload : CollectionNotification) (userId loanId : Nat)
    (signatureOnly : Bool) : Action Delivery :=
  (commit (upsertAccess payload userId) (fun _ => true) fun i w =>
    .ok (upsertInflow (verifiedInflow payload userId signatureOnly i.now)
      w)).attempt.bind fun upserted =>
  match upserted with
  | .error _ => .pure (⟨.error, "inflow upsert failed", some payload.orderNo⟩, none)
  | .ok inflow =>
    if inflow.2.isMatched then
      .pure (⟨.ignored, "inflow already matched (duplicate webhook)", some payload.orderNo⟩, none)
    else
      (creditInflow tid
        { inflowId := inflow.1
          loanId := loanId
          amountNgn := amountNgn payload
          matchMethod := .autoAmount }).attempt.bind fun credit =>
      match credit with
      | .ok result =>
        (if signatureOnly then alertSignatureOnlyCredit payload.orderNo loanId
          else .pure ()).bind fun _ =>
        .pure (⟨.processed, "loan " ++ toString loanId ++ " → " ++ result.newStatus.name ++
          (if signatureOnly then " (signature only — PalmPay lookup: not found)" else ""),
          some payload.orderNo⟩, some credit)
      | .error _ =>
        (inflowIsMatched inflow.1).bind fun isMatched =>
        if isMatched then
          .pure (⟨.ignored, "inflow already matched (duplicate webhook)", some payload.orderNo⟩,
            some credit)
        else
          (creditFailedBefore payload.orderNo).bind fun pagedBefore =>
          (if pagedBefore then .pure ()
            else alertUnmatchedInflow payload.orderNo .creditFailed).bind fun _ =>
          .pure (⟨.error, creditFailedDetail, some payload.orderNo⟩, some credit)

def handle (tid : Nat) (parsed : Option CollectionNotification) : Action Delivery :=
  match parsed with
  | none => .pure (⟨.malformed, "collection schema validation failed", none⟩, none)
  | some payload =>
    if payload.orderStatus ≠ collectionStatusSuccess then
      .pure (⟨.ignored, "collection orderStatus=" ++ toString payload.orderStatus,
        some payload.orderNo⟩, none)
    else if blank payload.virtualAccountNo then
      .pure (⟨.malformed, "missing virtualAccountNo", some payload.orderNo⟩, none)
    else
      (query fun _ w => .ok (findRow w.repaymentAccounts fun account =>
        some account.virtualAccountNo = payload.virtualAccountNo)).bind fun repaymentAccount =>
      match repaymentAccount with
      -- The merchant is shared: another app's virtual account is not stored.
      | none => .pure (⟨.ignored, "no_user_for_va", some payload.orderNo⟩, none)
      | some account =>
        (matchLoan payload account.2.userId).bind fun matched =>
        match matched with
        | .error reason =>
          (storeUnmatchedInflow payload (some account.2.userId) reason).bind fun _ =>
          .pure (⟨.ignored, reason.name, some payload.orderNo⟩, none)
        | .ok loanId =>
          (getCollectionOrderStatus payload).attempt.bind fun verified =>
          match verified with
          | .error _ => .pure (⟨.deferred, "requery threw", some payload.orderNo⟩, none)
          | .ok order =>
            match crossCheck payload order with
            | .error refusal =>
              (match refusal.stored with
                | some reason => storeUnmatchedInflow payload (some account.2.userId) reason
                | none => .pure ()).bind fun _ =>
              .pure (⟨refusal.outcome, refusal.outcomeDetail, some payload.orderNo⟩, none)
            | .ok () => settle tid payload account.2.userId loanId (order.status = .notFound)

/-- The controller's `handle`. A body that is no JSON has no valid signature. -/
def handleWebhook (tid : Nat) (signatureValid : Bool) (parsed : Option CollectionNotification) :
    Action Delivery :=
  (record "palmpay").bind fun logId =>
  if signatureValid then
    (handle tid parsed).attempt.bind fun outcome =>
    match outcome with
    | .error e =>
      (updateOutcome logId (loggedOutcome true .error (some e.message) none)).bind fun _ => .throw e
    | .ok delivery =>
      (updateOutcome logId (loggedOutcome true delivery.1.outcome (some delivery.1.outcomeDetail)
        delivery.1.externalReference)).bind fun _ => .pure delivery
  else
    (updateOutcome logId (loggedOutcome false .signatureInvalid none none)).bind fun _ =>
    .throw (.failure "Invalid webhook signature")

theorem matchLoan_looks {payload : CollectionNotification} {userId : Nat} {labels : Access → Prop}
    (reads : labels .read) : (matchLoan payload userId).Looks labels := by
  have select : (selectLoan payload userId).Looks labels := by
    refine (query_looks reads).bind fun activeLoans => ?_
    rcases activeLoans with _ | ⟨loanId, _ | ⟨_, _⟩⟩
    · trivial
    · trivial
    · exact (query_looks reads).bind fun _ => trivial
  unfold matchLoan
  split
  · refine (query_looks reads).bind fun enough => ?_
    cases enough with
    | false => trivial
    | true => exact select
  · exact select

section Meets
variable {c : Contract World Answer Access} {post : α → World → Prop} {err : AppError → World → Prop}

theorem isStored_iff {orderNo : String} {w : World} :
    isStored orderNo w = true ↔ ∃ inflow ∈ w.inflows, inflow.providerReference = orderNo := by
  simp [isStored]

theorem createUnmatchedInflow_meets {payload : CollectionNotification} {userId : Option Nat}
    {reason : UnmatchedReason} {s : World} {post : Unit → World → Prop}
    (write : ∀ t, c.rely s t → c.inv t → ∀ i,
      c.allowed (.storeUnmatchedInflow payload.orderNo reason) i t →
      let same := noteUntrusted payload.orderNo reason t
      let row := unmatchedInflow payload userId reason i.now
      let created := noteUntrusted payload.orderNo reason { t with inflows := t.inflows ++ [row] }
      let guar := c.guar (.storeUnmatchedInflow payload.orderNo reason) i t
      (i.fails = true → c.inv same ∧ guar same ∧ err .unavailable same) ∧
      (i.fails = false → isStored payload.orderNo t = true →
        c.inv same ∧ guar same ∧ err .uniqueViolation same) ∧
      (i.fails = false → isStored payload.orderNo t = false →
        c.inv created ∧ guar created ∧ (i.lost = false → post () created) ∧
          (i.lost = true → err .unavailable created))) :
    (createUnmatchedInflow payload userId reason).Meets c post err s := by
  rw [createUnmatchedInflow, Proc.meets_access]
  intro t moved inv _ i allowed
  obtain ⟨fault, there, new⟩ := write t moved inv i allowed
  unfold committed
  cases fails : i.fails with
  | true => exact fault fails
  | false =>
    unfold inflowCreate
    cases stored : isStored payload.orderNo t with
    | true =>
      have refused : (t.inflows.any fun inflow => inflow.providerReference =
          (unmatchedInflow payload userId reason i.now).providerReference) = true := stored
      simp only [refused, if_true]
      exact there fails stored
    | false =>
      have free : (t.inflows.any fun inflow => inflow.providerReference =
          (unmatchedInflow payload userId reason i.now).providerReference) = false := stored
      obtain ⟨inv', guar, done, unsure⟩ := new fails stored
      simp only [free, Bool.false_eq_true, if_false]
      refine ⟨inv', guar, ?_⟩
      cases lost : i.lost with
      | true => exact unsure lost
      | false => exact done lost

end Meets

end PalmpayCollectionVaWebhook

end Bitmonie
