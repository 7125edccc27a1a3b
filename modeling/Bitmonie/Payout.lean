import Bitmonie.Service
import Mathlib.Data.List.Sort

/-! Payouts: a disbursement, its outflows (one for each attempt), and the transfers the
provider holds under their references. Guards stand in the callers; the writers update
by id. Alerts and mails are left out, not the reads and writes around them. -/
namespace Bitmonie

def OutflowReference.text (reference : OutflowReference) : String :=
  "outflow-" ++ toString reference.attemptNumber ++ "-" ++ toString reference.disbursementId

namespace DisbursementProvider

inductive TransferResult where
  | processing | successful | failed
  deriving DecidableEq, Repr

structure TransferStatus where
  status : TransferResult
  failureReason : Option String := none
  failureCode : Option String := none

/-- The provider accepts the transfer unless the call `fails`; when the answer is `lost`
the call throws all the same. A reference is accepted once. -/
def initiateTransfer (reference : OutflowReference) : Action String :=
  .access (.initiateTransfer reference) (fun _ => true) fun i w =>
    if i.fails then (.error (.failure i.text), w)
    else (if i.lost then .error (.failure i.text) else .ok i.text,
      if w.transfers reference = .absent then
        { w with transfers := Function.update w.transfers reference .accepted }
      else w)

/-- A transfer that is not known is reported as processing. -/
def transferStatus (i : Answer) : TransferState → TransferStatus
  | .completed => { status := .successful }
  | .failed => { status := .failed, failureReason := i.message, failureCode := some i.text }
  | .accepted | .absent => { status := .processing }

def getTransferStatus (reference : OutflowReference) : Action TransferStatus :=
  query fun i w => .ok (transferStatus i (w.transfers reference))

/-- An accepted transfer comes to its result, which is final. -/
def settleTransfer (reference : OutflowReference) (completes : Bool) : Action Unit :=
  .access (.settleTransfer reference) (fun w => w.transfers reference = .accepted) fun _ w =>
    let result : TransferState := if completes then .completed else .failed
    (.ok (), { w with transfers := Function.update w.transfers reference result })

end DisbursementProvider

def Currency.name : Currency → String
  | .sat => "SAT"
  | .ngn => "NGN"

def DisbursementRail.name : DisbursementRail → String
  | .bankTransfer => "BANK_TRANSFER"
  | .mobileMoney => "MOBILE_MONEY"
  | .lightning => "LIGHTNING"
  | .onchain => "ONCHAIN"

namespace DisbursementRouter

/-- `DISBURSEMENT_ROUTES_CONFIG.NGN` -/
def ngnRoute : DisbursementRail → Option String
  | .bankTransfer => some "palmpay"
  | .mobileMoney => some "stub"
  | .lightning | .onchain => none

def forRoute (currency : Currency) (rail : DisbursementRail) : Except AppError String :=
  match currency, ngnRoute rail with
  | .ngn, some provider => .ok provider
  | _, _ => .error (.failure ("No disbursement route configured for " ++ currency.name ++ ":" ++
      rail.name))

def resolveProviderName (rail : DisbursementRail) : String := (ngnRoute rail).getD "unknown"

end DisbursementRouter

def DisbursementStatus.terminal : DisbursementStatus → Bool
  | .successful | .cancelled => true
  | _ => false

def OutflowStatus.inFlight : OutflowStatus → Bool
  | .pending | .processing => true
  | _ => false

def OutflowStatus.name : OutflowStatus → String
  | .pending => "PENDING"
  | .processing => "PROCESSING"
  | .successful => "SUCCESSFUL"
  | .failed => "FAILED"

namespace DisbursementsService

structure Loaded where
  id : Nat
  row : Disbursement
  outflows : List (Nat × Outflow)

def outflowsOf (disbursementId : Nat) (w : World) : List (Nat × Outflow) :=
  findRows w.outflows fun outflow => outflow.disbursementId = disbursementId

def findById (id : Nat) (w : World) : Option Loaded :=
  (w.disbursements[id]?).map fun row => ⟨id, row, outflowsOf id w⟩

def createForLoan (row : Disbursement) : Action Nat :=
  commit (.createDisbursement row.sourceId) (fun _ => true) fun _ w =>
    .ok (w.disbursements.length, { w with disbursements := w.disbursements ++ [row] })

def existsForLoan (loanId : Nat) : Action Bool :=
  query fun _ w => .ok (w.disbursements.any fun row => row.sourceId = loanId)

def updateDisbursement (id : Nat) (data : Disbursement → Disbursement) (w : World) :
    Except AppError World :=
  (updateRow w.disbursements id data).map fun rows => { w with disbursements := rows }

theorem updateDisbursement_ok {id : Nat} {data : Disbursement → Disbursement} {w w' : World} :
    updateDisbursement id data w = .ok w' ↔ ∃ row, w.disbursements[id]? = some row ∧
      w' = { w with disbursements := w.disbursements.set id (data row) } := by
  rw [updateDisbursement, map_ok]
  constructor
  · rintro ⟨rows, updated, rfl⟩
    obtain ⟨row, found, rfl⟩ := updateRow_ok.mp updated
    exact ⟨row, found, rfl⟩
  · rintro ⟨row, found, rfl⟩
    exact ⟨_, updateRow_ok.mpr ⟨row, found, rfl⟩, rfl⟩

/-- One row is rewritten at most, and still pays out the same loan. -/
def Marked (id : Nat) (w w' : World) : Prop :=
  w' = w ∨ ∃ before after, w.disbursements[id]? = some before ∧
    after.sourceId = before.sourceId ∧
      w' = { w with disbursements := w.disbursements.set id after }

theorem updateDisbursement_marked {id : Nat} {data : Disbursement → Disbursement} {w w' : World}
    {a : Unit} (done : (updateDisbursement id data w).map ((), ·) = .ok (a, w'))
    (source : ∀ row, (data row).sourceId = row.sourceId) : Marked id w w' := by
  obtain ⟨_, updated, -, rfl⟩ := map_pair_ok.mp done
  obtain ⟨row, found, rfl⟩ := updateDisbursement_ok.mp updated
  exact .inr ⟨row, data row, found, source row, rfl⟩

/-- The marks of an earlier hold are cleared. -/
def markProcessing (id : Nat) : Action Unit :=
  commit (.disbursementStatus id .processing) (fun _ => true) fun _ w =>
    (updateDisbursement id (fun row =>
      { row with status := .processing, onHoldAt := none, onHoldAlertedAt := none }) w).map ((), ·)

/-- The second write of a settlement: however it ends, the settlement is over. -/
def closing (id : Nat) (label : Access) (f : Answer → World → Except AppError (α × World)) :
    Action α :=
  .access label (fun _ => true) fun i w =>
    let ended (w : World) : World := { w with settling := Function.update w.settling id none }
    if i.fails then (.error .unavailable, ended w)
    else match f i w with
      | .error e => (.error e, ended w)
      | .ok (a, w') => (if i.lost then .error .unavailable else .ok a, ended w')

def markSuccessful (id : Nat) : Action Unit :=
  closing id (.disbursementStatus id .successful) fun _ w =>
    (updateDisbursement id (fun row => { row with status := .successful }) w).map ((), ·)

/-- `updateMany` of a row that is not ON_HOLD, with the number of rows. -/
def holdRow (id : Nat) (failureReason : String) (now : Time) (w : World) : Bool × World :=
  match w.disbursements[id]? with
  | none => (false, w)
  | some row =>
    if row.status = .onHold then (false, w)
    else
      let held := { row with
        status := .onHold, onHoldAt := some now, failureReason := some failureReason }
      (true, { w with disbursements := w.disbursements.set id held })

theorem holdRow_marked (id : Nat) (failureReason : String) (now : Time) (w : World) :
    Marked id w (holdRow id failureReason now w).2 := by
  unfold holdRow
  split
  · exact .inl rfl
  · rename_i row found
    split
    · exact .inl rfl
    · exact .inr ⟨row, { row with
        status := .onHold, onHoldAt := some now, failureReason := some failureReason }, found, rfl, rfl⟩

def updateUnlessOnHold (id : Nat) (failureReason : String) : Action Bool :=
  closing id (.disbursementStatus id .onHold) fun i w => .ok (holdRow id failureReason i.now w)

/-- Whether this was the first transition to ON_HOLD. -/
def markOnHold (id : Nat) (failureReason : String) : Action Bool :=
  (updateUnlessOnHold id failureReason).bind fun isFirstTransition =>
  if isFirstTransition then .pure true
  else
    (query fun _ w => match w.disbursements[id]? with
      | none => .error .recordNotFound
      | some _ => .ok ()).bind fun _ => .pure false

def markOnHoldAlerted (id : Nat) : Action Unit :=
  commit (.onHoldAlerted id) (fun _ => true) fun i w =>
    (updateDisbursement id (fun row => { row with onHoldAlertedAt := some i.now }) w).map ((), ·)

end DisbursementsService

namespace OutflowsService
open DisbursementsService DisbursementProvider DisbursementRouter

/-- `outflow.create`: `provider_reference` is unique, and the disbursement has to be there. -/
def createOutflow (disbursement : Loaded) (attemptNumber : Nat) : Action Nat :=
  commit (.createOutflow disbursement.id) (fun _ => true) fun _ w =>
    let reference : OutflowReference := ⟨attemptNumber, disbursement.id⟩
    if w.outflows.any fun outflow => outflow.providerReference = reference then
      .error .uniqueViolation
    else if w.disbursements.length ≤ disbursement.id then .error .foreignKeyViolation
    else .ok (w.outflows.length, { w with outflows := w.outflows ++ [
      { disbursementId := disbursement.id
        userId := disbursement.row.userId
        attemptNumber := attemptNumber
        provider := resolveProviderName disbursement.row.disbursementRail
        providerReference := reference }] })

def updateOutflow (id : Nat) (data : Outflow → Outflow) (w : World) : Except AppError World :=
  (updateRow w.outflows id data).map fun rows => { w with outflows := rows }

theorem updateOutflow_ok {id : Nat} {data : Outflow → Outflow} {w w' : World} :
    updateOutflow id data w = .ok w' ↔ ∃ outflow, w.outflows[id]? = some outflow ∧
      w' = { w with outflows := w.outflows.set id (data outflow) } := by
  rw [updateOutflow, map_ok]
  constructor
  · rintro ⟨rows, updated, rfl⟩
    obtain ⟨outflow, found, rfl⟩ := updateRow_ok.mp updated
    exact ⟨outflow, found, rfl⟩
  · rintro ⟨outflow, found, rfl⟩
    exact ⟨_, updateRow_ok.mpr ⟨outflow, found, rfl⟩, rfl⟩

def markInitiated (outflowId : Nat) (providerTxId : String) : Action Unit :=
  commit (.outflowStatus outflowId .processing) (fun _ => true) fun i w =>
    (updateOutflow outflowId (fun outflow => { outflow with
      providerTxId := some providerTxId, status := .processing, initiatedAt := some i.now })
      w).map ((), ·)

/-- The first write of a settlement, which goes on with the disbursement if it returns. -/
def settling (tid disbursementId : Nat) (i : Answer) (w : World) : World :=
  if i.lost then w
  else { w with settling := Function.update w.settling disbursementId (some tid) }

theorem settling_claims (tid disbursementId : Nat) (i : Answer) (w : World) :
    ∃ claims, settling tid disbursementId i w = { w with settling := claims } := by
  unfold settling
  split
  · exact ⟨w.settling, rfl⟩
  · exact ⟨_, rfl⟩

def markOutflowSuccessful (tid outflowId disbursementId : Nat) (providerTxId : String) :
    Action Unit :=
  commit (.outflowStatus outflowId .successful) (fun _ => true) fun i w =>
    (updateOutflow outflowId (fun outflow => { outflow with
      status := .successful, providerTxId := some providerTxId, confirmedAt := some i.now })
      w).map fun w' => ((), settling tid disbursementId i w')

def markOutflowFailed (tid outflowId disbursementId : Nat) (failureReason : String)
    (failureCode : Option String) : Action Unit :=
  commit (.outflowStatus outflowId .failed) (fun _ => true) fun i w =>
    (updateOutflow outflowId (fun outflow => { outflow with
      status := .failed, failureReason := some failureReason
      failureCode := failureCode.orElse fun _ => outflow.failureCode })
      w).map fun w' => ((), settling tid disbursementId i w')

/-- The alert goes out on the first transition only, and its mark after it. -/
def markOnHoldAndMaybeAlert (disbursementId : Nat) (failureReason : String) : Action Unit :=
  (markOnHold disbursementId failureReason).bind fun isFirstTransition =>
  if isFirstTransition then
    (query fun _ w => .ok (findById disbursementId w)).bind fun fresh =>
    match fresh with
    | none => .pure ()
    | some _ => markOnHoldAlerted disbursementId
  else .pure ()

/-- The two reads after the writes are for the mail to the customer. -/
def handleSuccess (tid outflowId disbursementId : Nat) (providerTxId : String) : Action Unit :=
  (markOutflowSuccessful tid outflowId disbursementId providerTxId).bind fun _ =>
  (markSuccessful disbursementId).bind fun _ =>
  (query fun _ w => .ok (findById disbursementId w)).bind fun fresh =>
  match fresh with
  | none => .pure ()
  | some _ => query fun _ _ => .ok ()

def handleFailure (tid outflowId disbursementId : Nat) (failureReason : String)
    (failureCode : Option String) : Action Unit :=
  (markOutflowFailed tid outflowId disbursementId failureReason failureCode).bind fun _ =>
  markOnHoldAndMaybeAlert disbursementId failureReason

def missingProviderCode : String :=
  "Disbursement is missing provider_code (legacy row pre-dating provider_code migration) — " ++
    "cancel and re-create"

/-- The body of the `try`: the transfer, and the write that records it. -/
def initiate (disbursement : Loaded) (reference : OutflowReference) (outflowId : Nat) :
    Action Unit :=
  if disbursement.row.providerCode.all (· = "") then .throw (.failure missingProviderCode)
  else
    (initiateTransfer reference).bind fun providerTxId =>
    markInitiated outflowId providerTxId

/-- The `catch`, whatever threw. -/
def initiationFailed (tid outflowId disbursementId : Nat) (e : AppError) : Action Unit :=
  (markOutflowFailed tid outflowId disbursementId e.message none).bind fun _ =>
  markOnHoldAndMaybeAlert disbursementId e.message

def executeDispatch (tid : Nat) (disbursement : Loaded) (attemptNumber : Nat) : Action Unit :=
  (createOutflow disbursement attemptNumber).bind fun outflowId =>
  (markProcessing disbursement.id).bind fun _ =>
  (Proc.ofExcept (forRoute disbursement.row.currency disbursement.row.disbursementRail)).bind fun _ =>
  (initiate disbursement ⟨attemptNumber, disbursement.id⟩ outflowId).catching
    (initiationFailed tid outflowId disbursement.id)

def dispatch (tid disbursementId : Nat) : Action Unit :=
  (query fun _ w => .ok (findById disbursementId w)).bind fun loaded =>
  match loaded with
  | none => .throw .disbursementNotFound
  | some disbursement =>
    if disbursement.row.status.terminal then .pure ()
    else if disbursement.outflows.any fun outflow => outflow.2.status.inFlight then .pure ()
    else executeDispatch tid disbursement (disbursement.outflows.length + 1)

/-- Only the status is checked, not the outflows. -/
def retryDispatch (tid disbursementId : Nat) : Action Unit :=
  (query fun _ w => .ok (findById disbursementId w)).bind fun loaded =>
  match loaded with
  | none => .throw .disbursementNotFound
  | some disbursement =>
    if disbursement.row.status ≠ .onHold then
      .throw (.disbursementNotOnHold disbursement.row.status)
    else executeDispatch tid disbursement (disbursement.outflows.length + 1)

end OutflowsService

namespace OpsDisbursementsService
open DisbursementsService OutflowsService

/-- `findById`, or DISBURSEMENT_NOT_FOUND. -/
def loadDisbursement (disbursementId : Nat) : Action Loaded :=
  query fun _ w => match findById disbursementId w with
    | none => .error .disbursementNotFound
    | some disbursement => .ok disbursement

def auditWrite : Action Unit := commit .audit (fun _ => true) fun _ w => .ok ((), w)

def retry (tid disbursementId : Nat) : Action Unit :=
  (loadDisbursement disbursementId).bind fun _ =>
  auditWrite.bind fun _ => retryDispatch tid disbursementId

def cancelledRow (opsUserId : Nat) (reason : String) (now : Time) (row : Disbursement) :
    Disbursement :=
  { row with
    status := .cancelled
    cancelledAt := some now
    cancelledByOpsUserId := some opsUserId
    cancellationReason := some reason }

def markCancelled (disbursementId opsUserId : Nat) (reason : String) : Action Unit :=
  commit (.disbursementStatus disbursementId .cancelled) (fun _ => true) fun i w =>
    (updateDisbursement disbursementId (cancelledRow opsUserId reason i.now) w).map ((), ·)

/-- The outflows are not looked at. -/
def cancel (disbursementId opsUserId : Nat) (reason : String) : Action Unit :=
  (loadDisbursement disbursementId).bind fun existing =>
  if existing.row.status.terminal then .throw (.disbursementTerminal existing.row.status)
  else markCancelled disbursementId opsUserId reason

def abandonAttempt (tid disbursementId : Nat) (reason : String) : Action Unit :=
  (loadDisbursement disbursementId).bind fun existing =>
  if existing.row.status.terminal then .throw (.disbursementTerminal existing.row.status)
  else
    let activeOutflows := existing.outflows.filter fun outflow => outflow.2.status.inFlight
    if activeOutflows.isEmpty then .throw .disbursementNoActiveOutflow
    else
      auditWrite.bind fun _ =>
      Proc.each activeOutflows fun outflow =>
        handleFailure tid outflow.1 disbursementId reason (some "OPS_ABANDONED")

end OpsDisbursementsService

namespace PalmpayPayoutWebhook
open OutflowsService DisbursementProvider

/-- `orderId` is a text; one of another shape is no outflow's reference either. -/
structure PayoutNotification where
  orderId : OutflowReference
  orderNo : Option String
  orderStatus : Int
  message : Option String

/-- The webhook's word is not acted on: the provider is asked. -/
def handle (tid : Nat) (parsed : Option PayoutNotification) : Action HandlerOutcome :=
  match parsed with
  | none => .pure ⟨.malformed, "payout schema validation failed", none⟩
  | some payload =>
    let reference := some payload.orderId.text
    (query fun _ w => .ok (findRow w.outflows fun outflow =>
      outflow.providerReference = payload.orderId)).bind fun found =>
    match found with
    | none => .pure ⟨.ignored, "outflow not found", reference⟩
    | some outflow =>
      if !outflow.2.status.inFlight then
        .pure ⟨.ignored, "outflow already terminal (" ++ outflow.2.status.name ++ ")", reference⟩
      else
        (getTransferStatus payload.orderId).attempt.bind fun verified =>
        match verified with
        | .error _ => .pure ⟨.deferred, "status query failed", reference⟩
        | .ok verified =>
          match verified.status with
          | .successful =>
            (handleSuccess tid outflow.1 outflow.2.disbursementId
              (payload.orderNo.getD payload.orderId.text)).bind fun _ =>
            .pure ⟨.processed, "outflow → SUCCESSFUL", reference⟩
          | .failed =>
            (handleFailure tid outflow.1 outflow.2.disbursementId
              ((verified.failureReason.orElse fun _ => payload.message).getD
                "Provider reported failure")
              (some (verified.failureCode.getD (toString payload.orderStatus)))).bind fun _ =>
            .pure ⟨.processed, "outflow → FAILED", reference⟩
          | .processing => .pure ⟨.deferred, "status query says still processing", reference⟩

end PalmpayPayoutWebhook

namespace OutflowReconciler
open OutflowsService DisbursementProvider

/-- `status = 'PROCESSING' AND initiated_at < cutoff ORDER BY initiated_at ASC`. -/
def staleOutflows (now : Time) (w : World) : List (Nat × Outflow) :=
  let cutoff : Time := now - outflowProcessingStaleSec * 1000
  let rows := findRows w.outflows fun outflow =>
    outflow.status = .processing && outflow.initiatedAt.any (· < cutoff)
  rows.insertionSort fun a b => ∀ s ∈ a.2.initiatedAt, ∀ t ∈ b.2.initiatedAt, s ≤ t

def reconcileOutflow (tid : Nat) (outflow : Nat × Outflow) : Action Unit :=
  if outflow.2.provider ≠ "palmpay" then .pure ()
  else
    (getTransferStatus outflow.2.providerReference).bind fun status =>
    match status.status with
    | .successful =>
      handleSuccess tid outflow.1 outflow.2.disbursementId outflow.2.providerReference.text
    | .failed =>
      handleFailure tid outflow.1 outflow.2.disbursementId
        (status.failureReason.getD "Provider reported failed via reconciler") status.failureCode
    | .processing => .pure ()

/-- The heartbeat is written after the rows are read. A row that fails is logged and the
loop goes on; rows of the stub provider and of unknown ones are skipped. -/
def runReconcilerCycle (tid : Nat) : Action Unit :=
  (query fun i w => .ok (staleOutflows i.now w)).bind fun stale =>
  (commit .redis (fun _ => true) fun _ w => .ok ((), w)).bind fun _ =>
  Proc.each stale fun outflow => (reconcileOutflow tid outflow).catching fun _ => .pure ()

end OutflowReconciler

end Bitmonie
