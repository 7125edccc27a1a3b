import Bitmonie.CollateralWebhook
import Bitmonie.PayoutRules

/-! One completed transfer for a loan, under every interleaving of what may pay it out. No
index of the database says so: the checks stand in the callers, before the writes. -/
namespace Bitmonie.LoanPayout
open LoansService PaymentRequestsService InflowsService DisbursementsService DisbursementProvider
  OutflowsService OpsDisbursementsService BlinkWebhook PayoutRules

inductive Operation where
  | collateralWebhook (ownAccount : String) (parsed : Option BlinkWebhookPayload)
  | recreateForActiveLoan (loanId : Nat)
  | retry (disbursementId : Nat)
  | cancel (disbursementId opsUserId : Nat) (reason : String)
  | abandonAttempt (disbursementId : Nat) (reason : String)
  | payoutWebhook (parsed : Option PalmpayPayoutWebhook.PayoutNotification)
  | runReconcilerCycle
  | settleTransfer (reference : OutflowReference) (completes : Bool)

def procedure (tid : Nat) : Operation → Action Unit
  | .collateralWebhook ownAccount parsed =>
    (processVerified tid ownAccount parsed).bind fun _ => .pure ()
  | .recreateForActiveLoan loanId => (recreateForActiveLoan tid loanId).bind fun _ => .pure ()
  | .retry disbursementId => retry tid disbursementId
  | .cancel disbursementId opsUserId reason => cancel disbursementId opsUserId reason
  | .abandonAttempt disbursementId reason => abandonAttempt tid disbursementId reason
  | .payoutWebhook parsed => (PalmpayPayoutWebhook.handle tid parsed).bind fun _ => .pure ()
  | .runReconcilerCycle => OutflowReconciler.runReconcilerCycle tid
  | .settleTransfer reference completes => settleTransfer reference completes

def loanOf (w : World) (outflow : Outflow) : Option Nat :=
  (w.disbursements[outflow.disbursementId]?).map (·.sourceId)

/-- Of all outflows of a loan, the completed ones have one reference. -/
def PaidOnce (w : World) : Prop :=
  ∀ (a b : Nat) (first second : Outflow) (loanId : Nat), w.outflows[a]? = some first →
    w.outflows[b]? = some second → loanOf w first = some loanId → loanOf w second = some loanId →
    w.transfers first.providerReference = .completed →
    w.transfers second.providerReference = .completed →
    first.providerReference = second.providerReference

/-- An attempt whose transfer does not complete any more: it failed, or it was given up
before the provider was asked. -/
def Dead (outflow : Outflow) (w : World) : Prop :=
  w.transfers outflow.providerReference = .failed ∨
    (outflow.status = .failed ∧ w.transfers outflow.providerReference = .absent)

structure Payouts (w : World) : Prop where
  unique : ∀ (a b : Nat) (first second : Outflow), w.outflows[a]? = some first →
    w.outflows[b]? = some second → first.providerReference = second.providerReference → a = b
  owned : ∀ (id : Nat) (outflow : Outflow), w.outflows[id]? = some outflow →
    outflow.disbursementId < w.disbursements.length
  failed : ∀ (id : Nat) (outflow : Outflow), w.outflows[id]? = some outflow →
    outflow.status = .failed → Dead outflow w
  single : ∀ (a b : Nat) (first second : Outflow), w.outflows[a]? = some first →
    w.outflows[b]? = some second → loanOf w first = loanOf w second → a ≠ b →
    Dead first w ∨ Dead second w

theorem Dead.not_completed {outflow : Outflow} {w : World} (dead : Dead outflow w) :
    w.transfers outflow.providerReference ≠ .completed := by
  rcases dead with failed | ⟨_, absent⟩
  · simp [failed]
  · simp [absent]

theorem Payouts.paidOnce {w : World} (payouts : Payouts w) : PaidOnce w := by
  intro a b first second loanId hasA hasB loanA loanB completedA completedB
  by_cases same : a = b
  · subst same
    obtain rfl := Option.some.inj (hasA.symm.trans hasB)
    rfl
  · rcases payouts.single a b first second hasA hasB (loanA.trans loanB.symm) same with dead | dead
    · exact absurd completedA dead.not_completed
    · exact absurd completedB dead.not_completed

def allFailed (disbursementId : Nat) (w : World) : Bool :=
  w.outflows.all fun outflow =>
    loanOf w outflow ≠ (w.disbursements[disbursementId]?).map (·.sourceId) ||
      outflow.status = .failed

/-- The provider does not hold the transfer of the outflow, or it failed there. -/
def unpaid (outflowId : Nat) (w : World) : Bool :=
  (w.outflows[outflowId]?).all fun outflow =>
    w.transfers outflow.providerReference = .absent ||
      w.transfers outflow.providerReference = .failed

/-- The outflow of the reference is PENDING. -/
def pending (reference : OutflowReference) (w : World) : Bool :=
  w.outflows.all fun outflow =>
    outflow.providerReference ≠ reference || outflow.status = .pending

/-- A new attempt finds all others of its loan FAILED, an attempt is marked FAILED while the
provider does not hold its transfer as accepted or completed, and a transfer is initiated
while its attempt is PENDING. -/
def guarded : Access → Answer → World → Bool
  | .createOutflow disbursementId, i, w => i.fails || allFailed disbursementId w
  | .outflowStatus id .failed, i, w => i.fails || unpaid id w
  | .initiateTransfer reference, i, w => i.fails || pending reference w
  | _, _, _ => true

def payouts : Discipline World Answer Access where
  inv := Payouts
  allowed label i w := guarded label i w = true
  fresh _ _ := True
  rely _ := Persists
  guar _ _ _ := Persists

theorem payouts_sound : payouts.Sound where
  refl _ := Persists.refl
  trans _ _ _ _ := Persists.trans
  compatible _ _ _ _ _ _ _ _ wrote := wrote
  fresh _ _ _ _ _ := trivial

abbrev contract (tid : Nat) : Contract World Answer Access := payouts.contract tid

/-- Nothing of the records that the invariant is about changes. -/
theorem Payouts.of_eq {s t : World} (outflows : t.outflows = s.outflows)
    (disbursements : t.disbursements = s.disbursements) (transfers : t.transfers = s.transfers)
    (here : Payouts s) : Payouts t := by
  have loans (outflow : Outflow) : loanOf t outflow = loanOf s outflow := by
    rw [loanOf, disbursements, loanOf]
  have deadly (outflow : Outflow) : Dead outflow t ↔ Dead outflow s := by
    rw [Dead, transfers, Dead]
  refine ⟨?_, ?_, ?_, ?_⟩
  · simpa only [outflows] using here.unique
  · simpa only [outflows, disbursements] using here.owned
  · simpa only [outflows, deadly] using here.failed
  · simpa only [outflows, deadly, loans] using here.single

/-- The step of an outflow: what was dead stays dead. -/
theorem Payouts.set_outflow {w : World} {id : Nat} {before after : Outflow}
    (claims : Nat → Option Nat) (here : Payouts w) (found : w.outflows[id]? = some before)
    (owner : after.disbursementId = before.disbursementId)
    (reference : after.providerReference = before.providerReference)
    (known : after.status ≠ .failed → w.transfers before.providerReference ≠ .absent)
    (unpaid : after.status = .failed → w.transfers before.providerReference = .absent ∨
      w.transfers before.providerReference = .failed) :
    Payouts { w with outflows := w.outflows.set id after, settling := claims } := by
  -- Each row has a row before it, of the same loan and reference.
  have was (other : Nat) (outflow : Outflow) (present : (w.outflows.set id after)[other]? = some outflow) :
      ∃ earlier, w.outflows[other]? = some earlier ∧
        outflow.disbursementId = earlier.disbursementId ∧
        outflow.providerReference = earlier.providerReference ∧
        (Dead earlier w → Dead outflow w) := by
    rcases getElem?_set_cases present with ⟨rfl, rfl⟩ | ⟨_, old⟩
    · refine ⟨before, found, owner, reference, fun dead => ?_⟩
      rw [Dead, reference]
      rcases dead with failed | ⟨_, absent⟩
      · exact .inl failed
      · by_cases failed : outflow.status = .failed
        · exact .inr ⟨failed, absent⟩
        · exact absurd absent (known failed)
    · exact ⟨outflow, old, rfl, rfl, fun dead => dead⟩
  refine ⟨?_, ?_, ?_, ?_⟩
  · intro a b first second hasA hasB same
    obtain ⟨first', hadA, _, sameA, _⟩ := was a first hasA
    obtain ⟨second', hadB, _, sameB, _⟩ := was b second hasB
    exact here.unique a b first' second' hadA hadB (sameA.symm.trans (same.trans sameB))
  · intro other outflow present
    obtain ⟨earlier, had, same, _⟩ := was other outflow present
    exact same ▸ here.owned other earlier had
  · intro other outflow present status
    rcases getElem?_set_cases present with ⟨rfl, rfl⟩ | ⟨_, old⟩
    · rcases unpaid status with absent | failed
      · exact .inr ⟨status, reference ▸ absent⟩
      · exact .inl (reference ▸ failed)
    · exact here.failed other outflow old status
  · intro a b first second hasA hasB loans different
    obtain ⟨first', hadA, ownA, _, deadA⟩ := was a first hasA
    obtain ⟨second', hadB, ownB, _, deadB⟩ := was b second hasB
    have loans' : loanOf w first' = loanOf w second' := by
      rw [loanOf, ← ownA, loanOf, ← ownB]
      exact loans
    exact (here.single a b first' second' hadA hadB loans' different).imp deadA deadB

/-- The step of the provider's books: a transfer that moves was not one of a dead attempt. -/
theorem Payouts.book {w : World} {reference : OutflowReference} {state : TransferState}
    (here : Payouts w)
    (alive : ∀ (id : Nat) (outflow : Outflow), w.outflows[id]? = some outflow →
      Dead outflow w → outflow.providerReference ≠ reference) :
    Payouts { w with transfers := Function.update w.transfers reference state } := by
  have stays (id : Nat) (outflow : Outflow) (found : w.outflows[id]? = some outflow)
      (dead : Dead outflow w) :
      Dead outflow { w with transfers := Function.update w.transfers reference state } := by
    have other := alive id outflow found dead
    rw [Dead]
    dsimp only
    rw [Function.update_of_ne other]
    exact dead
  refine ⟨here.unique, here.owned, fun id outflow found status =>
    stays id outflow found (here.failed id outflow found status), ?_⟩
  intro a b first second hasA hasB loans different
  exact (here.single a b first second hasA hasB loans different).imp (stays a first hasA)
    (stays b second hasB)

theorem Payouts.set_disbursement {w : World} {id : Nat} {before after : Disbursement}
    (claims : Nat → Option Nat) (here : Payouts w) (found : w.disbursements[id]? = some before)
    (source : after.sourceId = before.sourceId) :
    Payouts { w with disbursements := w.disbursements.set id after, settling := claims } := by
  have loans (outflow : Outflow) : loanOf
      { w with disbursements := w.disbursements.set id after, settling := claims } outflow =
        loanOf w outflow := by
    by_cases same : id = outflow.disbursementId
    · subst same
      rw [loanOf, getElem?_set_of_eq found, loanOf, found]
      exact congrArg some source
    · rw [loanOf, List.getElem?_set_ne same, loanOf]
  refine ⟨here.unique, fun other outflow present => ?_, here.failed, ?_⟩
  · simpa using here.owned other outflow present
  · intro a b first second hasA hasB same different
    rw [loans, loans] at same
    exact here.single a b first second hasA hasB same different

theorem Payouts.create_disbursement {w : World} (row : Disbursement) (here : Payouts w) :
    Payouts { w with disbursements := w.disbursements ++ [row] } := by
  have loans (id : Nat) (outflow : Outflow) (found : w.outflows[id]? = some outflow) :
      loanOf { w with disbursements := w.disbursements ++ [row] } outflow = loanOf w outflow := by
    rw [loanOf, List.getElem?_append_left (here.owned id outflow found), loanOf]
  refine ⟨here.unique, fun other outflow present => ?_, here.failed, ?_⟩
  · have := here.owned other outflow present
    simp only [List.length_append, List.length_singleton]
    omega
  · intro a b first second hasA hasB same different
    rw [loans a first hasA, loans b second hasB] at same
    exact here.single a b first second hasA hasB same different

/-- A new attempt, when every other one of its loan is FAILED. -/
theorem Payouts.create_outflow {w : World} {created : Outflow} (here : Payouts w)
    (fresh : ∀ outflow ∈ w.outflows, outflow.providerReference ≠ created.providerReference)
    (owner : created.disbursementId < w.disbursements.length)
    (pending : created.status = .pending)
    (failed : ∀ (id : Nat) (outflow : Outflow), w.outflows[id]? = some outflow →
      loanOf w outflow = loanOf w created → outflow.status = .failed) :
    Payouts { w with outflows := w.outflows ++ [created] } := by
  refine ⟨?_, ?_, ?_, ?_⟩
  · intro a b first second hasA hasB same
    rcases row_of_concat hasA with oldA | ⟨atA, rfl⟩ <;>
      rcases row_of_concat hasB with oldB | ⟨atB, rfl⟩
    · exact here.unique a b first second oldA oldB same
    · exact absurd same (fresh first (List.mem_of_getElem? oldA))
    · exact absurd same.symm (fresh second (List.mem_of_getElem? oldB))
    · exact atA.trans atB.symm
  · intro id outflow found
    rcases row_of_concat found with old | ⟨_, rfl⟩
    · exact here.owned id outflow old
    · exact owner
  · intro id outflow found status
    rcases row_of_concat found with old | ⟨_, rfl⟩
    · exact here.failed id outflow old status
    · rw [pending] at status
      cases status
  · intro a b first second hasA hasB loans different
    rcases row_of_concat hasA with oldA | ⟨atA, rfl⟩ <;>
      rcases row_of_concat hasB with oldB | ⟨atB, rfl⟩
    · exact here.single a b first second oldA oldB loans different
    · exact .inl (here.failed a first oldA (failed a first oldA loans))
    · exact .inr (here.failed b second oldB (failed b second oldB loans.symm))
    · exact absurd (atA.trans atB.symm) different

theorem still (tid : Nat) (label : Access) (i : Answer) (w : World) :
    (contract tid).guar label i w w := Persists.refl w

/-- A statement about other rows. -/
theorem apart_keeps {tid : Nat} {label : Access} {enabled : World → Bool} {w : World}
    {f : Answer → World → Except AppError (α × World)}
    (apart : ∀ i t a t', f i t = .ok (a, t') → t'.outflows = t.outflows ∧
      t'.disbursements = t.disbursements ∧ t'.transfers = t.transfers) :
    Keeps (contract tid) (fun _ _ => True) (commit label enabled f) w := by
  apply commit_meets
  intro t _ here _ i _
  refine ⟨still tid label i t, fun _ => trivial, fun _ _ => trivial, fun a t' _ done => ?_⟩
  obtain ⟨outflows, disbursements, transfers⟩ := apart i t a t' done
  exact ⟨.of_eq outflows disbursements transfers here, .of_eq outflows transfers,
    fun _ => trivial, fun _ => trivial⟩

/-- An update of an outflow to `status`, which may claim a settlement. -/
theorem outflowWrite_keeps {tid id disbursementId : Nat} {reference : OutflowReference}
    {status : OutflowStatus} {w : World} {f : Answer → World → Except AppError (Unit × World)}
    (data : Answer → Outflow → Outflow) (here : Attempt id disbursementId reference w)
    (writes : ∀ i t t', f i t = .ok ((), t') → ∃ before claims, t.outflows[id]? = some before ∧
      t' = { t with outflows := t.outflows.set id (data i before), settling := claims })
    (same : ∀ i before, (data i before).disbursementId = before.disbursementId ∧
      (data i before).providerReference = before.providerReference ∧ (data i before).status = status)
    (known : status ≠ .failed → w.transfers reference ≠ .absent) :
    Keeps (contract tid) (fun _ _ => True) (commit (.outflowStatus id status) (fun _ => true) f) w := by
  apply commit_meets
  intro t moved payouts _ i allowed
  refine ⟨still tid _ i t, fun _ => trivial, fun _ _ => trivial, fun _ t' succeeds done => ?_⟩
  obtain ⟨before, claims, found, rfl⟩ := writes i t t' done
  obtain ⟨owner, sameReference, lands⟩ := same i before
  obtain ⟨row, present, _, rfl⟩ := here.mono moved
  obtain rfl := Option.some.inj (found.symm.trans present)
  change guarded (.outflowStatus id status) i t = true at allowed
  refine ⟨payouts.set_outflow claims found owner sameReference (fun alive => ?_) (fun failed => ?_),
    Persists.set found owner sameReference claims, fun _ => trivial, fun _ => trivial⟩
  · exact moved.transfer _ (known (lands ▸ alive))
  · obtain rfl : status = .failed := lands.symm.trans failed
    simpa [guarded, unpaid, succeeds, found] using allowed

theorem settlingWrite_keeps {tid id disbursementId : Nat} {reference : OutflowReference}
    {status : OutflowStatus} {w : World} (data : Answer → Outflow → Outflow)
    (here : Attempt id disbursementId reference w)
    (same : ∀ i before, (data i before).disbursementId = before.disbursementId ∧
      (data i before).providerReference = before.providerReference ∧ (data i before).status = status)
    (known : status ≠ .failed → w.transfers reference ≠ .absent) :
    Keeps (contract tid) (fun _ _ => True)
      (commit (.outflowStatus id status) (fun _ => true) fun i w =>
        (updateOutflow id (data i) w).map fun w' => ((), settling tid disbursementId i w')) w := by
  refine outflowWrite_keeps data here (fun i t t' done => ?_) same known
  obtain ⟨t'', updated, -, rfl⟩ := map_pair_ok.mp done
  obtain ⟨before, found, rfl⟩ := updateOutflow_ok.mp updated
  obtain ⟨claims, claimed⟩ := settling_claims tid disbursementId i
    { t with outflows := t.outflows.set id (data i before) }
  exact ⟨before, claims, found, claimed⟩

theorem disbursementWrite_keeps {tid id : Nat} {label : Access} {w : World}
    {data : Answer → Disbursement → Disbursement}
    (source : ∀ i row, (data i row).sourceId = row.sourceId) :
    Keeps (contract tid) (fun _ _ => True) (commit label (fun _ => true) fun i w =>
      (updateDisbursement id (data i) w).map ((), ·)) w := by
  apply commit_meets
  intro t _ payouts _ i _
  refine ⟨still tid _ i t, fun _ => trivial, fun _ _ => trivial, fun _ t' _ done => ?_⟩
  obtain ⟨t'', updated, -, rfl⟩ := map_pair_ok.mp done
  obtain ⟨row, found, rfl⟩ := updateDisbursement_ok.mp updated
  exact ⟨payouts.set_disbursement t.settling found (source i row), .of_eq rfl rfl,
    fun _ => trivial, fun _ => trivial⟩

theorem settlement_keeps {tid id : Nat} {label : Access} {w : World}
    {f : Answer → World → Except AppError (α × World)}
    (writes : ∀ i t a t', f i t = .ok (a, t') → Marked id t t') :
    Keeps (contract tid) (fun _ _ => True) (closing id label f) w := by
  apply closing_keeps
  intro t _ payouts i ended
  have nothing : Payouts (ended t) ∧ Persists t (ended t) :=
    ⟨Payouts.of_eq (s := t) rfl rfl rfl payouts, .of_eq rfl rfl⟩
  refine ⟨nothing, fun a t' done => ?_⟩
  rcases writes i t a t' done with rfl | ⟨before, after, found, source, rfl⟩
  · exact nothing
  · exact ⟨payouts.set_disbursement _ found source, .of_eq rfl rfl⟩

theorem createOutflow_keeps {tid attemptNumber : Nat} {disbursement : Loaded} {w : World} :
    Keeps (contract tid) (fun id => Attempt id disbursement.id ⟨attemptNumber, disbursement.id⟩)
      (createOutflow disbursement attemptNumber) w := by
  apply commit_meets
  intro t _ payouts _ i allowed
  refine ⟨still tid _ i t, fun _ => trivial, fun _ _ => trivial, fun id t' succeeds done => ?_⟩
  change guarded (.createOutflow disbursement.id) i t = true at allowed
  obtain ⟨fresh, done⟩ := unless_ok.mp done
  obtain ⟨present, done⟩ := unless_ok.mp done
  obtain ⟨rfl, rfl⟩ := Prod.mk.inj (Except.ok.inj done)
  refine ⟨payouts.create_outflow ?_ (Nat.lt_of_not_le present) rfl ?_, Persists.create t _,
    fun _ => ⟨_, List.getElem?_concat_length, rfl, rfl⟩, fun _ => trivial⟩
  · simpa using fresh
  · intro other outflow found loans
    have failed : allFailed disbursement.id t = true := by simpa [guarded, succeeds] using allowed
    have here := List.all_eq_true.mp failed outflow (List.mem_of_getElem? found)
    rw [loans] at here
    simpa [loanOf] using here

theorem initiateTransfer_keeps {tid : Nat} {reference : OutflowReference} {w : World} :
    Keeps (contract tid) (fun _ t => t.transfers reference ≠ .absent)
      (initiateTransfer reference) w := by
  rw [Keeps, initiateTransfer, Proc.meets_access]
  intro t _ payouts _ i allowed
  change guarded (.initiateTransfer reference) i t = true at allowed
  cases fails : i.fails with
  | true => exact ⟨payouts, still tid _ i t, trivial⟩
  | false =>
    simp only [Bool.false_eq_true, if_false]
    by_cases absent : t.transfers reference = .absent
    · simp only [absent, if_true]
      refine ⟨payouts.book fun id outflow found dead same => ?_,
        Persists.book t reference (by decide), ?_⟩
      · have waiting : pending reference t = true := by simpa [guarded, fails] using allowed
        have status : outflow.status = .pending := by
          simpa [same] using List.all_eq_true.mp waiting outflow (List.mem_of_getElem? found)
        rcases dead with failed | ⟨failed, _⟩
        · rw [same, absent] at failed
          cases failed
        · rw [status] at failed
          cases failed
      · cases i.lost <;> simp
    · simp only [absent, if_false]
      refine ⟨payouts, still tid _ i t, ?_⟩
      cases i.lost <;> simp [absent]

theorem settleTransfer_keeps {tid : Nat} {reference : OutflowReference} {completes : Bool}
    {w : World} :
    Keeps (contract tid) (fun _ _ => True) (settleTransfer reference completes) w := by
  rw [Keeps, DisbursementProvider.settleTransfer, Proc.meets_access]
  intro t _ payouts accepted i _
  have accepted : t.transfers reference = .accepted := of_decide_eq_true accepted
  refine ⟨payouts.book fun id outflow found dead same => ?_,
    Persists.book t reference (by cases completes <;> decide), trivial⟩
  rcases dead with failed | ⟨_, absent⟩
  · rw [same, accepted] at failed
    cases failed
  · rw [same, accepted] at absent
    cases absent

theorem payouts_rules (tid : Nat) :
    Rules tid (contract tid) (fun _ _ => True) (fun _ _ => True) fun _ _ => True where
  rely _ _ moved := moved
  own _ _ _ _ wrote := wrote
  still label i w _ := still tid label i w
  target _ _ _ _ _ := trivial
  createOutflow _ _ _ _ := createOutflow_keeps
  initiateTransfer _ _ _ _ _ := initiateTransfer_keeps
  markInitiated outflowId disbursementId reference providerTxId w here known := by
    refine outflowWrite_keeps (fun i outflow => { outflow with
        providerTxId := some providerTxId, status := .processing, initiatedAt := some i.now })
      here (fun i t t' done => ?_) (fun _ _ => ⟨rfl, rfl, rfl⟩) fun _ => known
    obtain ⟨t'', updated, -, rfl⟩ := map_pair_ok.mp done
    obtain ⟨before, found, rfl⟩ := updateOutflow_ok.mp updated
    exact ⟨before, t.settling, found, rfl⟩
  markOutflowSuccessful _ _ _ providerTxId _ here known :=
    settlingWrite_keeps (fun i outflow => { outflow with
        status := .successful, providerTxId := some providerTxId, confirmedAt := some i.now })
      here (fun _ _ => ⟨rfl, rfl, rfl⟩) fun _ => known
  markOutflowFailed _ _ _ failureReason failureCode _ here :=
    settlingWrite_keeps (fun _ outflow => { outflow with
        status := .failed, failureReason := some failureReason
        failureCode := failureCode.orElse fun _ => outflow.failureCode })
      here (fun _ _ => ⟨rfl, rfl, rfl⟩) fun alive => absurd rfl alive
  markSuccessful _ _ _ :=
    settlement_keeps fun _ _ _ _ done => updateDisbursement_marked done fun _ => rfl
  updateUnlessOnHold disbursementId failureReason _ _ := by
    refine settlement_keeps fun i t a t' done => ?_
    obtain rfl : _ = t' := congrArg Prod.snd (Except.ok.inj done)
    exact holdRow_marked disbursementId failureReason i.now t
  markOnHoldAlerted _ _ := disbursementWrite_keeps fun _ _ => rfl
  markProcessing _ _ := disbursementWrite_keeps fun _ _ => rfl
  markCancelled _ _ _ _ := disbursementWrite_keeps fun _ _ => rfl

theorem query_keeps {tid : Nat} {f : Answer → World → Except AppError α} {w : World} :
    Keeps (contract tid) (fun _ _ => True) (query f) w :=
  (payouts_rules tid).query fun _ _ _ _ _ => trivial

theorem setPending_keeps {tid : Nat} {receivingAddress : String} {entry : Option Nat} {w : World} :
    Keeps (contract tid) (fun _ _ => True) (setPending receivingAddress entry) w := by
  apply apart_keeps
  intro i t a t' done
  obtain ⟨_, rfl⟩ := Prod.mk.inj (Except.ok.inj done)
  exact ⟨rfl, rfl, rfl⟩

theorem createInflow_keeps {tid : Nat} {params : IngestInflowParams} {w : World} :
    Keeps (contract tid) (fun _ _ => True) (createInflow params) w := by
  rw [Keeps, createInflow, Proc.meets_catching]
  refine Proc.Meets.imp (apart_keeps fun i t a t' done => ?_) (fun _ _ _ => trivial) fun e t _ => ?_
  · split at done
    · cases done
    · obtain ⟨_, rfl⟩ := Prod.mk.inj (Except.ok.inj done)
      exact ⟨rfl, rfl, rfl⟩
  · split
    · exact query_keeps
    · trivial

theorem ingest_keeps {tid : Nat} {params : IngestInflowParams} {w : World} :
    Keeps (contract tid) (fun _ _ => True) (ingest params) w := by
  rw [Keeps, ingest, Proc.meets_bind]
  apply createInflow_keeps.imp _ fun _ _ h => h
  intro inflow t _
  rw [Proc.meets_bind, findPendingByReceivingAddress, Proc.meets_bind]
  apply query_keeps.imp _ fun _ _ h => h
  intro cachedId u _
  apply query_keeps.imp _ fun _ _ h => h
  intro found v _
  cases found with
  | none => trivial
  | some request =>
    simp only [Proc.meets_bind, matchInflow]
    refine Proc.Meets.imp (apart_keeps fun i t a t' done => ?_) (fun _ x _ => ?_) fun _ _ h => h
    · obtain ⟨_, wrote, -, rfl⟩ := map_pair_ok.mp done
      obtain ⟨_, _, _, _, rfl⟩ := writeMatch_ok wrote
      exact ⟨rfl, rfl, rfl⟩
    · exact setPending_keeps.imp (fun _ _ _ => trivial) fun _ _ h => h

theorem activateLoan_keeps {tid loanId : Nat} {collateralReceivedAt : Time} {w : World} :
    Keeps (contract tid) (fun _ _ => True) (activateLoan loanId collateralReceivedAt) w := by
  rw [Keeps, activateLoan, Proc.meets_bind]
  apply query_keeps.imp _ fun _ _ h => h
  intro loan t _
  split
  · trivial
  · rw [Proc.meets_bind]
    refine Proc.Meets.imp (apart_keeps fun i t a t' done => ?_) (fun _ u _ => query_keeps)
      fun _ _ h => h
    obtain ⟨w', wrote, -, rfl⟩ := map_pair_ok.mp done
    obtain ⟨loans, _, moved⟩ := bind_ok.mp wrote
    obtain ⟨_, _, rfl⟩ := LoanStatusService.transition_ok moved
    exact ⟨rfl, rfl, rfl⟩

/-- A disbursement and its dispatch. -/
theorem payOut_keeps (tid : Nat) (row : Disbursement) (w : World) :
    Keeps (contract tid) (fun _ _ => True)
      ((createForLoan row).bind fun disbursementId => dispatch tid disbursementId) w := by
  rw [Keeps, Proc.meets_bind]
  apply commit_meets
  intro t _ payouts _ i _
  refine ⟨still tid _ i t, fun _ => trivial, fun _ _ => trivial, fun id t' _ done => ?_⟩
  obtain ⟨_, rfl⟩ := Prod.mk.inj (Except.ok.inj done)
  exact ⟨payouts.create_disbursement row, .of_eq rfl rfl,
    fun _ => (payouts_rules tid).dispatch id _ trivial, fun _ => trivial⟩

theorem handleLoanCollateral_keeps {tid loanId userId : Nat} {matchedAt : Time} {w : World} :
    Keeps (contract tid) (fun _ _ => True) (handleLoanCollateral tid loanId userId matchedAt) w := by
  rw [Keeps, handleLoanCollateral, Proc.meets_bind]
  apply activateLoan_keeps.imp _ fun _ _ h => h
  intro _ t _
  rw [Proc.meets_bind]
  apply query_keeps.imp _ fun _ _ h => h
  intro paidOut u _
  cases paidOut with
  | true => trivial
  | false =>
    simp only [Bool.false_eq_true, if_false, Proc.meets_bind]
    apply query_keeps.imp _ fun _ _ h => h
    intro read v _
    rw [← Proc.meets_bind]
    exact payOut_keeps tid _ v

theorem processVerified_keeps {tid : Nat} {ownAccount : String}
    {parsed : Option BlinkWebhookPayload} {w : World} :
    Keeps (contract tid) (fun _ _ => True) (processVerified tid ownAccount parsed) w := by
  exact processVerified_meets (fun _ _ _ _ => ingest_keeps)
    fun _ _ _ _ _ _ => handleLoanCollateral_keeps

theorem recreateForActiveLoan_keeps {tid loanId : Nat} {w : World} :
    Keeps (contract tid) (fun _ _ => True) (recreateForActiveLoan tid loanId) w := by
  rw [Keeps, recreateForActiveLoan, Proc.meets_bind]
  apply query_keeps.imp _ fun _ _ h => h
  intro read t _
  rw [Proc.meets_bind]
  apply query_keeps.imp _ fun _ _ h => h
  intro _ u _
  split
  · trivial
  rename_i account _
  split
  · trivial
  rw [Proc.meets_bind]
  apply ((payouts_rules tid).audit u).imp _ fun _ _ h => h
  intro _ v _
  rw [Proc.meets_bind]
  have paid := payOut_keeps tid (disbursementRow loanId read.1 account) v
  rw [Keeps, Proc.meets_bind] at paid
  apply paid.imp _ fun _ _ h => h
  intro fresh x dispatched
  rw [Proc.meets_bind]
  exact dispatched.imp (fun _ _ _ => trivial) fun _ _ h => h

theorem procedure_keeps (tid : Nat) (op : Operation) (w : World) :
    Keeps (contract tid) (fun _ _ => True) (procedure tid op) w := by
  have rules := payouts_rules tid
  cases op with
  | collateralWebhook ownAccount parsed =>
    rw [Keeps, procedure, Proc.meets_bind]
    exact processVerified_keeps.imp (fun _ _ _ => trivial) fun _ _ h => h
  | recreateForActiveLoan loanId =>
    rw [Keeps, procedure, Proc.meets_bind]
    exact recreateForActiveLoan_keeps.imp (fun _ _ _ => trivial) fun _ _ h => h
  | retry disbursementId => exact rules.retry disbursementId w fun _ => trivial
  | cancel disbursementId opsUserId reason => exact rules.cancel disbursementId opsUserId reason w
  | abandonAttempt disbursementId reason => exact rules.abandonAttempt disbursementId reason w
  | payoutWebhook parsed =>
    rw [Keeps, procedure, Proc.meets_bind]
    exact (rules.payoutWebhook parsed w).imp (fun _ _ _ => trivial) fun _ _ h => h
  | runReconcilerCycle => exact rules.runReconcilerCycle w
  | settleTransfer reference completes => exact settleTransfer_keeps

theorem payouts_of_unpaid {w : World} (unpaid : w.outflows = []) : Payouts w := by
  have none (id : Nat) (outflow : Outflow) : w.outflows[id]? ≠ some outflow := by simp [unpaid]
  exact ⟨fun a _ first _ found => absurd found (none a first),
    fun id outflow found => absurd found (none id outflow),
    fun id outflow found => absurd found (none id outflow),
    fun a _ first _ found => absurd found (none a first)⟩

/-- In a run whose attempts are guarded, no loan is paid out twice. -/
theorem loan_paid_out_once {w₀ : World} {trace : List (Nat × Event World Answer Access)}
    {c : Config World Answer Access AppError Unit} (unpaid : w₀.outflows = [])
    (run : Runs procedure w₀ trace c)
    (attempts : ∀ e ∈ trace, guarded e.2.label e.2.answer e.2.before = true) :
    PaidOnce c.shared := by
  have held := run.holds payouts_sound (fun _ _ _ _ _ _ => trivial) (fun _ _ _ _ _ _ => trivial)
    (payouts_of_unpaid unpaid) (fun _ => trivial) (fun tid op w _ _ => procedure_keeps tid op w)
    attempts
  exact held.inv.paidOnce

def awaitingLoan : Loan where
  userId := 0
  disbursementAccountId := 0
  collateralAmountSat := 250000
  principalNgn := 100000
  satNgnRateAtCreation := 3 / 5

def bankAccount : DisbursementAccount where
  userId := 0
  kind := .bank
  providerName := "GTBank"
  providerCode := "058"
  accountUnique := "0123456789"
  accountHolderName := none
  isDefault := true
  status := .verified

def collateralRequest : PaymentRequest where
  userId := 0
  sourceType := .loan
  sourceId := 0
  expectedAmount := 250000
  receivingAddress := "hash"
  paymentRequest := "lnbc"
  providerReference := "hash"
  expiresAt := 1800000

def awaiting : World where
  loans := [awaitingLoan]
  disbursementAccounts := [bankAccount]
  paymentRequests := [collateralRequest]

def collateralPaid : BlinkWebhookPayload where
  accountId := "own"
  eventType := "receive.lightning"
  paymentHash := some "hash"
  txHash := none
  settlementAmount := 250000

def delivery : Operation := .collateralWebhook "own" (some collateralPaid)

/-- A first transfer that the provider fails, a cancellation, and a second disbursement
whose transfer completes. -/
def cancelledThenRecreated : List (Choice Operation Answer) :=
  [.start delivery] ++ List.replicate 16 (.run 0 {}) ++
  [.start (.settleTransfer ⟨1, 0⟩ false), .run 1 {},
    .start (.payoutWebhook (some ⟨⟨1, 0⟩, some "tx", 3, none⟩))] ++ List.replicate 6 (.run 2 {}) ++
  [.start (.cancel 0 7 "wrong account"), .run 3 {}, .run 3 {}, .start (.recreateForActiveLoan 0)] ++
  List.replicate 9 (.run 4 {}) ++
  [.start (.settleTransfer ⟨1, 1⟩ true), .run 5 {}]

theorem loan_paid_out_once_recreated : ∃ trace c, Runs procedure awaiting trace c ∧
    c.shared.disbursements.map (·.status) = [.cancelled, .processing] ∧
    c.shared.outflows.map (fun outflow => c.shared.transfers outflow.providerReference) =
      [.failed, .completed] ∧ PaidOnce c.shared := by
  have played := exists_run procedure awaiting cancelledThenRecreated
    (fun trace c => decide (c.shared.disbursements.map (·.status) = [.cancelled, .processing] ∧
      c.shared.outflows.map (fun outflow => c.shared.transfers outflow.providerReference) =
        [.failed, .completed] ∧
      ∀ e ∈ trace, guarded e.2.label e.2.answer e.2.before = true)) (by decide +kernel)
  obtain ⟨trace, c, run, checked⟩ := played
  obtain ⟨rows, transfers, attempts⟩ := of_decide_eq_true checked
  exact ⟨trace, c, run, rows, transfers, loan_paid_out_once rfl run attempts⟩

/-- The webhook is delivered twice, and both deliveries look for a disbursement before one of
them creates it. -/
def deliveredTwice : List (Choice Operation Answer) :=
  [.start delivery, .start delivery] ++
  List.replicate 3 (.run 0 {}) ++ List.replicate 4 (.run 1 {}) ++
  List.replicate 5 (.run 0 {}) ++ List.replicate 3 (.run 1 {}) ++
  [.run 0 {}, .run 1 {}] ++ List.replicate 7 (.run 0 {}) ++ List.replicate 7 (.run 1 {}) ++
  [.start (.settleTransfer ⟨1, 0⟩ true), .run 2 {}, .start (.settleTransfer ⟨1, 1⟩ true), .run 3 {}]

theorem loan_paid_out_twice : ∃ trace c, Runs procedure awaiting trace c ∧ ¬ PaidOnce c.shared := by
  have played := exists_run procedure awaiting deliveredTwice
    (fun _ c => decide (c.shared.outflows.map (fun outflow => (loanOf c.shared outflow,
      c.shared.transfers outflow.providerReference, outflow.providerReference)) =
        [(some 0, .completed, ⟨1, 0⟩), (some 0, .completed, ⟨1, 1⟩)])) (by decide +kernel)
  obtain ⟨trace, c, run, checked⟩ := played
  refine ⟨trace, c, run, fun once => ?_⟩
  obtain ⟨first, rest, rows, paidA, others⟩ := List.map_eq_cons_iff.mp (of_decide_eq_true checked)
  obtain ⟨second, _, rfl, paidB, _⟩ := List.map_eq_cons_iff.mp others
  obtain ⟨loanA, completedA, referenceA⟩ : loanOf c.shared first = some 0 ∧
      c.shared.transfers first.providerReference = .completed ∧
      first.providerReference = ⟨1, 0⟩ := by simpa using paidA
  obtain ⟨loanB, completedB, referenceB⟩ : loanOf c.shared second = some 0 ∧
      c.shared.transfers second.providerReference = .completed ∧
      second.providerReference = ⟨1, 1⟩ := by simpa using paidB
  have same := once 0 1 first second 0 (by simp [rows]) (by simp [rows]) loanA loanB completedA
    completedB
  rw [referenceA, referenceB] at same
  cases same

end Bitmonie.LoanPayout
