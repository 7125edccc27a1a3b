import Bitmonie.CollateralWebhook

/-! Redeliveries of a collateral webhook whose processing stopped at some access. Once the
match is committed the request is no longer pending, so a redelivery finds nothing to do:
what the first delivery had not done yet stays undone. -/
namespace Bitmonie.CollateralRedelivery
open LoanStatusService LoansService PaymentRequestsService InflowsService DisbursementsService
  DisbursementProvider OutflowsService BlinkWebhook

structure Collateral where
  paymentHash : String
  amount : ℚ
  requestId : Nat
  request : PaymentRequest
  loan : Loan
  account : DisbursementAccount

/-- The loan waits for the payment, and nothing of it is stored. A payment hash belongs to
one invoice; ids that are stored refer to rows. -/
structure Awaiting (c : Collateral) (w : World) : Prop where
  requested : w.paymentRequests[c.requestId]? = some c.request
  pending : c.request.status = .pending
  source : c.request.sourceType = .loan
  address : c.request.receivingAddress = c.paymentHash
  alone : ∀ id request, w.paymentRequests[id]? = some request →
    request.receivingAddress = c.paymentHash → id = c.requestId
  cached : ∀ id, w.pendingRequest c.paymentHash = some id → id = c.requestId
  new : ∀ inflow ∈ w.inflows, inflow.providerReference ≠ c.paymentHash
  paidBy : ∀ request ∈ w.paymentRequests, ∀ id, request.inflowId = some id → id < w.inflows.length
  loan : w.loans[c.request.sourceId]? = some c.loan
  owner : c.loan.userId = c.request.userId
  waiting : c.loan.status = .pendingCollateral
  free : w.rowLock c.request.sourceId = none
  account : w.disbursementAccounts[c.loan.disbursementAccountId]? = some c.account
  coded : c.account.providerCode ≠ ""
  undisbursed : ∀ row ∈ w.disbursements, row.sourceId ≠ c.request.sourceId
  attempts : ∀ outflow ∈ w.outflows, outflow.disbursementId < w.disbursements.length ∧
    outflow.providerReference.disbursementId < w.disbursements.length
  untransferred : w.transfers ⟨1, w.disbursements.length⟩ = .absent

structure Pays (c : Collateral) (ownAccount : String) (payload : BlinkWebhookPayload) : Prop where
  own : payload.accountId = ownAccount
  receives : payload.eventType.startsWith "receive." = true
  hash : (payload.paymentHash.orElse fun _ => payload.txHash) = some c.paymentHash
  named : c.paymentHash ≠ ""
  amount : payload.settlementAmount = c.amount

theorem Pays.processVerified {c : Collateral} {ownAccount : String} {payload : BlinkWebhookPayload}
    (pays : Pays c ownAccount payload) (tid : Nat) :
    processVerified tid ownAccount (some payload) =
      (ingest ⟨c.amount, c.paymentHash, c.paymentHash⟩).bind fun ingested =>
      match ingested.2 with
      | none => .pure ⟨.ignored, "inflow unmatched (no payment_request)", some c.paymentHash⟩
      | some (request, now) =>
        match request.sourceType with
        | .loan =>
          (handleLoanCollateral tid request.sourceId request.userId
            (ingested.1.matchedAt.getD now)).bind fun _ =>
          .pure ⟨.processed, "loan " ++ toString request.sourceId ++ " activated",
            some c.paymentHash⟩
        | .loanRepayment =>
          .pure ⟨.ignored, "source_type LOAN_REPAYMENT not handled", some c.paymentHash⟩ := by
  simp only [BlinkWebhook.processVerified]
  rw [if_neg (not_not.mpr pays.own), if_neg (by simp [pays.receives]), pays.hash, pays.amount]
  split
  · rename_i missing
    cases missing
  · rename_i missing
    exact absurd (Option.some.inj missing) pays.named
  · rename_i paymentHash _ named
    obtain rfl := Option.some.inj named
    rfl

/-- The instants of a delivery, and the provider's id of its transfer. -/
structure Stamps where
  createdAt : Time
  paidAt : Time
  receivedAt : Time
  initiatedAt : Time
  providerTxId : String

section Stages
variable (c : Collateral) (m : Stamps) (w : World)

def inflowRow : Inflow := ingestedRow ⟨c.amount, c.paymentHash, c.paymentHash⟩ m.createdAt

def ingested : World := { w with inflows := w.inflows ++ [inflowRow c m] }

def paid : World :=
  { w with
    inflows := w.inflows ++ [PaymentRequestsService.matchedInflow c.request m.paidAt (inflowRow c m)]
    paymentRequests :=
      w.paymentRequests.set c.requestId (paidRequest w.inflows.length m.paidAt c.request) }

def uncached : World :=
  { paid c m w with
    pendingRequest := Function.update w.pendingRequest c.request.receivingAddress none }

def activeLoan : Loan := { c.loan with collateralReceivedAt := some m.receivedAt, status := .active }

def activated : World :=
  { uncached c m w with
    loans := w.loans.set c.request.sourceId (activeLoan c m)
    statusLogs := w.statusLogs ++ [(activateTransition c.request.sourceId c.loan).log] }

def payoutRow : Disbursement := disbursementRow c.request.sourceId c.loan c.account

def disbursed : World := { activated c m w with disbursements := w.disbursements ++ [payoutRow c] }

def reference : OutflowReference := ⟨1, w.disbursements.length⟩

def outflowRow : Outflow where
  disbursementId := w.disbursements.length
  userId := c.loan.userId
  attemptNumber := 1
  provider := "palmpay"
  providerReference := reference w

def attempted : World := { disbursed c m w with outflows := w.outflows ++ [outflowRow c w] }

def processing : World :=
  { attempted c m w with
    disbursements := w.disbursements ++ [{ payoutRow c with status := .processing }] }

def accepted : World :=
  { processing c m w with transfers := Function.update w.transfers (reference w) .accepted }

/-- An uninterrupted delivery: the loan is ACTIVE, the inflow matched, and the one
disbursement has one outflow, which the provider took. -/
def delivered : World :=
  { accepted c m w with
    outflows := w.outflows ++ [{ outflowRow c w with
      providerTxId := some m.providerTxId, status := .processing, initiatedAt := some m.initiatedAt }] }

end Stages

/-- The inflow is stored, and no pending request can be found for it. -/
structure Closed (paymentHash : String) (w : World) : Prop where
  stored : ∃ inflow ∈ w.inflows, inflow.providerReference = paymentHash
  settled : ∀ id request, w.paymentRequests[id]? = some request →
    request.receivingAddress = paymentHash ∨ w.pendingRequest paymentHash = some id →
    request.status ≠ .pending

inductive Phase where
  | early | halfway | complete
  deriving DecidableEq, Repr

def Phase.next : Phase → Access → Phase
  | _, .matchInflow _ _ => .halfway
  | _, .outflowStatus _ .processing => .complete
  | phase, _ => phase

def phaseAfter (trace : List (Event World Answer Access)) : Phase :=
  trace.foldl (fun phase e => phase.next e.label) .early

def InPhase (c : Collateral) (w : World) : Phase → World → Prop
  | .early, s => s = w ∨ ∃ m, s = ingested c m w
  | .halfway, s => Closed c.paymentHash s ∧
      ∀ outflow ∈ s.outflows, outflow.disbursementId = w.disbursements.length →
        outflow.status = .pending
  | .complete, s => ∃ m, s = delivered c m w

section Phases
variable {c : Collateral} {m : Stamps} {w s t : World}

theorem Closed.of_same {paymentHash : String} (closed : Closed paymentHash s)
    (inflows : t.inflows = s.inflows) (requests : t.paymentRequests = s.paymentRequests)
    (cached : ∀ id, t.pendingRequest paymentHash = some id → s.pendingRequest paymentHash = some id) :
    Closed paymentHash t where
  stored := inflows ▸ closed.stored
  settled id request found := fun reached => by
    rw [requests] at found
    exact closed.settled id request found (reached.imp_right (cached id))

theorem Awaiting.closed (awaiting : Awaiting c w) (m : Stamps) : Closed c.paymentHash (paid c m w) where
  stored := ⟨_, List.mem_append_right _ (List.mem_singleton.mpr rfl), rfl⟩
  settled id request found := fun reached => by
    have named : id = c.requestId := by
      by_cases same : c.requestId = id
      · exact same.symm
      · have old : w.paymentRequests[id]? = some request :=
          (List.getElem?_set_ne same).symm.trans found
        exact reached.elim (awaiting.alone id request old) (awaiting.cached id)
    subst named
    have row : (paid c m w).paymentRequests[c.requestId]? =
        some (paidRequest w.inflows.length m.paidAt c.request) :=
      getElem?_set_of_eq awaiting.requested
    obtain rfl := Option.some.inj (found.symm.trans row)
    simp [paidRequest]

/-- The later accesses touch neither the inflow nor the request. -/
theorem Awaiting.closed_delivered (awaiting : Awaiting c w) (m : Stamps) :
    Closed c.paymentHash (delivered c m w) :=
  (awaiting.closed m).of_same rfl rfl fun id cached => by
    have cleared : (delivered c m w).pendingRequest c.paymentHash = none := by
      simp [delivered, accepted, processing, attempted, disbursed, activated, uncached,
        awaiting.address]
    cases cleared.symm.trans cached

theorem Awaiting.not_closed (awaiting : Awaiting c w) (early : InPhase c w .early s) :
    ¬ Closed c.paymentHash s := by
  intro closed
  have same : s.paymentRequests = w.paymentRequests := by
    rcases early with rfl | ⟨m, rfl⟩ <;> rfl
  exact closed.settled c.requestId c.request (same ▸ awaiting.requested) (.inl awaiting.address)
    awaiting.pending

theorem delivered_outflow (c : Collateral) (m : Stamps) (w : World) :
    ∃ outflow ∈ (delivered c m w).outflows, outflow.disbursementId = w.disbursements.length ∧
      outflow.status = .processing :=
  ⟨_, List.mem_append_right _ (List.mem_singleton.mpr rfl), rfl, rfl⟩

theorem Awaiting.closed_of_phase (awaiting : Awaiting c w) {phase : Phase}
    (here : InPhase c w phase s) (begun : phase ≠ .early) : Closed c.paymentHash s := by
  cases phase with
  | early => exact absurd rfl begun
  | halfway => exact here.1
  | complete =>
    obtain ⟨m, rfl⟩ := here
    exact awaiting.closed_delivered m

theorem not_halfway_of_complete (complete : InPhase c w .complete s) : ¬ InPhase c w .halfway s := by
  rintro ⟨_, undispatched⟩
  obtain ⟨m, rfl⟩ := complete
  obtain ⟨outflow, member, own, status⟩ := delivered_outflow c m w
  cases status.symm.trans (undispatched outflow member own)

/-- A state is in one phase only. -/
theorem Awaiting.phase_unique (awaiting : Awaiting c w) {phase other : Phase}
    (here : InPhase c w phase s) (there : InPhase c w other s) : phase = other := by
  by_cases early : phase = .early
  · by_cases early' : other = .early
    · exact early.trans early'.symm
    · exact absurd (awaiting.closed_of_phase there early') (awaiting.not_closed (early ▸ here))
  · by_cases early' : other = .early
    · exact absurd (awaiting.closed_of_phase here early) (awaiting.not_closed (early' ▸ there))
    · cases phase <;> cases other <;> first
        | rfl
        | contradiction
        | exact absurd here (not_halfway_of_complete there)
        | exact absurd there (not_halfway_of_complete here)

end Phases

/-- No fault: nothing fails, and no answer is lost. A read whose answer counts as lost is
that of a cached key whose time has run out. -/
def Faultless (label : Access) (i : Answer) : Prop :=
  i.fails = false ∧ (label ≠ .read → i.lost = false)

/-- Each access of a delivery without faults moves the phase as its label says. -/
def delivery (c : Collateral) (w : World) : Lone World Answer Access where
  allowed label i _ := Faultless label i
  guar label _ s t := ∃ phase, InPhase c w phase s ∧ InPhase c w (phase.next label) t

theorem phase_reached {c : Collateral} {w s t : World} {p rest : Action α}
    {trace : List (Event World Answer Access)} {phase : Phase} (awaiting : Awaiting c w)
    (reached : p.Reaches s trace rest t) (here : InPhase c w phase s)
    (steps : ∀ e ∈ trace, (delivery c w).guar e.label e.answer e.before e.after) :
    InPhase c w (trace.foldl (fun phase e => phase.next e.label) phase) t := by
  induction reached generalizing phase with
  | stop => exact here
  | access ran reached ih =>
    obtain ⟨⟨before, found, after⟩, later⟩ := List.forall_mem_cons.mp steps
    obtain rfl := awaiting.phase_unique found here
    exact ih after later

section Steps
variable {c : Collateral} {w s : World} {post : α → World → Prop} {err : AppError → World → Prop}

theorem query_delivers {f : Answer → World → Except AppError α} {phase : Phase}
    (here : InPhase c w phase s)
    (ended : ∀ i, Faultless .read i → Proc.outcome post err (f i s, s)) :
    (query f).Achieves (delivery c w) post err s :=
  query_achieves fun i allowed => ⟨allowed.1, ⟨phase, here, here⟩, ended i allowed⟩

theorem commit_delivers {label : Access} {enabled : World → Bool}
    {f : Answer → World → Except AppError (α × World)} {phase : Phase} (writing : label ≠ .read)
    (ready : enabled s = true) (here : InPhase c w phase s)
    (writes : ∀ i, ∃ a t, f i s = .ok (a, t) ∧ InPhase c w (phase.next label) t ∧ post a t) :
    (commit label enabled f).Achieves (delivery c w) post err s := by
  refine commit_achieves ready fun i allowed => ⟨allowed.1, allowed.2 writing, ?_⟩
  obtain ⟨a, t, wrote, after, ended⟩ := writes i
  exact ⟨a, t, wrote, ⟨phase, here, after⟩, ended⟩

/-- A state past the match that has no outflow of the new disbursement, or the one that is
not initiated yet. -/
theorem Awaiting.halfway (awaiting : Awaiting c w) {m : Stamps} {t : World}
    (inflows : t.inflows = (paid c m w).inflows)
    (requests : t.paymentRequests = (paid c m w).paymentRequests)
    (cached : ∀ id, t.pendingRequest c.paymentHash = some id →
      w.pendingRequest c.paymentHash = some id)
    (outflows : t.outflows = w.outflows ∨ t.outflows = w.outflows ++ [outflowRow c w]) :
    InPhase c w .halfway t := by
  refine ⟨(awaiting.closed m).of_same inflows requests cached, fun outflow member own => ?_⟩
  have old (member : outflow ∈ w.outflows) : outflow.status = .pending :=
    absurd own (Nat.ne_of_lt (awaiting.attempts outflow member).1)
  rcases outflows with same | one
  · exact old (same ▸ member)
  · rcases List.mem_append.mp (one ▸ member) with before | new
    · exact old before
    · rw [List.mem_singleton.mp new]
      rfl

theorem Awaiting.cleared (awaiting : Awaiting c w) (m : Stamps) (id : Nat)
    (cached : (uncached c m w).pendingRequest c.paymentHash = some id) :
    w.pendingRequest c.paymentHash = some id := by
  simp [uncached, awaiting.address] at cached

theorem createInflow_delivers (awaiting : Awaiting c w) (here : InPhase c w .early s) :
    (createInflow ⟨c.amount, c.paymentHash, c.paymentHash⟩).Achieves (delivery c w)
      (fun row t => ∃ m, t = ingested c m w ∧ row = (w.inflows.length, inflowRow c m))
      (fun _ _ => False) s := by
  have early := here
  rw [createInflow, Proc.achieves_catching]
  rcases here with same | ⟨m, rfl⟩
  · rw [same] at early ⊢
    refine commit_delivers (by simp) rfl early fun i => ?_
    have new : (w.inflows.any fun inflow => inflow.providerReference = c.paymentHash) = false := by
      simpa using awaiting.new
    let m : Stamps := ⟨i.now, 0, 0, 0, ""⟩
    refine ⟨_, ingested c m w, ?_, .inr ⟨m, rfl⟩, m, rfl, rfl⟩
    simp only [new, Bool.false_eq_true, if_false]
    rfl
  · refine commit_achieves_refused .uniqueViolation rfl fun i allowed =>
      ⟨allowed.1, ?_, ⟨.early, early, early⟩, ?_⟩
    · simp [ingested, inflowRow, ingestedRow]
    · rw [if_pos rfl]
      refine query_delivers early fun i _ => ?_
      have others : (findRow w.inflows fun inflow => inflow.providerReference = c.paymentHash) =
          none := findRow_none.mpr fun inflow member => decide_eq_false (awaiting.new inflow member)
      have found : InflowsService.findInflow c.paymentHash (ingested c m w) =
          .ok (w.inflows.length, inflowRow c m) := by
        simp only [InflowsService.findInflow, ingested]
        rw [findRow_concat others (decide_eq_true rfl)]
      rw [found]
      exact ⟨m, rfl, rfl⟩

theorem findPending_delivers (awaiting : Awaiting c w) (m : Stamps) :
    (findPendingByReceivingAddress c.paymentHash).Achieves (delivery c w)
      (fun found t => t = ingested c m w ∧ found = some (c.requestId, c.request))
      (fun _ _ => False) (ingested c m w) := by
  have early : InPhase c w .early (ingested c m w) := .inr ⟨m, rfl⟩
  rw [findPendingByReceivingAddress, cachedRequest, Proc.achieves_bind]
  refine query_delivers early fun i _ => ?_
  rw [Proc.outcome_ok]
  refine query_delivers early fun j _ => ?_
  rw [Proc.outcome_ok]
  refine ⟨rfl, ?_⟩
  have byAddress : (findRow w.paymentRequests fun request =>
      request.receivingAddress = c.paymentHash && request.status = .pending) =
      some (c.requestId, c.request) := by
    refine findRow_unique awaiting.requested ?_ fun id request found holds => ?_
    · simp [awaiting.address, awaiting.pending]
    · exact awaiting.alone id request found (by simp at holds; exact holds.1)
  cases lost : i.lost with
  | true => exact byAddress
  | false =>
    cases cached : (ingested c m w).pendingRequest c.paymentHash with
    | none =>
      simp only [Bool.false_eq_true, if_false]
      exact byAddress
    | some id =>
      obtain rfl := awaiting.cached id cached
      simp [ingested, awaiting.requested, awaiting.pending]

theorem matchInflow_delivers (awaiting : Awaiting c w) (m : Stamps) :
    (matchInflow c.requestId c.request w.inflows.length).Achieves (delivery c w)
      (fun _ t => ∃ m, t = uncached c m w) (fun _ _ => False) (ingested c m w) := by
  have early : InPhase c w .early (ingested c m w) := .inr ⟨m, rfl⟩
  rw [matchInflow, Proc.achieves_bind]
  refine commit_delivers (by simp) rfl early fun i => ?_
  let n : Stamps := { m with paidAt := i.now }
  have matched : writeMatch c.requestId c.request w.inflows.length i.now (ingested c m w) =
      .ok (paid c n w) := by
    have unused : ((ingested c m w).paymentRequests.zipIdx.any fun row =>
        row.2 ≠ c.requestId && row.1.inflowId = some w.inflows.length) = false := by
      rw [List.any_eq_false]
      intro row member
      have bound := awaiting.paidBy row.1 (List.mem_of_getElem? (List.mem_zipIdx_iff_getElem?.mp member))
      simp only [Bool.and_eq_true, decide_eq_true_eq, not_and]
      exact fun _ same => absurd (bound _ same) (Nat.lt_irrefl _)
    rw [writeMatch, if_neg (by rw [unused]; exact Bool.false_ne_true)]
    simp [updateRow, ingested, awaiting.requested, paid, n]
    rfl
  have halfway : InPhase c w .halfway (paid c n w) :=
    awaiting.halfway (m := n) rfl rfl (fun _ cached => cached) (.inl rfl)
  refine ⟨(), paid c n w, by rw [matched]; rfl, halfway, ?_⟩
  refine commit_delivers (by simp) rfl halfway fun j => ?_
  refine ⟨_, uncached c n w, rfl, ?_, n, rfl⟩
  exact awaiting.halfway (m := n) rfl rfl (awaiting.cleared n) (.inl rfl)

theorem activateLoan_delivers (awaiting : Awaiting c w) (m : Stamps) (receivedAt : Time) :
    (activateLoan c.request.sourceId receivedAt).Achieves (delivery c w)
      (fun _ t => ∃ m, t = activated c m w) (fun _ _ => False) (uncached c m w) := by
  have halfway : InPhase c w .halfway (uncached c m w) :=
    awaiting.halfway (m := m) rfl rfl (awaiting.cleared m) (.inl rfl)
  let n : Stamps := { m with receivedAt := receivedAt }
  have activates : writeActivation c.request.sourceId c.loan receivedAt (uncached c m w) =
      .ok (activated c n w) := by
    let received : Loan := { c.loan with collateralReceivedAt := some receivedAt }
    have stamped : (w.loans.set c.request.sourceId received)[c.request.sourceId]? = some received :=
      getElem?_set_of_eq awaiting.loan
    have moves := @updateStatus_move (activateTransition c.request.sourceId c.loan)
      (w.loans.set c.request.sourceId received) .pendingCollateral
      (congrArg some awaiting.waiting) (by simp [activateTransition])
      (by simp [activateTransition, validTransitions])
    refine bind_ok.mpr ⟨w.loans.set c.request.sourceId received,
      updateRow_ok.mpr ⟨c.loan, awaiting.loan, rfl⟩, bind_ok.mpr ⟨_, moves.trans
        (updateRow_ok.mpr ⟨received, stamped, rfl⟩), ?_⟩⟩
    simp [activateTransition, activated, activeLoan, received, n]
    rfl
  rw [activateLoan, Proc.achieves_bind]
  refine query_delivers halfway fun i _ => ?_
  have found : findUniqueOrThrow (uncached c m w).loans c.request.sourceId = .ok c.loan := by
    simp [findUniqueOrThrow, uncached, paid, awaiting.loan]
  rw [found, Proc.outcome_ok, if_neg (not_not.mpr awaiting.waiting), Proc.achieves_bind]
  refine commit_delivers (by simp) ?_ halfway fun i => ?_
  · simp [loanFree, uncached, paid, awaiting.free]
  · have after : InPhase c w .halfway (activated c n w) :=
      awaiting.halfway (m := n) rfl rfl (awaiting.cleared n) (.inl rfl)
    refine ⟨(), activated c n w, by rw [activates]; rfl, after, ?_⟩
    exact query_delivers after fun j _ => ⟨n, rfl⟩

def loaded (c : Collateral) (w : World) : Loaded := ⟨w.disbursements.length, payoutRow c, []⟩

theorem Awaiting.loaded (awaiting : Awaiting c w) (m : Stamps) :
    findById w.disbursements.length (disbursed c m w) = some (loaded c w) := by
  have row : (disbursed c m w).disbursements[w.disbursements.length]? = some (payoutRow c) := by
    simp [disbursed]
  have none : outflowsOf w.disbursements.length (disbursed c m w) = [] := by
    refine List.eq_nil_iff_forall_not_mem.mpr fun outflow member => ?_
    obtain ⟨found, own⟩ := mem_findRows.mp member
    exact absurd (of_decide_eq_true own)
      (Nat.ne_of_lt (awaiting.attempts outflow.2 (List.mem_of_getElem? found)).1)
  rw [findById, row, none]
  rfl

theorem initiate_delivers (awaiting : Awaiting c w) (m : Stamps) :
    (initiate (loaded c w) (reference w) w.outflows.length).Achieves (delivery c w)
      (fun _ => InPhase c w .complete) err (processing c m w) := by
  have halfway : InPhase c w .halfway (processing c m w) :=
    awaiting.halfway (m := m) rfl rfl (awaiting.cleared m) (.inr rfl)
  have sent : InPhase c w .halfway (accepted c m w) :=
    awaiting.halfway (m := m) rfl rfl (awaiting.cleared m) (.inr rfl)
  have coded : ¬ ((loaded c w).row.providerCode.all (· = "")) = true := by
    simp [loaded, payoutRow, disbursementRow, awaiting.coded]
  rw [initiate, if_neg coded, Proc.achieves_bind]
  refine Proc.achieves_access rfl fun i allowed => ?_
  have absent : (processing c m w).transfers (reference w) = .absent := awaiting.untransferred
  simp only [allowed.1, allowed.2 (by simp), absent, Bool.false_eq_true, if_false, if_true]
  refine ⟨⟨.halfway, halfway, sent⟩, ?_⟩
  rw [Proc.outcome_ok]
  refine commit_delivers (by simp) rfl sent fun j => ?_
  let n : Stamps := { m with providerTxId := i.text, initiatedAt := j.now }
  have row : (accepted c m w).outflows[w.outflows.length]? = some (outflowRow c w) := by
    simp [accepted, processing, attempted]
  have recorded : InPhase c w .complete (delivered c n w) := ⟨n, rfl⟩
  refine ⟨(), delivered c n w, ?_, recorded, recorded⟩
  rw [map_ok]
  refine ⟨delivered c n w, updateOutflow_ok.mpr ⟨_, row, ?_⟩, rfl⟩
  exact congrArg (fun outflows => { accepted c m w with outflows := outflows })
    (set_concat w.outflows (outflowRow c w) _).symm

theorem executeDispatch_delivers (awaiting : Awaiting c w) (m : Stamps) (tid : Nat) :
    (executeDispatch tid (loaded c w) 1).Achieves (delivery c w)
      (fun _ => InPhase c w .complete) (fun _ _ => False) (disbursed c m w) := by
  have halfway : InPhase c w .halfway (disbursed c m w) :=
    awaiting.halfway (m := m) rfl rfl (awaiting.cleared m) (.inl rfl)
  have begun : InPhase c w .halfway (attempted c m w) :=
    awaiting.halfway (m := m) rfl rfl (awaiting.cleared m) (.inr rfl)
  have marked : InPhase c w .halfway (processing c m w) :=
    awaiting.halfway (m := m) rfl rfl (awaiting.cleared m) (.inr rfl)
  have unused : ¬ ((disbursed c m w).outflows.any fun outflow =>
      outflow.providerReference = ⟨1, (loaded c w).id⟩) = true := by
    rw [List.any_eq_true]
    rintro ⟨outflow, member, same⟩
    have older := (awaiting.attempts outflow member).2
    rw [of_decide_eq_true same] at older
    exact absurd older (Nat.lt_irrefl _)
  have stored : ¬ (disbursed c m w).disbursements.length ≤ (loaded c w).id := by
    simp [disbursed, loaded]
  have row : (attempted c m w).disbursements[(loaded c w).id]? = some (payoutRow c) := by
    simp [attempted, disbursed, loaded]
  have route : DisbursementRouter.forRoute (loaded c w).row.currency
    (loaded c w).row.disbursementRail = .ok "palmpay" := rfl
  rw [executeDispatch, createOutflow, Proc.achieves_bind]
  refine commit_delivers (by simp) rfl halfway fun i => ?_
  refine ⟨w.outflows.length, attempted c m w, ?_, begun, ?_⟩
  · dsimp only
    rw [if_neg unused, if_neg stored]
    rfl
  rw [markProcessing, Proc.achieves_bind]
  refine commit_delivers (by simp) rfl begun fun j => ?_
  refine ⟨(), processing c m w, ?_, marked, ?_⟩
  · rw [map_ok]
    refine ⟨processing c m w, updateDisbursement_ok.mpr ⟨_, row, ?_⟩, rfl⟩
    exact congrArg (fun disbursements => { attempted c m w with disbursements := disbursements })
      (set_concat w.disbursements (payoutRow c) _).symm
  rw [route, Proc.ofExcept, Proc.pure_bind, Proc.achieves_catching]
  exact initiate_delivers awaiting m

theorem dispatch_delivers (awaiting : Awaiting c w) (m : Stamps) (tid : Nat) :
    (dispatch tid w.disbursements.length).Achieves (delivery c w)
      (fun _ => InPhase c w .complete) (fun _ _ => False) (disbursed c m w) := by
  have halfway : InPhase c w .halfway (disbursed c m w) :=
    awaiting.halfway (m := m) rfl rfl (awaiting.cleared m) (.inl rfl)
  have fresh : ¬ (loaded c w).row.status.terminal = true := Bool.false_ne_true
  have idle : ¬ ((loaded c w).outflows.any fun outflow => outflow.2.status.inFlight) = true :=
    Bool.false_ne_true
  rw [dispatch, Proc.achieves_bind]
  refine query_delivers halfway fun i _ => ?_
  rw [awaiting.loaded m, Proc.outcome_ok]
  dsimp only
  rw [if_neg fresh, if_neg idle]
  exact executeDispatch_delivers awaiting m tid

theorem payout_delivers (awaiting : Awaiting c w) (m : Stamps) (tid : Nat) :
    ((existsForLoan c.request.sourceId).bind fun paidOut =>
      if paidOut then .pure ()
      else
        (query fun _ w => loanWithAccount c.request.userId c.request.sourceId w).bind fun read =>
        (createForLoan (disbursementRow c.request.sourceId read.1 read.2)).bind fun disbursementId =>
        dispatch tid disbursementId).Achieves (delivery c w)
      (fun _ => InPhase c w .complete) (fun _ _ => False) (activated c m w) := by
  have halfway : InPhase c w .halfway (activated c m w) :=
    awaiting.halfway (m := m) rfl rfl (awaiting.cleared m) (.inl rfl)
  have none : ((activated c m w).disbursements.any fun row => row.sourceId = c.request.sourceId) =
      false :=
    List.any_eq_false.mpr fun row member => by simpa using awaiting.undisbursed row member
  have loan : (activated c m w).loans[c.request.sourceId]? = some (activeLoan c m) :=
    getElem?_set_of_eq awaiting.loan
  have account : (activated c m w).disbursementAccounts[(activeLoan c m).disbursementAccountId]? =
      some c.account := awaiting.account
  have read : loanWithAccount c.request.userId c.request.sourceId (activated c m w) =
      .ok (activeLoan c m, c.account) := by
    have own : findLoan c.request.userId c.request.sourceId (activated c m w) =
        .ok (activeLoan c m) := by
      simp only [findLoan, loan]
      exact if_pos awaiting.owner
    simp only [loanWithAccount, own, bind, Except.bind, account]
  rw [existsForLoan, Proc.achieves_bind]
  refine query_delivers halfway fun i _ => ?_
  rw [none, Proc.outcome_ok, if_neg Bool.false_ne_true, Proc.achieves_bind]
  refine query_delivers halfway fun j _ => ?_
  rw [read, Proc.outcome_ok, createForLoan, Proc.achieves_bind]
  refine commit_delivers (by simp) rfl halfway fun k => ?_
  refine ⟨w.disbursements.length, disbursed c m w, rfl, ?_,
    dispatch_delivers awaiting m tid⟩
  exact awaiting.halfway (m := m) rfl rfl (awaiting.cleared m) (.inl rfl)

theorem ingest_delivers (awaiting : Awaiting c w) (early : InPhase c w .early s) :
    (ingest ⟨c.amount, c.paymentHash, c.paymentHash⟩).Achieves (delivery c w)
      (fun ingested t => ∃ m now, t = uncached c m w ∧ ingested.2 = some (c.request, now))
      (fun _ _ => False) s := by
  rw [ingest, Proc.achieves_bind]
  refine (createInflow_delivers awaiting early).imp ?_ fun _ _ impossible => impossible
  rintro row t ⟨m, rfl, rfl⟩
  rw [Proc.achieves_bind]
  refine (findPending_delivers awaiting m).imp ?_ fun _ _ impossible => impossible
  rintro found t ⟨rfl, rfl⟩
  dsimp only
  rw [Proc.achieves_bind]
  refine (matchInflow_delivers awaiting m).imp ?_ fun _ _ impossible => impossible
  rintro now t ⟨n, rfl⟩
  exact ⟨n, now, rfl, rfl⟩

theorem handleLoanCollateral_delivers (awaiting : Awaiting c w) (m : Stamps) (tid : Nat)
    (receivedAt : Time) :
    (handleLoanCollateral tid c.request.sourceId c.request.userId receivedAt).Achieves (delivery c w)
      (fun _ => InPhase c w .complete) (fun _ _ => False) (uncached c m w) := by
  rw [handleLoanCollateral, Proc.achieves_bind]
  refine (activateLoan_delivers awaiting m receivedAt).imp ?_ fun _ _ impossible => impossible
  rintro _ t ⟨n, rfl⟩
  exact payout_delivers awaiting n tid

/-- From a state in which nothing is matched, a delivery without faults does all there is to
do. -/
theorem processVerified_delivers {ownAccount : String} {payload : BlinkWebhookPayload}
    (awaiting : Awaiting c w) (pays : Pays c ownAccount payload) (tid : Nat)
    (early : InPhase c w .early s) :
    (processVerified tid ownAccount (some payload)).Achieves (delivery c w)
      (fun _ => InPhase c w .complete) (fun _ _ => False) s := by
  rw [pays.processVerified tid, Proc.achieves_bind]
  refine (ingest_delivers awaiting early).imp ?_ fun _ _ impossible => impossible
  rintro ⟨inflow, _⟩ t ⟨m, now, rfl, rfl⟩
  simp only [awaiting.source]
  rw [Proc.achieves_bind]
  exact handleLoanCollateral_delivers awaiting m tid _

end Steps

def alone : Lone World Answer Access where
  allowed label i _ := Faultless label i
  guar _ _ _ _ := True

section Idle
variable {c : Collateral} {s : World}

theorem createInflow_idles (closed : Closed c.paymentHash s) :
    (createInflow ⟨c.amount, c.paymentHash, c.paymentHash⟩).Achieves alone (fun _ t => t = s)
      (fun _ _ => False) s := by
  obtain ⟨inflow, member, named⟩ := closed.stored
  have stored : (s.inflows.any fun inflow => inflow.providerReference = c.paymentHash) = true :=
    List.any_eq_true.mpr ⟨inflow, member, decide_eq_true named⟩
  rw [createInflow, Proc.achieves_catching]
  refine commit_achieves_refused .uniqueViolation rfl fun i allowed =>
    ⟨allowed.1, by simp [stored], trivial, ?_⟩
  rw [if_pos rfl]
  refine query_achieves fun j allowed => ⟨allowed.1, trivial, ?_⟩
  cases found : findRow s.inflows fun inflow => inflow.providerReference = c.paymentHash with
  | none => cases (decide_eq_true named).symm.trans (findRow_none.mp found inflow member)
  | some row => simp [InflowsService.findInflow, found]

theorem findPending_idles (closed : Closed c.paymentHash s) :
    (findPendingByReceivingAddress c.paymentHash).Achieves alone
      (fun found t => t = s ∧ found = none) (fun _ _ => False) s := by
  rw [findPendingByReceivingAddress, cachedRequest, Proc.achieves_bind]
  refine query_achieves fun i allowed => ⟨allowed.1, trivial, ?_⟩
  rw [Proc.outcome_ok]
  refine query_achieves fun j allowed => ⟨allowed.1, trivial, ?_⟩
  rw [Proc.outcome_ok]
  refine ⟨rfl, ?_⟩
  have byAddress : (findRow s.paymentRequests fun request =>
      request.receivingAddress = c.paymentHash && request.status = .pending) = none := by
    refine findRow_none.mpr fun request member => ?_
    obtain ⟨id, found⟩ := List.mem_iff_getElem?.mp member
    by_cases address : request.receivingAddress = c.paymentHash
    · simp [closed.settled id request found (.inl address)]
    · simp [address]
  cases lost : i.lost with
  | true => exact byAddress
  | false =>
    cases cached : s.pendingRequest c.paymentHash with
    | none => exact byAddress
    | some id =>
      cases found : s.paymentRequests[id]? with
      | none => simp [found]
      | some request => simp [found, closed.settled id request found (.inr cached)]

/-- Once the request is not pending, a delivery changes nothing. -/
theorem processVerified_idles {ownAccount : String} {payload : BlinkWebhookPayload}
    (pays : Pays c ownAccount payload) (tid : Nat) (closed : Closed c.paymentHash s) :
    (processVerified tid ownAccount (some payload)).Achieves alone (fun _ t => t = s)
      (fun _ _ => False) s := by
  rw [pays.processVerified tid, ingest, Proc.achieves_bind, Proc.achieves_bind]
  refine (createInflow_idles closed).imp ?_ fun _ _ impossible => impossible
  rintro row t rfl
  rw [Proc.achieves_bind]
  refine (findPending_idles closed).imp ?_ fun _ _ impossible => impossible
  rintro found u ⟨rfl, rfl⟩
  rfl

end Idle

/-- The loan is ACTIVE, the inflow matched to it, and there is one disbursement with one
dispatched outflow. -/
structure PaidOut (c : Collateral) (w : World) : Prop where
  active : ∃ loan, w.loans[c.request.sourceId]? = some loan ∧ loan.status = .active
  matched : ∃ inflow ∈ w.inflows, inflow.providerReference = c.paymentHash ∧
    inflow.isMatched = true ∧ inflow.sourceId = some c.request.sourceId
  dispatched : ∃ id row outflow,
    (findRows w.disbursements fun row => row.sourceId = c.request.sourceId) = [(id, row)] ∧
    outflowsOf id w = [outflow] ∧ outflow.2.status = .processing ∧
    w.transfers outflow.2.providerReference = .accepted

section Redelivery
variable (ownAccount : String) (payload : BlinkWebhookPayload)

/-- One or more deliveries from `s` to `t`, each to its end and without faults. -/
inductive Redelivered (s : World) : World → Prop where
  | once : (processVerified tid ownAccount (some payload)).exec answers s = some f →
      (∀ e ∈ f.trace, Faultless e.label e.answer) → Redelivered s f.state
  | again : Redelivered s t →
      (processVerified tid ownAccount (some payload)).exec answers t = some f →
      (∀ e ∈ f.trace, Faultless e.label e.answer) → Redelivered s f.state

/-- It can be redelivered, and that always ends as an uninterrupted delivery from `w`. -/
structure Converges (c : Collateral) (w s : World) : Prop where
  ends : ∃ t, Redelivered ownAccount payload s t
  same : ∀ t, Redelivered ownAccount payload s t → ∃ m, t = delivered c m w
  paidOut : ∀ t, Redelivered ownAccount payload s t → PaidOut c t

end Redelivery

section Convergence
variable {c : Collateral} {w s t : World} {ownAccount : String} {payload : BlinkWebhookPayload}

theorem ends_ok {post : α → World → Prop} {f : Finished World Answer Access AppError α}
    (ended : f.Ends post fun _ _ => False) : ∃ a, post a f.state := by
  unfold Finished.Ends at ended
  split at ended
  · exact ⟨_, ended⟩
  · exact ended.elim

theorem exists_redelivered {contract : Lone World Answer Access} {post : HandlerOutcome → World → Prop}
    {err : AppError → World → Prop} {tid : Nat}
    (allows : ∀ label i s, contract.allowed label i s ↔ Faultless label i)
    (achieves : (processVerified tid ownAccount (some payload)).Achieves contract post err s) :
    ∃ t, Redelivered ownAccount payload s t := by
  obtain ⟨_, f, done, faultless⟩ := achieves.ends fun label s =>
    ⟨{}, (allows label {} s).mpr ⟨rfl, fun _ => rfl⟩⟩
  exact ⟨_, .once done fun e member => (allows e.label e.answer e.before).mp (faultless e member)⟩

theorem Redelivered.closed (pays : Pays c ownAccount payload) (closed : Closed c.paymentHash s)
    (redelivered : Redelivered ownAccount payload s t) : t = s := by
  induction redelivered with
  | once done faultless =>
    obtain ⟨_, same⟩ := ends_ok ((processVerified_idles pays _ closed).exec done faultless)
    exact same
  | again _ done faultless ih =>
    subst ih
    obtain ⟨_, same⟩ := ends_ok ((processVerified_idles pays _ closed).exec done faultless)
    exact same

theorem Redelivered.early (awaiting : Awaiting c w) (pays : Pays c ownAccount payload)
    (early : InPhase c w .early s) (redelivered : Redelivered ownAccount payload s t) :
    InPhase c w .complete t := by
  induction redelivered with
  | once done faultless =>
    obtain ⟨_, complete⟩ :=
      ends_ok ((processVerified_delivers awaiting pays _ early).exec done faultless)
    exact complete
  | again _ done faultless ih =>
    have closed := awaiting.closed_of_phase ih fun same => by cases same
    obtain ⟨_, same⟩ := ends_ok ((processVerified_idles pays _ closed).exec done faultless)
    exact same ▸ ih

theorem Awaiting.paidOut (awaiting : Awaiting c w) (complete : InPhase c w .complete t) :
    PaidOut c t := by
  obtain ⟨m, rfl⟩ := complete
  have none : (findRows w.disbursements fun row => row.sourceId = c.request.sourceId) = [] := by
    refine List.eq_nil_iff_forall_not_mem.mpr fun row member => ?_
    obtain ⟨found, own⟩ := mem_findRows.mp member
    exact awaiting.undisbursed row.2 (List.mem_of_getElem? found) (of_decide_eq_true own)
  have fresh : (findRows w.outflows fun outflow =>
      outflow.disbursementId = w.disbursements.length) = [] := by
    refine List.eq_nil_iff_forall_not_mem.mpr fun outflow member => ?_
    obtain ⟨found, own⟩ := mem_findRows.mp member
    exact absurd (of_decide_eq_true own)
      (Nat.ne_of_lt (awaiting.attempts outflow.2 (List.mem_of_getElem? found)).1)
  refine ⟨⟨activeLoan c m, getElem?_set_of_eq awaiting.loan, rfl⟩,
    ⟨_, List.mem_append_right _ (List.mem_singleton.mpr rfl), rfl, rfl, rfl⟩,
    w.disbursements.length, { payoutRow c with status := .processing },
    (w.outflows.length, { outflowRow c w with
      providerTxId := some m.providerTxId, status := .processing, initiatedAt := some m.initiatedAt }),
    (findRows_concat ..).trans ?_, (findRows_concat ..).trans ?_, rfl, ?_⟩
  · rw [none]
    exact if_pos (decide_eq_true rfl)
  · rw [fresh]
    exact if_pos (decide_eq_true rfl)
  · simp [delivered, accepted, outflowRow]

theorem not_converges_of_halfway (pays : Pays c ownAccount payload)
    (halfway : InPhase c w .halfway s) : ¬ Converges ownAccount payload c w s := by
  intro converges
  obtain ⟨t, redelivered⟩ := converges.ends
  obtain ⟨m, done⟩ := converges.same t redelivered
  obtain rfl := redelivered.closed pays halfway.1
  exact not_halfway_of_complete ⟨m, done⟩ halfway

theorem Awaiting.converges (awaiting : Awaiting c w)
    (ends : ∃ t, Redelivered ownAccount payload s t)
    (complete : ∀ t, Redelivered ownAccount payload s t → InPhase c w .complete t) :
    Converges ownAccount payload c w s :=
  ⟨ends, complete, fun t redelivered => awaiting.paidOut (complete t redelivered)⟩

theorem phase_stopped {tid : Nat} {trace : List (Event World Answer Access)}
    {rest : Action HandlerOutcome} (awaiting : Awaiting c w) (pays : Pays c ownAccount payload)
    (stopped : (processVerified tid ownAccount (some payload)).Reaches w trace rest s)
    (faultless : ∀ e ∈ trace, Faultless e.label e.answer) : InPhase c w (phaseAfter trace) s := by
  have begin : InPhase c w .early w := .inl rfl
  have steps := ((processVerified_delivers awaiting pays tid begin).reaches stopped faultless).2
  exact phase_reached awaiting stopped begin steps

/-- A delivery that stopped converges if and only if it had not committed the match yet, or
had recorded the transfer. -/
theorem redelivery_converges_iff {tid : Nat} {trace : List (Event World Answer Access)}
    {rest : Action HandlerOutcome} (awaiting : Awaiting c w) (pays : Pays c ownAccount payload)
    (stopped : (processVerified tid ownAccount (some payload)).Reaches w trace rest s)
    (faultless : ∀ e ∈ trace, Faultless e.label e.answer) :
    Converges ownAccount payload c w s ↔ phaseAfter trace ≠ .halfway := by
  have here := phase_stopped awaiting pays stopped faultless
  cases phase : phaseAfter trace with
  | halfway =>
    rw [phase] at here
    exact ⟨fun converges => absurd converges (not_converges_of_halfway pays here),
      fun other => absurd rfl other⟩
  | early =>
    rw [phase] at here
    have ends := exists_redelivered (fun _ _ _ => Iff.rfl)
      (processVerified_delivers awaiting pays tid here)
    refine ⟨fun _ => Phase.noConfusion, fun _ => awaiting.converges ends fun t redelivered => ?_⟩
    exact redelivered.early awaiting pays here
  | complete =>
    rw [phase] at here
    have closed := awaiting.closed_of_phase here fun same => by cases same
    have ends := exists_redelivered (fun _ _ _ => Iff.rfl) (processVerified_idles pays tid closed)
    refine ⟨fun _ => Phase.noConfusion, fun _ => awaiting.converges ends fun t redelivered => ?_⟩
    exact redelivered.closed pays closed ▸ here

end Convergence

def pendingCollateral : Collateral where
  paymentHash := "hash-1"
  amount := 250000
  requestId := 0
  request := {
    userId := 0
    sourceType := .loan
    sourceId := 0
    expectedAmount := 250000
    receivingAddress := "hash-1"
    paymentRequest := "lnbc1"
    providerReference := "hash-1"
    expiresAt := 1800000 }
  loan := {
    userId := 0
    disbursementAccountId := 0
    collateralAmountSat := 250000
    principalNgn := 100000
    satNgnRateAtCreation := 6 / 10 }
  account := {
    userId := 0
    kind := .bank
    providerName := "Bank"
    providerCode := "100001"
    accountUnique := "0123456789"
    accountHolderName := some "Ada"
    isDefault := true
    status := .verified }

def pendingLoan : World where
  loans := [pendingCollateral.loan]
  paymentRequests := [pendingCollateral.request]
  disbursementAccounts := [pendingCollateral.account]

def collateralPaid : BlinkWebhookPayload :=
  ⟨"account", "receive.lightning", some "hash-1", none, 250000⟩

theorem pendingLoan_awaiting : Awaiting pendingCollateral pendingLoan where
  requested := rfl
  pending := rfl
  source := rfl
  address := rfl
  alone id _ found _ := by
    have bound := (List.getElem?_eq_some_iff.mp found).1
    simp only [pendingLoan, List.length_singleton] at bound
    exact Nat.lt_one_iff.mp bound
  cached _ cached := by cases cached
  new := by simp [pendingLoan]
  paidBy := by simp [pendingLoan, pendingCollateral]
  loan := rfl
  owner := rfl
  waiting := rfl
  free := rfl
  account := rfl
  coded := by decide
  undisbursed := by simp [pendingLoan]
  attempts := by simp [pendingLoan]
  untransferred := rfl

theorem collateralPaid_pays : Pays pendingCollateral "account" collateralPaid :=
  ⟨rfl, by decide +kernel, rfl, by decide, rfl⟩

/-- A delivery that makes `accesses` accesses, with no fault, and stops. -/
theorem exists_stopped (accesses : Nat) (check : List (Event World Answer Access) → World → Bool)
    (checked : ((processVerified 0 "account" (some collateralPaid)).stopped
      (List.replicate accesses {}) pendingLoan).any (fun r =>
        check r.1 r.2 && r.1.all fun e => !e.answer.fails && !e.answer.lost) = true) :
    ∃ trace rest s,
      (processVerified 0 "account" (some collateralPaid)).Reaches pendingLoan trace rest s ∧
      (∀ e ∈ trace, Faultless e.label e.answer) ∧ check trace s = true := by
  obtain ⟨r, made, good⟩ := (Option.any_eq_true _ _).mp checked
  obtain ⟨rest, reached⟩ := Proc.stopped_reaches made
  simp only [Bool.and_eq_true, List.all_eq_true, Bool.not_eq_true'] at good
  exact ⟨r.1, rest, r.2, reached, fun e member => ⟨(good.2 e member).1, fun _ => (good.2 e member).2⟩,
    good.1⟩

/-- Stopped after the inflow is stored. -/
theorem redelivery_converges_iff_stored : ∃ trace rest s,
    (processVerified 0 "account" (some collateralPaid)).Reaches pendingLoan trace rest s ∧
    s.inflows.length = 1 ∧ Converges "account" collateralPaid pendingCollateral pendingLoan s := by
  obtain ⟨trace, rest, s, reached, faultless, checked⟩ := exists_stopped 2 (fun trace s =>
    decide (phaseAfter trace ≠ .halfway ∧ s.inflows.length = 1)) (by decide +kernel)
  obtain ⟨notHalfway, stored⟩ := of_decide_eq_true checked
  exact ⟨trace, rest, s, reached, stored,
    (redelivery_converges_iff pendingLoan_awaiting collateralPaid_pays reached faultless).mpr notHalfway⟩

/-- Stopped after the match is committed, the loan stays without its payout. -/
theorem redelivery_diverges : ∃ trace rest s, Awaiting pendingCollateral pendingLoan ∧
    Pays pendingCollateral "account" collateralPaid ∧
    (processVerified 0 "account" (some collateralPaid)).Reaches pendingLoan trace rest s ∧
    (∀ e ∈ trace, Faultless e.label e.answer) ∧
    ¬ Converges "account" collateralPaid pendingCollateral pendingLoan s := by
  obtain ⟨trace, rest, s, reached, faultless, checked⟩ :=
    exists_stopped 4 (fun trace _ => decide (phaseAfter trace = .halfway)) (by decide +kernel)
  have here := phase_stopped pendingLoan_awaiting collateralPaid_pays reached faultless
  rw [of_decide_eq_true checked] at here
  exact ⟨trace, rest, s, pendingLoan_awaiting, collateralPaid_pays, reached, faultless,
    not_converges_of_halfway collateralPaid_pays here⟩

end Bitmonie.CollateralRedelivery
